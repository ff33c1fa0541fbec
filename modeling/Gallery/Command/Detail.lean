import Gallery.Command.DatabaseUrl
import Gallery.Library.Error
import Gallery.Library.Basic

/-!
Detailed written forms: the records and the failures of a library with all that they hold, as the
command line shows them.
-/

namespace Gallery

open Text (quoted quotedChar quotedRaw record wrapped)

/-! Records -/

def PictureHash.detail (hash : PictureHash) : String :=
  wrapped "PictureHash" [toString hash.bits.toNat]

def Picture.detail (picture : Picture) : String :=
  record "Picture" [("id", toString picture.id), ("path", quoted picture.path),
    ("hash", Text.optional (picture.hash.map PictureHash.detail))]

def Tag.detail (tag : Tag) : String :=
  record "Tag" [("id", toString tag.id), ("label", quoted tag.label),
    ("type_id", Text.optional (tag.typeId.map toString)),
    ("definition", Text.optional (tag.definition.map quoted))]

def TagType.detail (tagType : TagType) : String :=
  record "TagType" [("id", toString tagType.id), ("label", quoted tagType.label),
    ("symbol", quotedChar tagType.symbol), ("color", toString tagType.color)]

/-! Queries -/

namespace Query

def SyntaxFault.detail : SyntaxFault → String
  | unexpectedToken => "UnexpectedToken"
  | unbalancedParenthesis => "UnbalancedParenthesis"
  | expectedExpression => "ExpectedExpr"
  | unterminatedString => "UnterminatedString"
  | tooDeep => "TooDeep"

def SyntaxError.detail (error : SyntaxError) : String :=
  record "ParseErrorDetail" [("kind", error.fault.detail), ("location", quoted error.location)]

def QueryError.detail : QueryError → String
  | unreadable error => wrapped "Syntax" [error.detail]
  | unreadableDefinition label error =>
      record "DefinitionSyntax" [("label", quoted label), ("source", error.detail)]
  | invalidPseudoTag name => record "InvalidPseudoTag" [("name", quoted name)]
  | cycle label => record "CycleDetected" [("label", quoted label)]
  | tooLarge budget => record "TooLarge" [("max_nodes", toString budget)]

end Query

/-! The library -/

def CatalogueError.detail : CatalogueError → String
  | invalidLabel label => record "InvalidLabel" [("label", quoted label)]
  | invalidSymbol symbol => record "InvalidSymbol" [("symbol", quotedChar symbol)]
  | duplicateSymbol symbol => record "DuplicateSymbol" [("symbol", quotedChar symbol)]
  | unknownTagType symbol => record "UnknownTagType" [("symbol", quotedChar symbol)]
  | unknownTagTypeId id => record "UnknownTagTypeId" [("id", toString id)]
  | duplicateLabel label => record "DuplicateLabel" [("label", quoted label)]
  | tagReferenced label user =>
      record "TagReferenced" [("label", quoted label), ("by", quoted user)]
  | duplicatePath path => record "DuplicatePath" [("path", quoted path)]
  | unknownTag label => record "UnknownTag" [("label", quoted label)]
  | invalidDefinition label reason =>
      record "InvalidDefinition" [("label", quoted label), ("reason", quoted reason)]
  | compoundTagAttached label => record "CompoundTagAttached" [("label", quoted label)]
  | tagInUse label => record "TagInUse" [("label", quoted label)]

def storeReport (code : Nat) (message : String) : String :=
  wrapped "Database"
    [record "SqliteError" [("code", toString code), ("message", quoted message)]]

def StatementFault.detail : StatementFault → String
  | notUnique column => storeReport 2067 ("UNIQUE constraint failed: " ++ column)
  | noSuchRow => storeReport 787 "FOREIGN KEY constraint failed"
  | undecodable => wrapped "Decode" [quoted "invalid tag type"]
  | function message => storeReport 1 message
  | meaningless => storeReport 1 "SQL logic error"
  | locked => storeReport 5 "database is locked"
  | beyond .depth =>
      storeReport 1 ("Expression tree is too large (maximum depth " ++ toString Sql.depthLimit ++ ")")
  | beyond .parameters => storeReport 1 "too many SQL variables"

def LibraryError.detail : LibraryError → String
  | refused error => wrapped "Catalog" [error.detail]
  | failed activity statement fault =>
      record "QueryFailed" [("operation", activity.text), ("sql", quoted statement),
        ("source", fault.detail)]
  | transaction fault => record "TransactionFailed" [("source", fault.detail)]
  | cancelled => "Cancelled"

/-! Files -/

def HashError.detail : HashError → String
  | unreadable path cause => record "Io" [("path", quotedRaw path), ("source", cause)]
  | undecodable cause => wrapped "Decode" [cause]

def Failure.detail : Failure → String
  | query error => wrapped "Query" [error.detail]
  | library error => wrapped "Database" [error.detail]
  | hash error => wrapped "Hash" [error.detail]
  | unknownPicture id => record "PictureNotFound" [("id", toString id)]
  | invalidPath path => record "InvalidPath" [("path", quotedRaw path)]

end Gallery
