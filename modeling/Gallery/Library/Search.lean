import Gallery.Library.Pictures
import Gallery.Platform
import Gallery.Query.Selection
import Gallery.Sql.Limit

/-!
Searching a library: the pictures on which the condition of a query is true, and the pictures that
are similar to a hash.
-/

namespace Gallery.Library

def idValue : Option Int → Sql.Value
  | none => .null
  | some id => .integer id

def textValue : Option String → Sql.Value
  | none => .null
  | some text => .text text

def pictureColumns : List (String × Sql.Affinity) :=
  [("id", .number), ("path", .text), ("hash", .number)]

def pictureRow (picture : Picture) : List Sql.Value :=
  [.integer picture.id, .text picture.path, idValue (picture.hash.map PictureHash.toInt)]

def readHash? : Sql.Value → Option (Option PictureHash)
  | .null => some none
  | .integer n => some (some (.ofInt n))
  | _ => none

def readPicture? : List Sql.Value → Option Picture
  | [.integer id, .text path, hash] => (readHash? hash).map fun hash => ⟨id, path, hash⟩
  | _ => none

def table? (library : Library) : String → Option Sql.Table
  | "pictures" => some ⟨pictureColumns, library.pictures.map pictureRow⟩
  | "picture_tag" =>
      some ⟨[("picture_id", .number), ("tag_id", .number)],
        library.attachments.map fun attachment =>
          [.integer attachment.picture, .integer attachment.tag]⟩
  | "tags" =>
      some ⟨[("id", .number), ("label", .text), ("type_id", .number), ("definition", .text)],
        library.tags.map fun tag =>
          [.integer tag.id, .text tag.label, idValue tag.typeId, textValue tag.definition]⟩
  | "tag_types" =>
      some ⟨[("id", .number), ("label", .text), ("symbol", .text), ("color", .number)],
        library.tagTypes.map fun stored =>
          [.integer stored.id, .text stored.label, .text stored.symbol, .integer stored.color]⟩
  | _ => none

def world (library : Library) (platform : Platform) : Sql.World :=
  ⟨library.table?, platform.files.contains, platform.engine⟩

def pictureScope (picture : Picture) : Sql.Scope :=
  [⟨"p", pictureColumns, pictureRow picture⟩]

def picturesWhere (library : Library) (platform : Platform) (expression : Sql.Expression) :
    Except Sql.FunctionError (List Picture) :=
  library.pictures.filterM fun picture => do
    let value ← expression.evaluate (library.world platform) (pictureScope picture)
    return value.truth? == some true

/-- The expression of a condition, when its statement is accepted. -/
def prepare (library : Library) (platform : Platform) (condition : Query.Condition) :
    Except StatementFault Sql.Expression :=
  match condition.expression? with
  | none => .error .meaningless
  | some expression =>
      match Sql.exceeded? condition.parameters expression with
      | some limit => .error (.beyond limit)
      | none =>
          if expression.isResolved (library.world platform) [⟨"p", pictureColumns, []⟩] then
            .ok expression
          else .error .meaningless

def picturesMatching (library : Library) (platform : Platform) (condition : Query.Condition) :
    Except LibraryError (List Picture) :=
  let failed := fun fault => Except.error (.failed .queryPictures condition.statement fault)
  match library.prepare platform condition with
  | .error fault => failed fault
  | .ok expression =>
      match library.picturesWhere platform expression with
      | .ok pictures => .ok pictures
      | .error error => failed (.function error.message)

def run (library : Library) (platform : Platform) (query : Query.Compiled) :
    Except LibraryError (List Picture) :=
  match query.condition with
  | none => .ok []
  | some condition => library.picturesMatching platform condition

def runUnless (library : Library) (cancelled : Bool) (platform : Platform)
    (query : Query.Compiled) : Except LibraryError (List Picture) :=
  if cancelled then .error .cancelled else library.run platform query

def compile (library : Library) (text : String) (registry : Query.Registry)
    (settings : CompilerSettings) : Except Failure Query.Compiled :=
  match library.catalogue with
  | .error error => .error (.library error)
  | .ok catalogue =>
      match Query.compile text catalogue registry settings with
      | .error error => .error (.query error)
      | .ok query => .ok query

def search (library : Library) (platform : Platform) (text : String) (registry : Query.Registry)
    (settings : CompilerSettings) : Except Failure (List Picture) := do
  let query ← library.compile text registry settings
  (library.run platform query).mapError .library

def searchUnless (library : Library) (cancelled : Bool) (platform : Platform) (text : String)
    (registry : Query.Registry) (settings : CompilerSettings) : Except Failure (List Picture) :=
  if cancelled then .error (.library .cancelled)
  else library.search platform text registry settings

structure Similar where
  picture : Picture
  distance : Nat
  deriving DecidableEq, Repr

def Similar.confidence (similar : Similar) : Float32 :=
  confidenceAt similar.distance

def Similar.isBefore (a b : Similar) : Bool :=
  a.distance < b.distance || (a.distance == b.distance && a.picture.path ≤ b.picture.path)

def similar? (hash : PictureHash) (picture : Picture) : Option Similar :=
  picture.hash.bind fun own =>
    if own.isSimilar hash then some ⟨picture, own.distance hash⟩ else none

def similarPictures (library : Library) (hash : PictureHash) (except : Option Int) :
    List Similar :=
  ((library.pictures.filter fun picture => some picture.id != except).filterMap
    (similar? hash)).mergeSort Similar.isBefore

def findSimilar (library : Library) (id : Int) : Except Failure (List Similar) :=
  match library.picture? id with
  | none => .error (.unknownPicture id)
  | some picture =>
      .ok (match picture.hash with
        | none => []
        | some hash => library.similarPictures hash (some id))

end Gallery.Library
