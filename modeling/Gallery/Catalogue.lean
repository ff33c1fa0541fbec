import Gallery.Query.Parse
import Gallery.Query.Expansion
import Gallery.Query.Condition

/-!
The catalogue of tags and tag types, the rules for labels, symbols and definitions, and what goes
wrong when a rule is broken. Queries are compiled against a catalogue.
-/

namespace Gallery

structure TagType where
  id : Int
  label : String
  symbol : Char
  /-- Red, green and blue, packed as `0xRRGGBB`. -/
  color : Nat
  deriving DecidableEq, Repr, Inhabited

/-- A tag. A tag with a definition is compound. -/
structure Tag where
  id : Int
  label : String
  typeId : Option Int
  definition : Option String
  deriving DecidableEq, Repr, Inhabited

def Tag.isCompound (tag : Tag) : Bool :=
  tag.definition.isSome

inductive CatalogueError where
  | invalidLabel (label : String)
  | invalidSymbol (symbol : Char)
  | duplicateSymbol (symbol : Char)
  | unknownTagType (symbol : Char)
  | unknownTagTypeId (id : Int)
  | duplicateLabel (label : String)
  | tagReferenced (label user : String)
  | duplicatePath (path : String)
  | unknownTag (label : String)
  | invalidDefinition (label reason : String)
  | compoundTagAttached (label : String)
  | tagInUse (label : String)
  deriving DecidableEq, Repr

def CatalogueError.message : CatalogueError → String
  | invalidLabel label => "invalid tag label: '" ++ label ++ "'"
  | invalidSymbol symbol => "invalid tag type symbol: '" ++ symbol.toString ++ "'"
  | duplicateSymbol symbol => "tag type symbol '" ++ symbol.toString ++ "' is already used"
  | unknownTagType symbol => "unknown tag type symbol: '" ++ symbol.toString ++ "'"
  | unknownTagTypeId id => "unknown tag type id: " ++ toString id
  | duplicateLabel label => "tag '" ++ label ++ "' already exists"
  | tagReferenced label user =>
      "tag '" ++ label ++ "' is referenced by the definition of '" ++ user ++ "'"
  | duplicatePath path => "a picture is already registered at '" ++ path ++ "'"
  | unknownTag label => "unknown tag: '" ++ label ++ "'"
  | invalidDefinition label reason =>
      "invalid definition for tag '" ++ label ++ "': " ++ reason
  | compoundTagAttached label =>
      "compound tag '" ++ label ++ "' cannot be attached to a picture"
  | tagInUse label =>
      "tag '" ++ label ++ "' is attached to pictures and cannot get a definition"

def validateLabel (label : String) : Except CatalogueError Unit :=
  if Query.isLabel label then .ok () else .error (.invalidLabel label)

/-- Checks that a character can be the symbol of a tag type, and once more that it is not the mark of
a pseudo-tag. -/
def validateSymbol (symbol : Char) : Except CatalogueError Unit :=
  if !Query.isTypeSymbol symbol || symbol == Query.pseudoMark then
    .error (.invalidSymbol symbol)
  else .ok ()

def mentions (definition label : String) : Bool :=
  match Query.parse definition with
  | .ok expr => expr.labels.contains label
  | .error _ => false

def validateDefinition (label definition : String) : Except CatalogueError Unit :=
  match Query.parse definition with
  | .error error => .error (.invalidDefinition label error.message)
  | .ok expr =>
      if expr.labels.contains label then
        .error (.invalidDefinition label "the definition references the tag itself")
      else .ok ()

structure Catalogue where
  tagTypes : List TagType
  tags : List Tag
  deriving DecidableEq, Repr

namespace Catalogue

def empty : Catalogue := ⟨[], []⟩

def insertTagType (catalogue : Catalogue) (tagType : TagType) : Catalogue :=
  { catalogue with
    tagTypes := catalogue.tagTypes.filter (·.symbol != tagType.symbol) ++ [tagType] }

def insertTag (catalogue : Catalogue) (tag : Tag) : Catalogue :=
  { catalogue with tags := catalogue.tags.filter (·.label != tag.label) ++ [tag] }

def ofLists (tagTypes : List TagType) (tags : List Tag) : Catalogue :=
  tags.foldl insertTag (tagTypes.foldl insertTagType empty)

def tag? (catalogue : Catalogue) (label : String) : Option Tag :=
  catalogue.tags.find? (·.label == label)

def tagType? (catalogue : Catalogue) (symbol : Char) : Option TagType :=
  catalogue.tagTypes.find? (·.symbol == symbol)

def definition? (catalogue : Catalogue) (label : String) : Option String :=
  (catalogue.tag? label).bind (·.definition)

def hasType (catalogue : Catalogue) (label : String) (symbol : Char) : Bool :=
  match catalogue.tag? label, catalogue.tagType? symbol with
  | some tag, some tagType => tag.typeId == some tagType.id
  | _, _ => false

def definitions (catalogue : Catalogue) : Query.Definitions :=
  ⟨catalogue.definition?, catalogue.hasType⟩

def lookup (catalogue : Catalogue) : Query.TagLookup :=
  ⟨fun label => (catalogue.tag? label).map fun tag => (tag.id, tag.typeId),
    fun symbol => (catalogue.tagType? symbol).map (·.id)⟩

def referencing (catalogue : Catalogue) (label : String) : List String :=
  ((catalogue.tags.filter fun tag =>
    tag.label != label && tag.definition.any (mentions · label)).map (·.label)).mergeSort

end Catalogue

end Gallery
