import Gallery.Library.Basic
import Gallery.Library.Error

/-!
The tag types of a library: reading them, together with the tags, as a catalogue, and changing them.
-/

namespace Gallery.Library

def readTagTypes (library : Library) : Except LibraryError (List TagType) :=
  match library.tagTypes.mapM StoredTagType.tagType? with
  | some tagTypes => .ok tagTypes
  | none => .error (.failed .readCatalogue Statement.tagTypes .undecodable)

def catalogue (library : Library) : Except LibraryError Catalogue :=
  library.readTagTypes.map fun tagTypes => .ofLists tagTypes library.tags

def fetchTagType (library : Library) (symbol : Char) : Except LibraryError TagType :=
  match library.storedTagType? symbol with
  | none => .error (.refused (.unknownTagType symbol))
  | some stored =>
      match stored.tagType? with
      | some tagType => .ok tagType
      | none => .error (.failed .readCatalogue Statement.tagTypeBySymbol .undecodable)

def validateTagType (label : String) (symbol : Char) : Except CatalogueError Unit := do
  validateSymbol symbol
  if Text.isBlankText label.toList then throw (.invalidLabel label)

/-- Adds a tag type. Its symbol and its label must be new. -/
def insertTagType (library : Library) (label : String) (symbol : Char) (color : Nat) :
    Except LibraryError (TagType × Library) :=
  match validateTagType label symbol with
  | .error error => .error (.refused error)
  | .ok _ =>
      if (library.storedTagType? symbol).isSome then .error (.refused (.duplicateSymbol symbol))
      else if library.tagTypes.any (·.label == label) then
        .error (.failed (.insertTagType label) Statement.insertTagType
          (.notUnique "tag_types.label"))
      else
        let tagType : TagType := ⟨library.lastTagType + 1, label, symbol, color⟩
        .ok (tagType, { library with
          tagTypes := library.tagTypes ++ [tagType.stored]
          lastTagType := tagType.id })

def updateTagType (library : Library) (symbol : Char) (label : String) (newSymbol : Char)
    (color : Nat) : Except LibraryError (TagType × Library) :=
  match validateTagType label newSymbol with
  | .error error => .error (.refused error)
  | .ok _ => do
      let old ← library.fetchTagType symbol
      if library.tagTypes.any fun other =>
          other.symbol == newSymbol.toString && other.id != old.id then
        throw (.refused (.duplicateSymbol newSymbol))
      if library.tagTypes.any fun other => other.label == label && other.id != old.id then
        throw (.failed (.updateTagType symbol) Statement.updateTagType
          (.notUnique "tag_types.label"))
      let tagType : TagType := ⟨old.id, label, newSymbol, color⟩
      return (tagType, { library with
        tagTypes := library.tagTypes.map fun stored =>
          if stored.id = old.id then tagType.stored else stored })

/-- Removes the tag type with the given symbol. Its tags stay, without a type. -/
def deleteTagType (library : Library) (symbol : Char) :
    Except LibraryError (TagType × Library) := do
  let tagType ← library.fetchTagType symbol
  return (tagType, { library with
    tagTypes := library.tagTypes.filter (·.id != tagType.id)
    tags := library.tags.map fun tag =>
      if tag.typeId = some tagType.id then { tag with typeId := none } else tag })

end Gallery.Library
