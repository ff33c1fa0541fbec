import Gallery.Catalogue
import Gallery.Hash.Similarity

/-!
The picture library: tag types, tags and pictures, each in a table of its own, and which picture
carries which tag. A table hands out ascending identities and never hands one out twice, so it
remembers the highest one.
-/

namespace Gallery

structure Picture where
  id : Int
  path : String
  hash : Option PictureHash
  deriving DecidableEq, Repr

/-- A stored tag type. Others may have stored what is no tag type: a symbol that is not one
character, or a color out of range. -/
structure StoredTagType where
  id : Int
  label : String
  symbol : String
  color : Int
  deriving DecidableEq, Repr

structure Attachment where
  picture : Int
  tag : Int
  deriving DecidableEq, Repr

/-- The state of a library. The rows of every table are in the order of their identities. -/
structure Library where
  tagTypes : List StoredTagType
  tags : List Tag
  pictures : List Picture
  attachments : List Attachment
  /-- The highest identities that the tables have handed out. -/
  lastTagType : Int
  lastTag : Int
  lastPicture : Int
  deriving DecidableEq, Repr

def TagType.stored (tagType : TagType) : StoredTagType :=
  ⟨tagType.id, tagType.label, tagType.symbol.toString, tagType.color⟩

def StoredTagType.tagType? (stored : StoredTagType) : Option TagType :=
  match stored.symbol.toList with
  | [symbol] =>
      if 0 ≤ stored.color ∧ stored.color < 0x100000000 then
        some ⟨stored.id, stored.label, symbol, stored.color.toNat⟩
      else none
  | _ => none

namespace Library

def empty : Library := ⟨[], [], [], [], 0, 0, 0⟩

def tag? (library : Library) (label : String) : Option Tag :=
  library.tags.find? (·.label == label)

def picture? (library : Library) (id : Int) : Option Picture :=
  library.pictures.find? (·.id == id)

def pictureAt? (library : Library) (path : String) : Option Picture :=
  library.pictures.find? (·.path == path)

def storedTagType? (library : Library) (symbol : Char) : Option StoredTagType :=
  library.tagTypes.find? (·.symbol == symbol.toString)

def tagsOf (library : Library) (picture : Int) : List String :=
  ((library.tags.filter fun tag => library.attachments.contains ⟨picture, tag.id⟩).map
    (·.label)).mergeSort

def tagCount (library : Library) (tag : Int) : Nat :=
  library.attachments.countP (·.tag == tag)

/-- Every row with each of the others that belong to it, or alone when none does. -/
def leftJoin {Row Other : Type} (rows : List Row) (others : List Other)
    (belongs : Row → Other → Bool) : List (Row × Option Other) :=
  rows.flatMap fun row =>
    match others.filter (belongs row) with
    | [] => [(row, none)]
    | found => found.map fun other => (row, some other)

def countJoined {Row Other : Type} (id : Row → Int) (joined : List (Row × Option Other)) :
    List (Int × Nat) :=
  (joined.map fun pair => id pair.1).eraseDups.map fun key =>
    (key, joined.countP fun pair => id pair.1 == key && pair.2.isSome)

def tagCounts (library : Library) : List (Int × Nat) :=
  countJoined Tag.id (leftJoin library.tags library.attachments fun tag attachment =>
    attachment.tag == tag.id)

def tagTypeCounts (library : Library) : List (Int × Nat) :=
  countJoined StoredTagType.id (leftJoin library.tagTypes library.tags fun stored tag =>
    tag.typeId == some stored.id)

end Library

end Gallery
