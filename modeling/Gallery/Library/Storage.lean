import Gallery.Library.Basic

/-!
The written form of a library: one line for each row, the fields of a row between tabs. In a field a
backslash stands before the letters that mean a tab, a line feed or a carriage return, and before a
backslash. Reading gives back what was written, and refuses everything else.
-/

namespace Gallery.Storage

abbrev Row := List String

def header : Row := ["picture library", "1"]

def escapeChar : Char → List Char
  | '\\' => ['\\', '\\']
  | '\t' => ['\\', 't']
  | '\n' => ['\\', 'n']
  | '\r' => ['\\', 'r']
  | c => [c]

def writeField (field : String) (rest : List Char) : List Char :=
  field.toList.flatMap escapeChar ++ rest

def writeRow (rest : List Char) : Row → List Char
  | [] => '\n' :: rest
  | [field] => writeField field ('\n' :: rest)
  | field :: others => writeField field ('\t' :: writeRow rest others)

def writeRows : List Row → List Char
  | [] => []
  | row :: rest => writeRow (writeRows rest) row

/-- The rows in a text, given what has been read of the current row and of its last field, both
backwards. The text must end with a row. -/
def readRows (fields : Row) (field : List Char) : List Char → Option (List Row)
  | [] => if fields.isEmpty && field.isEmpty then some [] else none
  | '\n' :: rest =>
      (readRows [] [] rest).map ((String.ofList field.reverse :: fields).reverse :: ·)
  | '\t' :: rest => readRows (String.ofList field.reverse :: fields) [] rest
  | '\\' :: 't' :: rest => readRows fields ('\t' :: field) rest
  | '\\' :: 'n' :: rest => readRows fields ('\n' :: field) rest
  | '\\' :: 'r' :: rest => readRows fields ('\r' :: field) rest
  | '\\' :: '\\' :: rest => readRows fields ('\\' :: field) rest
  | '\\' :: _ => none
  | c :: rest => readRows fields (c :: field) rest

def optional (value : Option String) : String :=
  match value with
  | none => ""
  | some text => "+" ++ text

def optional? (field : String) : Option (Option String) :=
  match field.toList with
  | [] => some none
  | '+' :: text => some (some (String.ofList text))
  | _ => none

def optionalInt? (field : String) : Option (Option Int) :=
  match optional? field with
  | some none => some none
  | some (some text) => text.toInt?.map some
  | none => none

def rows (library : Library) : List Row :=
  [header, ["last", toString library.lastTagType, toString library.lastTag,
      toString library.lastPicture]] ++
    library.tagTypes.map (fun stored =>
      ["type", toString stored.id, stored.label, stored.symbol, toString stored.color]) ++
    library.tags.map (fun tag =>
      ["tag", toString tag.id, tag.label, optional (tag.typeId.map toString),
        optional tag.definition]) ++
    library.pictures.map (fun picture =>
      ["picture", toString picture.id, picture.path,
        optional (picture.hash.map fun hash => toString hash.toInt)]) ++
    library.attachments.map (fun attachment =>
      ["carries", toString attachment.picture, toString attachment.tag])

def readRow (library : Library) : Row → Option Library
  | ["last", tagType, tag, picture] => do
      return { library with
        lastTagType := ← tagType.toInt?
        lastTag := ← tag.toInt?
        lastPicture := ← picture.toInt? }
  | ["type", id, label, symbol, color] => do
      let stored : StoredTagType := ⟨← id.toInt?, label, symbol, ← color.toInt?⟩
      return { library with tagTypes := library.tagTypes ++ [stored] }
  | ["tag", id, label, typeId, definition] => do
      let tag : Tag := ⟨← id.toInt?, label, ← optionalInt? typeId, ← optional? definition⟩
      return { library with tags := library.tags ++ [tag] }
  | ["picture", id, path, hash] => do
      let picture : Picture :=
        ⟨← id.toInt?, path, (← optionalInt? hash).map PictureHash.ofInt⟩
      return { library with pictures := library.pictures ++ [picture] }
  | ["carries", picture, tag] => do
      let attachment : Attachment := ⟨← picture.toInt?, ← tag.toInt?⟩
      return { library with attachments := library.attachments ++ [attachment] }
  | _ => none

def write (library : Library) : String :=
  String.ofList (writeRows (rows library))

def read (text : String) : Option Library :=
  if text.isEmpty then some .empty
  else
    match readRows [] [] text.toList with
    | some (first :: rest) => if first = header then rest.foldlM readRow .empty else none
    | _ => none

end Gallery.Storage
