import Gallery.Command.Basic
import Gallery.Command.Detail
import Gallery.Library.Registration
import Gallery.Library.Search
import Gallery.Text.Decimal

/-!
What the commands do: each turns a library into another and says what is printed, or why it stopped.
What a command has done before it stopped stays done.
-/

namespace Gallery

open Text (quoted wrapped)

inductive OpenFault where
  | address (fault : DatabaseUrl.AddressFault)
  | unreachable
  | notLibrary
  deriving DecidableEq, Repr

def OpenFault.detail : OpenFault → String
  | address (.unknownParameter name) =>
      wrapped "Configuration"
        [quoted ("unknown query parameter \x60" ++ name ++ "\x60 while parsing connection URL")]
  | address (.unknownValue name value) =>
      wrapped "Configuration"
        [quoted ("unknown value " ++ quoted value ++ " for \x60" ++ name ++ "\x60")]
  | address .invalidText => wrapped "Configuration" ["Utf8Error"]
  | unreachable => storeReport 14 "unable to open database file"
  | notLibrary => storeReport 26 "file is not a database"

inductive Stop where
  | unopened (fault : OpenFault)
  | failure (error : Failure)
  | notRegistered (path : String)
  | invalidColor (color : String)
  deriving DecidableEq, Repr

namespace Stop

def line : Stop → String
  | unopened fault => "Error: " ++ wrapped "Connection" [fault.detail]
  | failure error => "Error: " ++ error.detail
  | notRegistered path => "picture not registered: " ++ path
  | invalidColor color => "invalid color: '" ++ color ++ "'"

def code : Stop → Nat
  | invalidColor _ => 2
  | _ => 1

def ofLibraryError (error : LibraryError) : Stop :=
  .failure (.library error)

def ofRefusal (error : CatalogueError) : Stop :=
  .ofLibraryError (.refused error)

end Stop

namespace Command

abbrev Answer := Except Stop (List String)

def change (library : Library) (stop : ε → Stop) (lines : α → List String) :
    Except ε (α × Library) → Library × Answer
  | .ok (value, changed) => (changed, .ok (lines value))
  | .error error => (library, .error (stop error))

def registered? (library : Library) (path : Text.RawText) : Except Stop (Option Picture) :=
  match path.text? with
  | some text => .ok (library.pictureAt? text)
  | none => .error (.failure (.invalidPath path))

def registered (library : Library) (path : Text.RawText) : Except Stop Picture := do
  match ← registered? library path with
  | some picture => return picture
  | none => throw (.notRegistered path.lossy)

def withRegistered (library : Library) (path : Text.RawText)
    (next : Picture → Library × Answer) : Library × Answer :=
  match registered library path with
  | .ok picture => next picture
  | .error stop => (library, .error stop)

def readColor? (color : String) : Option Nat :=
  (Text.readHex? (color.toList.dropWhile (· == '#'))).filter (· ≤ 0xFFFFFF)

def colorText (color : Nat) : String :=
  let digits := Text.hexText color
  String.ofList (List.replicate (6 - digits.length) '0' ++ digits)

def typeIdOf (library : Library) (symbol : Char) : Except Stop Int :=
  match library.catalogue with
  | .error error => .error (.ofLibraryError error)
  | .ok catalogue =>
      match catalogue.tagType? symbol with
      | some found => .ok found.id
      | none => .error (.ofRefusal (.unknownTagType symbol))

def addTag (library : Library) (label : String) (symbol : Option Char)
    (definition : Option String) : Library × Answer :=
  match symbol.mapM (typeIdOf library) with
  | .error stop => (library, .error stop)
  | .ok typeId =>
      change library .ofRefusal (fun tag => [tag.detail])
        (library.insertTag label typeId definition)

/-- The pictures similar to a file: those similar to its picture when it is registered, and to its
hash otherwise. -/
def similarTo (library : Library) (platform : Platform) (path : Text.RawText) :
    Except Stop (List Library.Similar) := do
  match ← registered? library path with
  | some picture => (library.findSimilar picture.id).mapError .failure
  | none =>
      match platform.hashOfFile path with
      | .ok own => return library.similarPictures own none
      | .error error => throw (.failure (.hash error))

def similarLine (similar : Library.Similar) : String :=
  Text.fixedPlaces 3 similar.confidence ++ "\t" ++ similar.picture.path

def tagTypeLine (library : Library) (tagType : TagType) : String :=
  let count := (library.tagTypeCounts.lookup tagType.id).getD 0
  tagType.symbol.toString ++ "\t" ++ tagType.label ++ "\t#" ++ colorText tagType.color ++ "\t" ++
    toString count ++ " tags"

def tagLine (library : Library) (tag : Tag) : String :=
  match tag.definition with
  | some definition => tag.label ++ " := " ++ definition
  | none => tag.label ++ "\t" ++ toString ((library.tagCounts.lookup tag.id).getD 0)

def tagLines (library : Library) : Answer :=
  match library.catalogue with
  | .error error => .error (.ofLibraryError error)
  | .ok catalogue =>
      let tagTypes := catalogue.tagTypes.mergeSort fun a b => a.symbol ≤ b.symbol
      let tags := catalogue.tags.mergeSort fun a b => a.label ≤ b.label
      .ok (tagTypes.map (tagTypeLine library) ++ tags.map (tagLine library))

def moveTo (library : Library) (newPath : Text.RawText) (picture : Picture) : Library × Answer :=
  match newPath.text? with
  | none => (library, .error (.failure (.invalidPath newPath)))
  | some text =>
      change library .ofRefusal (fun moved => moved.toList.map Picture.detail)
        (library.movePicture picture.id text)

def hashLines (platform : Platform) (path : Text.RawText) : Answer :=
  match platform.hashOfFile path with
  | .ok own => .ok [own.text]
  | .error error => .error (.failure (.hash error))

def paths (library : Library) : Command → List String
  | .add path _ | .hash path | .similar path | .rehash path => path.text?.toList
  | .search _ => library.pictures.map (·.path)
  | _ => []

def run (settings : Settings) (platform : Platform) (library : Library) : Command → Library × Answer
  | .init => (library, .ok ["Database ready: " ++ settings.databaseUrl])
  | .add path labels =>
      let (changed, result) := library.register platform path labels
      (changed, match result with
        | .ok picture => .ok ["Registered picture:", picture.detail]
        | .error error => .error (.failure error))
  | .tagType label symbol color =>
      match readColor? color with
      | none => (library, .error (.invalidColor color))
      | some color =>
          change library .ofLibraryError (fun tagType => [tagType.detail])
            (library.insertTagType label symbol color)
  | .tag label symbol definition => addTag library label symbol definition
  | .define label definition =>
      change library .ofRefusal (fun tag => [tag.detail]) (library.defineTag label definition)
  | .search query =>
      (library, match library.search platform query .standard settings.compiler with
        | .ok pictures => .ok (pictures.map (·.path))
        | .error error => .error (.failure error))
  | .hash path => (library, hashLines platform path)
  | .similar path => (library, (similarTo library platform path).map (·.map similarLine))
  | .rehash path =>
      withRegistered library path fun picture =>
        change library .failure (fun picture => [picture.detail])
          (library.recomputeHash platform picture.id)
  | .remove path =>
      withRegistered library path fun picture =>
        ((library.deletePicture picture.id).2, .ok ["Removed " ++ picture.path])
  | .move path newPath => withRegistered library path (moveTo library newPath)
  | .merge source target =>
      withRegistered library source fun source =>
        withRegistered library target fun target =>
          match library.mergePictures source.id target.id with
          | (true, merged) =>
              (merged, .ok ["Merged " ++ source.path ++ " into " ++ target.path])
          | (false, merged) => (merged, .ok [])
  | .renameTag label newLabel =>
      change library .ofRefusal (fun tag => [tag.detail]) (library.renameTag label newLabel)
  | .deleteTag label =>
      change library .ofRefusal (fun tag => ["Deleted tag " ++ tag.label])
        (library.deleteTag label)
  | .deleteTagType symbol =>
      change library .ofLibraryError
        (fun tagType =>
          ["Deleted tag type " ++ tagType.label ++ " (" ++ tagType.symbol.toString ++ ")"])
        (library.deleteTagType symbol)
  | .listTags => (library, tagLines library)

end Command

end Gallery
