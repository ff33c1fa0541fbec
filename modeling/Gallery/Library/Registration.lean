import Gallery.Library.Pictures
import Gallery.Platform

/-!
Registering picture files, all or nothing, and hashing them anew.
-/

namespace Gallery.Library

/-- Registers the picture file at a path with some tags that are attached in the given way. A file
that cannot be hashed is registered without a hash. When a tag cannot be attached, the picture is
removed again. -/
def registerBy (attach : Library → Int → List String → Library × Except LibraryError Unit)
    (library : Library) (platform : Platform) (path : Text.RawText) (labels : List String) :
    Library × Except Failure Picture :=
  match path.text? with
  | none => (library, .error (.invalidPath path))
  | some text =>
      match library.insertPicture text (platform.hashOfFile path).toOption with
      | .error error => (library, .error (.library error))
      | .ok (picture, inserted) =>
          match attach inserted picture.id labels with
          | (attached, .ok _) => (attached, .ok picture)
          | (attached, .error error) =>
              ((attached.deletePicture picture.id).2, .error (.library error))

def register (library : Library) (platform : Platform) (path : Text.RawText)
    (labels : List String) : Library × Except Failure Picture :=
  registerBy attachTags library platform path labels

def recomputeHash (library : Library) (platform : Platform) (id : Int) :
    Except Failure (Picture × Library) :=
  match library.picture? id with
  | none => .error (.unknownPicture id)
  | some picture =>
      match platform.hashOfFile picture.path.toUTF8.toList with
      | .error error => .error (.hash error)
      | .ok hash => .ok ({ picture with hash := some hash }, library.updateHash id (some hash))

end Gallery.Library
