import Gallery.Library.Tags

/-!
The pictures of a library. No two pictures have the same path.
-/

namespace Gallery.Library

def insertPicture (library : Library) (path : String) (hash : Option PictureHash) :
    Except LibraryError (Picture × Library) :=
  if (library.pictureAt? path).isSome then
    .error (.failed (.insertPicture path) Statement.insertPicture (.notUnique "pictures.path"))
  else
    let picture : Picture := ⟨library.lastPicture + 1, path, hash⟩
    .ok (picture, { library with
      pictures := library.pictures ++ [picture]
      lastPicture := picture.id })

def changePicture (library : Library) (id : Int) (change : Picture → Picture) : Library :=
  { library with pictures := library.pictures.map fun picture =>
      if picture.id = id then change picture else picture }

def updateHash (library : Library) (id : Int) (hash : Option PictureHash) : Library :=
  library.changePicture id fun picture => { picture with hash := hash }

def deletePicture (library : Library) (id : Int) : Bool × Library :=
  ((library.picture? id).isSome, { library with
    pictures := library.pictures.filter (·.id != id)
    attachments := library.attachments.filter (·.picture != id) })

def movePicture (library : Library) (id : Int) (path : String) :
    Except CatalogueError (Option Picture × Library) :=
  match library.picture? id with
  | none => .ok (none, library)
  | some picture =>
      if (library.pictureAt? path).any (·.id != id) then .error (.duplicatePath path)
      else
        .ok (some { picture with path := path },
          library.changePicture id fun picture => { picture with path := path })

def copyTags (library : Library) (source target : Int) : Library :=
  let copies := (library.attachments.filter (·.picture == source)).map fun attachment =>
    ({ attachment with picture := target } : Attachment)
  { library with
    attachments := library.attachments ++ copies.filter (!library.attachments.contains ·) }

/-- Moves the tags of the picture `source` to the picture `target` and removes `source`. Nothing
happens when they are the same or one does not exist. -/
def mergePictures (library : Library) (source target : Int) : Bool × Library :=
  if source = target ∨ (library.picture? source).isNone ∨ (library.picture? target).isNone then
    (false, library)
  else (true, ((library.copyTags source target).deletePicture source).2)

end Gallery.Library
