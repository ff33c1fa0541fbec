import Gallery.Library.TagTypes

/-!
The tags of a library. A compound tag is never attached to a picture, and a tag that a definition
mentions keeps its label.
-/

namespace Gallery.Library

def fetchTag (library : Library) (label : String) : Except CatalogueError Tag :=
  match library.tag? label with
  | some tag => .ok tag
  | none => .error (.unknownTag label)

def ensureUnreferenced (library : Library) (label : String) : Except CatalogueError Unit :=
  match (Catalogue.ofLists [] library.tags).referencing label with
  | [] => .ok ()
  | user :: _ => .error (.tagReferenced label user)

def validateDefinition? (label : String) : Option String → Except CatalogueError Unit
  | none => .ok ()
  | some definition => validateDefinition label definition

def replaceTag (library : Library) (tag : Tag) : Library :=
  { library with tags := library.tags.map fun old => if old.id = tag.id then tag else old }

def insertTag (library : Library) (label : String) (typeId : Option Int)
    (definition : Option String) : Except CatalogueError (Tag × Library) := do
  validateLabel label
  validateDefinition? label definition
  match typeId with
  | some id =>
      if !library.tagTypes.any (·.id == id) then throw (.unknownTagTypeId id)
  | none => pure ()
  if (library.tag? label).isSome then throw (.duplicateLabel label)
  let tag : Tag := ⟨library.lastTag + 1, label, typeId, definition⟩
  return (tag, { library with tags := library.tags ++ [tag], lastTag := tag.id })

/-- Sets or clears the definition of a tag. A tag that pictures carry cannot get one. -/
def defineTag (library : Library) (label : String) (definition : Option String) :
    Except CatalogueError (Tag × Library) := do
  validateDefinition? label definition
  let tag ← library.fetchTag label
  if definition.isSome && library.tagCount tag.id != 0 then throw (.tagInUse label)
  let tag := { tag with definition := definition }
  return (tag, library.replaceTag tag)

def renameTag (library : Library) (label newLabel : String) :
    Except CatalogueError (Tag × Library) := do
  validateLabel newLabel
  let tag ← library.fetchTag label
  if label = newLabel then return (tag, library)
  if (library.tag? newLabel).isSome then throw (.duplicateLabel newLabel)
  library.ensureUnreferenced label
  validateDefinition? newLabel tag.definition
  let tag := { tag with label := newLabel }
  return (tag, library.replaceTag tag)

def deleteTag (library : Library) (label : String) : Except CatalogueError (Tag × Library) := do
  let tag ← library.fetchTag label
  library.ensureUnreferenced label
  return (tag, { library with
    tags := library.tags.filter (·.id != tag.id)
    attachments := library.attachments.filter (·.tag != tag.id) })

def attachTag (library : Library) (picture : Int) (label : String) :
    Except LibraryError (Int × Library) :=
  match library.fetchTag label with
  | .error error => .error (.refused error)
  | .ok tag =>
      if tag.isCompound then .error (.refused (.compoundTagAttached label))
      else if (library.picture? picture).isNone then
        .error (.failed (.attachTag picture label) Statement.attachTag .noSuchRow)
      else if library.attachments.contains ⟨picture, tag.id⟩ then .ok (tag.id, library)
      else .ok (tag.id, { library with
        attachments := library.attachments ++ [⟨picture, tag.id⟩] })

def attachTags (library : Library) (picture : Int) :
    List String → Library × Except LibraryError Unit
  | [] => (library, .ok ())
  | label :: rest =>
      match library.attachTag picture label with
      | .error error => (library, .error error)
      | .ok (_, library) => library.attachTags picture rest

end Gallery.Library
