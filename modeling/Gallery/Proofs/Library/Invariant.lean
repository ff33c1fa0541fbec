import Gallery.Proofs.Library.Operation

/-!
Properties that all reachable libraries have. It is enough that the empty library has one and that
each single change keeps it; attaching several tags and registering a picture are made of such
changes (`Invariant.holds`).
-/

namespace Gallery.Library

/-- The empty library has the property, and every change that succeeds on a reachable library with
the property leads to another one. -/
structure Invariant (Holds : Library → Prop) : Prop where
  empty : Holds empty
  insertTagType (library : Library) (label : String) (symbol : Char) (color : UInt32)
    (tagType : TagType) (next : Library) (reachable : Reachable library) (holds : Holds library)
    (done : library.insertTagType label symbol color.toNat = .ok (tagType, next)) : Holds next
  updateTagType (library : Library) (symbol : Char) (label : String) (newSymbol : Char)
    (color : UInt32) (tagType : TagType) (next : Library) (reachable : Reachable library)
    (holds : Holds library)
    (done : library.updateTagType symbol label newSymbol color.toNat = .ok (tagType, next)) :
    Holds next
  deleteTagType (library : Library) (symbol : Char) (tagType : TagType) (next : Library)
    (reachable : Reachable library) (holds : Holds library)
    (done : library.deleteTagType symbol = .ok (tagType, next)) : Holds next
  insertTag (library : Library) (label : String) (typeId : Option Int)
    (definition : Option String) (tag : Tag) (next : Library) (reachable : Reachable library)
    (holds : Holds library)
    (done : library.insertTag label typeId definition = .ok (tag, next)) : Holds next
  defineTag (library : Library) (label : String) (definition : Option String) (tag : Tag)
    (next : Library) (reachable : Reachable library) (holds : Holds library)
    (done : library.defineTag label definition = .ok (tag, next)) : Holds next
  renameTag (library : Library) (label newLabel : String) (tag : Tag) (next : Library)
    (reachable : Reachable library) (holds : Holds library)
    (done : library.renameTag label newLabel = .ok (tag, next)) : Holds next
  deleteTag (library : Library) (label : String) (tag : Tag) (next : Library)
    (reachable : Reachable library) (holds : Holds library)
    (done : library.deleteTag label = .ok (tag, next)) : Holds next
  insertPicture (library : Library) (path : String) (hash : Option PictureHash)
    (picture : Picture) (next : Library) (reachable : Reachable library) (holds : Holds library)
    (done : library.insertPicture path hash = .ok (picture, next)) : Holds next
  updateHash (library : Library) (id : Int) (hash : Option PictureHash)
    (reachable : Reachable library) (holds : Holds library) : Holds (library.updateHash id hash)
  deletePicture (library : Library) (id : Int) (reachable : Reachable library)
    (holds : Holds library) : Holds (library.deletePicture id).2
  movePicture (library : Library) (id : Int) (path : String) (moved : Option Picture)
    (next : Library) (reachable : Reachable library) (holds : Holds library)
    (done : library.movePicture id path = .ok (moved, next)) : Holds next
  mergePictures (library : Library) (source target : Int) (reachable : Reachable library)
    (holds : Holds library) : Holds (library.mergePictures source target).2
  attachTag (library : Library) (picture : Int) (label : String) (id : Int) (next : Library)
    (reachable : Reachable library) (holds : Holds library)
    (done : library.attachTag picture label = .ok (id, next)) : Holds next

theorem reachable_insertPicture (library : Library) (reachable : Reachable library) (path : String)
    (hash : Option PictureHash) (picture : Picture) (next : Library)
    (done : library.insertPicture path hash = .ok (picture, next)) : Reachable next := by
  have step := Reachable.step library (.insertPicture path hash) reachable
  rwa [after, done] at step

theorem reachable_attachTag (library : Library) (reachable : Reachable library) (picture : Int)
    (label : String) (id : Int) (next : Library)
    (done : library.attachTag picture label = .ok (id, next)) : Reachable next := by
  have step := Reachable.step library (.attachTag picture label) reachable
  rwa [after, done] at step

variable {Holds : Library → Prop}

theorem Invariant.attachTags (invariant : Invariant Holds) (library : Library)
    (reachable : Reachable library) (holds : Holds library) (picture : Int)
    (labels : List String) : Holds (library.attachTags picture labels).1 := by
  induction labels generalizing library with
  | nil => exact holds
  | cons label rest ih =>
      rw [Library.attachTags]
      split
      · exact holds
      · next id next done =>
          exact ih next (reachable_attachTag library reachable picture label id next done)
            (invariant.attachTag library picture label id next reachable holds done)

theorem Invariant.register (invariant : Invariant Holds) (library : Library)
    (reachable : Reachable library) (holds : Holds library) (platform : Platform) (path : Text.RawText)
    (labels : List String) : Holds (library.register platform path labels).1 := by
  have ways := register_registers library platform path labels
  generalize library.register platform path labels = outcome at ways
  obtain ⟨next, result⟩ := outcome
  cases ways with
  | unreadable | refused => exact holds
  | registered text picture inserted _ _ done attached =>
      have holds := invariant.insertPicture library text _ picture inserted reachable holds done
      have reachable := reachable_insertPicture library reachable text _ picture inserted done
      have kept := invariant.attachTags inserted reachable holds picture.id labels
      rwa [attached] at kept
  | undone text picture inserted attached _ _ done failed =>
      -- The picture is stored before its tags are, and taken back when one is refused.
      have holds := invariant.insertPicture library text _ picture inserted reachable holds done
      have reachable := reachable_insertPicture library reachable text _ picture inserted done
      have kept := invariant.attachTags inserted reachable holds picture.id labels
      have reached := Reachable.step inserted (.attachTags picture.id labels) reachable
      rw [Library.after] at reached
      rw [failed] at kept reached
      exact invariant.deletePicture attached picture.id reached kept

theorem Invariant.after (invariant : Invariant Holds) (library : Library)
    (reachable : Reachable library) (holds : Holds library) (operation : Operation) :
    Holds (library.after operation) := by
  cases operation with
  | insertTagType label symbol color =>
      exact kept_of_ok Holds library _ holds fun tagType next =>
        invariant.insertTagType library label symbol color tagType next reachable holds
  | updateTagType symbol label newSymbol color =>
      exact kept_of_ok Holds library _ holds fun tagType next =>
        invariant.updateTagType library symbol label newSymbol color tagType next reachable holds
  | deleteTagType symbol =>
      exact kept_of_ok Holds library _ holds fun tagType next =>
        invariant.deleteTagType library symbol tagType next reachable holds
  | insertTag label typeId definition =>
      exact kept_of_ok Holds library _ holds fun tag next =>
        invariant.insertTag library label typeId definition tag next reachable holds
  | defineTag label definition =>
      exact kept_of_ok Holds library _ holds fun tag next =>
        invariant.defineTag library label definition tag next reachable holds
  | renameTag label newLabel =>
      exact kept_of_ok Holds library _ holds fun tag next =>
        invariant.renameTag library label newLabel tag next reachable holds
  | deleteTag label =>
      exact kept_of_ok Holds library _ holds fun tag next =>
        invariant.deleteTag library label tag next reachable holds
  | insertPicture path hash =>
      exact kept_of_ok Holds library _ holds fun picture next =>
        invariant.insertPicture library path hash picture next reachable holds
  | updateHash id hash => exact invariant.updateHash library id hash reachable holds
  | deletePicture id => exact invariant.deletePicture library id reachable holds
  | movePicture id path =>
      exact kept_of_ok Holds library _ holds fun moved next =>
        invariant.movePicture library id path moved next reachable holds
  | mergePictures source target =>
      exact invariant.mergePictures library source target reachable holds
  | attachTag picture label =>
      exact kept_of_ok Holds library _ holds fun id next =>
        invariant.attachTag library picture label id next reachable holds
  | attachTags picture labels => exact invariant.attachTags library reachable holds picture labels
  | register platform path labels =>
      exact invariant.register library reachable holds platform path labels
  | recomputeHash platform id =>
      refine kept_of_ok Holds library _ holds fun picture next done => ?_
      obtain ⟨hash, rfl⟩ := recomputeHash_ok library platform id picture next done
      exact invariant.updateHash library id (some hash) reachable holds

/-- Every reachable library has the property. -/
theorem Invariant.holds (invariant : Invariant Holds) (library : Library)
    (reachable : Reachable library) : Holds library := by
  induction reachable with
  | empty => exact invariant.empty
  | step library operation before ih => exact invariant.after library before ih operation

end Gallery.Library
