import Gallery.Library.Registration
import Gallery.Proofs.Query.Expansion

/-!
The operations on a library and what each of them does when it succeeds. An operation that fails
leaves the library as it was, except that attaching several tags keeps those before the first that
cannot be attached, and that a registration which is undone has used up an identity.
-/

namespace Gallery

/-- An operation on a library. -/
inductive Operation where
  | insertTagType (label : String) (symbol : Char) (color : UInt32)
  | updateTagType (symbol : Char) (label : String) (newSymbol : Char) (color : UInt32)
  | deleteTagType (symbol : Char)
  | insertTag (label : String) (typeId : Option Int) (definition : Option String)
  | defineTag (label : String) (definition : Option String)
  | renameTag (label newLabel : String)
  | deleteTag (label : String)
  | insertPicture (path : String) (hash : Option PictureHash)
  | updateHash (id : Int) (hash : Option PictureHash)
  | deletePicture (id : Int)
  | movePicture (id : Int) (path : String)
  | mergePictures (source target : Int)
  | attachTag (picture : Int) (label : String)
  | attachTags (picture : Int) (labels : List String)
  | register (platform : Platform) (path : Text.RawText) (labels : List String)
  | recomputeHash (platform : Platform) (id : Int)

namespace Library

/-- The library that a change has led to, or the old one when the change has failed. -/
def kept {ε α : Type} (library : Library) : Except ε (α × Library) → Library
  | .ok (_, next) => next
  | .error _ => library

/-- The library after an operation. -/
def after (library : Library) : Operation → Library
  | .insertTagType label symbol color =>
      library.kept (library.insertTagType label symbol color.toNat)
  | .updateTagType symbol label newSymbol color =>
      library.kept (library.updateTagType symbol label newSymbol color.toNat)
  | .deleteTagType symbol => library.kept (library.deleteTagType symbol)
  | .insertTag label typeId definition => library.kept (library.insertTag label typeId definition)
  | .defineTag label definition => library.kept (library.defineTag label definition)
  | .renameTag label newLabel => library.kept (library.renameTag label newLabel)
  | .deleteTag label => library.kept (library.deleteTag label)
  | .insertPicture path hash => library.kept (library.insertPicture path hash)
  | .updateHash id hash => library.updateHash id hash
  | .deletePicture id => (library.deletePicture id).2
  | .movePicture id path => library.kept (library.movePicture id path)
  | .mergePictures source target => (library.mergePictures source target).2
  | .attachTag picture label => library.kept (library.attachTag picture label)
  | .attachTags picture labels => (library.attachTags picture labels).1
  | .register platform path labels => (library.register platform path labels).1
  | .recomputeHash platform id => library.kept (library.recomputeHash platform id)

/-- The libraries that operations lead to, starting from the empty one. -/
inductive Reachable : Library → Prop where
  | empty : Reachable .empty
  | step (library : Library) (operation : Operation) (before : Reachable library) :
      Reachable (library.after operation)

theorem reachable_run (operations : List Operation) : Reachable (operations.foldl after empty) := by
  have run (library : Library) (before : Reachable library) :
      Reachable (operations.foldl after library) := by
    induction operations generalizing library with
    | nil => exact before
    | cons operation rest ih => exact ih _ (.step library operation before)
  exact run empty .empty

/-! What an operation that succeeds has checked, and what it returns. -/

theorem kept_of_ok {ε α : Type} (Holds : Library → Prop) (library : Library)
    (result : Except ε (α × Library)) (before : Holds library)
    (step : ∀ value next, result = .ok (value, next) → Holds next) :
    Holds (library.kept result) := by
  cases result with
  | error error => exact before
  | ok pair => exact step pair.1 pair.2 rfl

theorem validateLabel_ok (label : String) (valid : validateLabel label = .ok ()) :
    Query.isLabel label = true := by
  rw [validateLabel] at valid
  split at valid
  · assumption
  · cases valid

/-- The second check of a symbol refuses no more than the first, as the mark is reserved. -/
theorem validateSymbol_ok_iff (symbol : Char) :
    validateSymbol symbol = .ok () ↔ Query.isTypeSymbol symbol = true := by
  rw [validateSymbol]
  constructor
  · intro valid
    split at valid
    · cases valid
    · next admitted =>
        rw [Bool.or_eq_true, not_or, Bool.not_eq_true', Bool.not_eq_false] at admitted
        exact admitted.1
  · intro marks
    have unreserved : symbol ≠ Query.pseudoMark := by
      rintro rfl
      exact absurd marks (by decide)
    rw [marks, beq_eq_false_iff_ne.mpr unreserved]
    rfl

theorem fetchTag_ok (library : Library) (label : String) (tag : Tag)
    (found : library.fetchTag label = .ok tag) : library.tag? label = some tag := by
  rw [fetchTag] at found
  split at found
  · next same =>
      cases found
      exact same
  · cases found

theorem insertTag_ok (library : Library) (label : String) (typeId : Option Int)
    (definition : Option String) (tag : Tag) (next : Library)
    (done : library.insertTag label typeId definition = .ok (tag, next)) :
    Query.isLabel label = true ∧ validateDefinition? label definition = .ok () ∧
      (∀ id, typeId = some id → library.tagTypes.any (·.id == id) = true) ∧
      library.tag? label = none ∧ tag = ⟨library.lastTag + 1, label, typeId, definition⟩ ∧
      next = { library with tags := library.tags ++ [tag], lastTag := library.lastTag + 1 } := by
  unfold insertTag at done
  rcases (bind_ok_iff _ _ _).mp done with ⟨_, valid, done⟩
  rcases (bind_ok_iff _ _ _).mp done with ⟨_, defined, done⟩
  have typed : ∀ id, typeId = some id → library.tagTypes.any (·.id == id) = true := by
    rintro id rfl
    cases known : library.tagTypes.any (·.id == id) with
    | true => rfl
    | false =>
        simp only [known] at done
        cases done
  -- With its type known, what is left of the operation is the same for every type.
  have inserted : (if (library.tag? label).isSome = true then
      Except.error (CatalogueError.duplicateLabel label)
    else .ok ((⟨library.lastTag + 1, label, typeId, definition⟩ : Tag),
      { library with
        tags := library.tags ++ [⟨library.lastTag + 1, label, typeId, definition⟩]
        lastTag := library.lastTag + 1 })) = .ok (tag, next) := by
    cases typeId with
    | none => exact done
    | some id =>
        simp only [typed id rfl] at done
        exact done
  split at inserted
  · cases inserted
  · next fresh =>
      cases inserted
      exact ⟨validateLabel_ok label valid, defined, typed, by simpa using fresh, rfl, rfl⟩

theorem defineTag_ok (library : Library) (label : String) (definition : Option String)
    (tag : Tag) (next : Library) (done : library.defineTag label definition = .ok (tag, next)) :
    ∃ old, validateDefinition? label definition = .ok () ∧ library.tag? label = some old ∧
      (definition.isSome = true → library.tagCount old.id = 0) ∧
      tag = { old with definition := definition } ∧ next = library.replaceTag tag := by
  unfold defineTag at done
  rcases (bind_ok_iff _ _ _).mp done with ⟨_, defined, done⟩
  rcases (bind_ok_iff _ _ _).mp done with ⟨old, found, done⟩
  dsimp only at done
  split at done
  · cases done
  · next unused =>
      cases done
      refine ⟨old, defined, fetchTag_ok library label old found, fun some => ?_, rfl, rfl⟩
      simpa [some] using unused

theorem renameTag_ok (library : Library) (label newLabel : String) (tag : Tag) (next : Library)
    (done : library.renameTag label newLabel = .ok (tag, next)) :
    ∃ old, Query.isLabel newLabel = true ∧ library.tag? label = some old ∧
      (label = newLabel ∧ tag = old ∧ next = library ∨
        label ≠ newLabel ∧ library.tag? newLabel = none ∧
          library.ensureUnreferenced label = .ok () ∧
          validateDefinition? newLabel old.definition = .ok () ∧
          tag = { old with label := newLabel } ∧ next = library.replaceTag tag) := by
  unfold renameTag at done
  rcases (bind_ok_iff _ _ _).mp done with ⟨_, valid, done⟩
  rcases (bind_ok_iff _ _ _).mp done with ⟨old, found, done⟩
  refine ⟨old, validateLabel_ok newLabel valid, fetchTag_ok library label old found, ?_⟩
  dsimp only at done
  split at done
  · next same =>
      cases done
      exact .inl ⟨same, rfl, rfl⟩
  · next different =>
      split at done
      · cases done
      · next fresh =>
          rcases (bind_ok_iff _ _ _).mp done with ⟨_, unreferenced, done⟩
          rcases (bind_ok_iff _ _ _).mp done with ⟨_, defined, done⟩
          cases done
          exact .inr ⟨different, by simpa using fresh, unreferenced, defined, rfl, rfl⟩

theorem deleteTag_ok (library : Library) (label : String) (tag : Tag) (next : Library)
    (done : library.deleteTag label = .ok (tag, next)) :
    library.tag? label = some tag ∧ library.ensureUnreferenced label = .ok () ∧
      next = { library with
        tags := library.tags.filter (·.id != tag.id)
        attachments := library.attachments.filter (·.tag != tag.id) } := by
  unfold deleteTag at done
  rcases (bind_ok_iff _ _ _).mp done with ⟨old, found, done⟩
  rcases (bind_ok_iff _ _ _).mp done with ⟨_, unreferenced, done⟩
  cases done
  exact ⟨fetchTag_ok library label tag found, unreferenced, rfl⟩

theorem attachTag_ok (library : Library) (picture : Int) (label : String) (id : Int)
    (next : Library) (done : library.attachTag picture label = .ok (id, next)) :
    ∃ tag, library.tag? label = some tag ∧ tag.definition = none ∧ id = tag.id ∧
      library.picture? picture ≠ none ∧
      next = { library with attachments := if library.attachments.contains ⟨picture, tag.id⟩ then
        library.attachments else library.attachments ++ [⟨picture, tag.id⟩] } := by
  unfold attachTag at done
  split at done
  · cases done
  · next tag found =>
      split at done
      · cases done
      · next leaf =>
          split at done
          · cases done
          · next present =>
              refine ⟨tag, fetchTag_ok library label tag found,
                by simpa [Tag.isCompound] using leaf, ?_⟩
              split at done
              · next attached =>
                  cases done
                  exact ⟨rfl, by simpa using present, by rw [if_pos attached]⟩
              · next attached =>
                  cases done
                  exact ⟨rfl, by simpa using present, by rw [if_neg attached]⟩

theorem validateTagType_ok (label : String) (symbol : Char)
    (valid : validateTagType label symbol = .ok ()) :
    Query.isTypeSymbol symbol = true ∧ Text.isBlankText label.toList = false := by
  unfold validateTagType at valid
  rcases (bind_ok_iff _ _ _).mp valid with ⟨_, symbolValid, labelValid⟩
  constructor
  · exact (validateSymbol_ok_iff symbol).mp symbolValid
  · split at labelValid
    · cases labelValid
    · next visible => simpa using visible

theorem insertTagType_ok (library : Library) (label : String) (symbol : Char) (color : Nat)
    (tagType : TagType) (next : Library)
    (done : library.insertTagType label symbol color = .ok (tagType, next)) :
    Query.isTypeSymbol symbol = true ∧ Text.isBlankText label.toList = false ∧
      library.storedTagType? symbol = none ∧
      library.tagTypes.any (·.label == label) = false ∧
      tagType = ⟨library.lastTagType + 1, label, symbol, color⟩ ∧
      next = { library with
        tagTypes := library.tagTypes ++ [tagType.stored]
        lastTagType := library.lastTagType + 1 } := by
  unfold insertTagType at done
  split at done
  · cases done
  · next valid =>
      rcases validateTagType_ok label symbol valid with ⟨symbolValid, visible⟩
      split at done
      · cases done
      · next freshSymbol =>
          split at done
          · cases done
          · next freshLabel =>
              cases done
              exact ⟨symbolValid, visible, by simpa using freshSymbol,
                Bool.not_eq_true _ ▸ freshLabel, rfl, rfl⟩

theorem updateTagType_ok (library : Library) (symbol : Char) (label : String) (newSymbol : Char)
    (color : Nat) (tagType : TagType) (next : Library)
    (done : library.updateTagType symbol label newSymbol color = .ok (tagType, next)) :
    ∃ old, Query.isTypeSymbol newSymbol = true ∧ Text.isBlankText label.toList = false ∧
      library.fetchTagType symbol = .ok old ∧
      (∀ other ∈ library.tagTypes, other.id ≠ old.id →
        other.symbol ≠ newSymbol.toString ∧ other.label ≠ label) ∧
      tagType = ⟨old.id, label, newSymbol, color⟩ ∧
      next = { library with tagTypes := library.tagTypes.map fun stored =>
        if stored.id = old.id then tagType.stored else stored } := by
  unfold updateTagType at done
  split at done
  · cases done
  · next valid =>
      rcases validateTagType_ok label newSymbol valid with ⟨symbolValid, visible⟩
      rcases (bind_ok_iff _ _ _).mp done with ⟨old, found, done⟩
      dsimp only at done
      split at done
      · cases done
      · next freshSymbol =>
          split at done
          · cases done
          · next freshLabel =>
              cases done
              refine ⟨old, symbolValid, visible, found, fun other member different => ⟨?_, ?_⟩, rfl,
                rfl⟩
              · intro same
                exact freshSymbol (List.any_eq_true.mpr ⟨other, member, by simp [same, different]⟩)
              · intro same
                exact freshLabel (List.any_eq_true.mpr ⟨other, member, by simp [same, different]⟩)

theorem deleteTagType_ok (library : Library) (symbol : Char) (tagType : TagType) (next : Library)
    (done : library.deleteTagType symbol = .ok (tagType, next)) :
    library.fetchTagType symbol = .ok tagType ∧
      next = { library with
        tagTypes := library.tagTypes.filter (·.id != tagType.id)
        tags := library.tags.map fun tag =>
          if tag.typeId = some tagType.id then { tag with typeId := none } else tag } := by
  unfold deleteTagType at done
  rcases (bind_ok_iff _ _ _).mp done with ⟨old, found, done⟩
  cases done
  exact ⟨found, rfl⟩

theorem insertPicture_ok (library : Library) (path : String) (hash : Option PictureHash)
    (picture : Picture) (next : Library)
    (done : library.insertPicture path hash = .ok (picture, next)) :
    library.pictureAt? path = none ∧ picture = ⟨library.lastPicture + 1, path, hash⟩ ∧
      next = { library with
        pictures := library.pictures ++ [picture]
        lastPicture := library.lastPicture + 1 } := by
  unfold insertPicture at done
  split at done
  · cases done
  · next fresh =>
      cases done
      exact ⟨by simpa using fresh, rfl, rfl⟩

theorem movePicture_ok (library : Library) (id : Int) (path : String) (moved : Option Picture)
    (next : Library) (done : library.movePicture id path = .ok (moved, next)) :
    library.picture? id = none ∧ moved = none ∧ next = library ∨
      ∃ picture, library.picture? id = some picture ∧
        (∀ other, library.pictureAt? path = some other → other.id = id) ∧
        moved = some { picture with path := path } ∧
        next = library.changePicture id fun picture => { picture with path := path } := by
  unfold movePicture at done
  split at done
  · next absent =>
      cases done
      exact .inl ⟨absent, rfl, rfl⟩
  · next picture found =>
      split at done
      · cases done
      · next free =>
          cases done
          refine .inr ⟨picture, found, fun other taken => ?_, rfl, rfl⟩
          simpa [taken] using free

theorem recomputeHash_ok (library : Library) (platform : Platform) (id : Int) (picture : Picture)
    (next : Library) (done : library.recomputeHash platform id = .ok (picture, next)) :
    ∃ hash, next = library.updateHash id (some hash) := by
  unfold recomputeHash at done
  split at done
  · cases done
  · split at done
    · cases done
    · next hash _ =>
        cases done
        exact ⟨hash, rfl⟩

/-- The ways in which a picture file is registered, given how its tags can be attached. -/
inductive Registers (attaches : Library → Int → Library → Except LibraryError Unit → Prop)
    (library : Library) (platform : Platform) (path : Text.RawText) :
    Library → Except Failure Picture → Prop where
  | unreadable (unread : path.text? = none) :
      Registers attaches library platform path library (.error (.invalidPath path))
  | refused (text : String) (error : LibraryError) (read : path.text? = some text)
      (refused : library.insertPicture text (platform.hashOfFile path).toOption = .error error) :
      Registers attaches library platform path library (.error (.library error))
  | registered (text : String) (picture : Picture) (inserted attached : Library)
      (read : path.text? = some text)
      (done : library.insertPicture text (platform.hashOfFile path).toOption =
        .ok (picture, inserted))
      (succeeded : attaches inserted picture.id attached (.ok ())) :
      Registers attaches library platform path attached (.ok picture)
  | undone (text : String) (picture : Picture) (inserted attached : Library) (error : LibraryError)
      (read : path.text? = some text)
      (done : library.insertPicture text (platform.hashOfFile path).toOption =
        .ok (picture, inserted))
      (failed : attaches inserted picture.id attached (.error error)) :
      Registers attaches library platform path (attached.deletePicture picture.id).2
        (.error (.library error))

theorem registerBy_registers
    (attach : Library → Int → List String → Library × Except LibraryError Unit) (library : Library)
    (platform : Platform) (path : Text.RawText) (labels : List String) :
    Registers (fun inserted picture next result => attach inserted picture labels = (next, result))
      library platform path (registerBy attach library platform path labels).1
      (registerBy attach library platform path labels).2 := by
  rw [registerBy]
  cases read : path.text? with
  | none => exact .unreadable read
  | some text =>
      dsimp only
      split
      · next error refused => exact .refused text error read refused
      · next picture inserted done =>
          split
          · next attached _ succeeded =>
              exact .registered text picture inserted attached read done succeeded
          · next attached error failed =>
              exact .undone text picture inserted attached error read done failed

theorem register_registers (library : Library) (platform : Platform) (path : Text.RawText)
    (labels : List String) :
    Registers
      (fun inserted picture next result => inserted.attachTags picture labels = (next, result))
      library platform path (library.register platform path labels).1
      (library.register platform path labels).2 :=
  registerBy_registers attachTags library platform path labels

end Library

end Gallery
