import Gallery.Proofs.Library.Identities
import Gallery.Proofs.Library.Tasks

/-!
Registering a picture file is all or nothing, in whatever order its tags are attached. The library
gains the picture with all its tags, or it stays as it was but for the last identity: what the tasks
have attached goes when the picture is taken back (`register_all_or_nothing`). Other orders lead to
no other libraries than operations do, so what holds of reachable libraries holds after each
(`reachable_concurrently`).
-/

namespace Gallery.Library

/-- The picture is registered by tasks that attach its tags at the same time. -/
def Concurrently (connections : Nat) (library : Library) (platform : Platform)
    (path : Text.RawText) (labels : List String) (next : Library)
    (result : Except Failure Picture) : Prop :=
  Registers (fun inserted picture => inserted.Attaches connections picture labels) library platform
    path next result

theorem registerBy_concurrently (connections : Nat)
    (attach : Library → Int → List String → Library × Except LibraryError Unit)
    (attaches : ∀ inserted picture labels, Attaches connections inserted picture labels
      (attach inserted picture labels).1 (attach inserted picture labels).2)
    (library : Library) (platform : Platform) (path : Text.RawText) (labels : List String) :
    library.Concurrently connections platform path labels
      (registerBy attach library platform path labels).1
      (registerBy attach library platform path labels).2 := by
  have ways := registerBy_registers attach library platform path labels
  generalize registerBy attach library platform path labels = outcome at ways ⊢
  obtain ⟨next, result⟩ := outcome
  cases ways with
  | unreadable unread => exact .unreadable unread
  | refused text error read refused => exact .refused text error read refused
  | registered text picture inserted _ read done succeeded =>
      have order := attaches inserted picture.id labels
      rw [succeeded] at order
      exact .registered text picture inserted _ read done order
  | undone text picture inserted attached error read done failed =>
      have order := attaches inserted picture.id labels
      rw [failed] at order
      exact .undone text picture inserted attached error read done order

theorem register_concurrently (connections : Nat) (some_ : 0 < connections) (library : Library)
    (platform : Platform) (path : Text.RawText) (labels : List String) :
    library.Concurrently connections platform path labels
      (library.register platform path labels).1 (library.register platform path labels).2 :=
  registerBy_concurrently connections attachTags (attachTags_attaches connections some_) library
    platform path labels

/-- A library that a registration leads to is one that operations lead to, whatever the order. -/
theorem reachable_concurrently (connections : Nat) (library : Library)
    (reachable : Reachable library) (platform : Platform) (path : Text.RawText)
    (labels : List String) (next : Library) (result : Except Failure Picture)
    (ways : library.Concurrently connections platform path labels next result) :
    Reachable next := by
  cases ways with
  | unreadable | refused => exact reachable
  | registered text picture inserted attached _ done succeeded =>
      have stored := reachable_insertPicture library reachable text _ picture inserted done
      exact reachable_attaches connections inserted stored picture.id labels next _ succeeded
  | undone text picture inserted attached error _ done failed =>
      have stored := reachable_insertPicture library reachable text _ picture inserted done
      have reached :=
        reachable_attaches connections inserted stored picture.id labels attached _ failed
      exact .step attached (.deletePicture picture.id) reached

/-- The library has one picture more, with a fresh identity. It carries exactly the tags with the
labels, each once. -/
structure Gains (library : Library) (path : String) (hash : Option PictureHash)
    (labels : List String) (picture : Picture) (next : Library) : Prop where
  described : picture.path = path ∧ picture.hash = hash
  fresh : picture.id = library.lastPicture + 1 ∧ ∀ old ∈ library.pictures, old.id < picture.id
  only : ∃ added, next = { library with
      pictures := library.pictures ++ [picture]
      attachments := library.attachments ++ added
      lastPicture := picture.id } ∧
    added.Nodup ∧ ∀ attachment, attachment ∈ added ↔
      ∃ label ∈ labels, ∃ tag, library.tag? label = some tag ∧ attachment = ⟨picture.id, tag.id⟩
  carries : (next.tagsOf picture.id).Nodup ∧
    ∀ label, label ∈ next.tagsOf picture.id ↔ label ∈ labels

theorem mem_tagsOf_iff (library : Library) (picture : Int) (label : String) :
    label ∈ library.tagsOf picture ↔
      ∃ tag ∈ library.tags, tag.label = label ∧ ⟨picture, tag.id⟩ ∈ library.attachments := by
  rw [tagsOf, List.mem_mergeSort, List.mem_map]
  constructor
  · rintro ⟨tag, member, same⟩
    obtain ⟨stored, attached⟩ := List.mem_filter.mp member
    exact ⟨tag, stored, same, List.contains_iff_mem.mp attached⟩
  · rintro ⟨tag, stored, same, attached⟩
    exact ⟨tag, List.mem_filter.mpr ⟨stored, List.contains_iff_mem.mpr attached⟩, same⟩

theorem nodup_tagsOf (library : Library) (keyed : library.Keyed) (picture : Int) :
    (library.tagsOf picture).Nodup := by
  rw [tagsOf, (List.mergeSort_perm _ _).nodup_iff]
  exact List.pairwise_map.mpr (distinct_filter _ _ _ keyed.labels)

/-! The picture is stored before its tags are attached. -/

theorem picture_inserted (library : Library) (path : String) (hash : Option PictureHash)
    (picture : Picture) (inserted : Library)
    (done : library.insertPicture path hash = .ok (picture, inserted)) :
    inserted.picture? picture.id ≠ none := by
  obtain ⟨_, _, rfl⟩ := insertPicture_ok library path hash picture inserted done
  simp [picture?]

theorem attachable_inserted (library : Library) (path : String) (hash : Option PictureHash)
    (picture : Picture) (inserted : Library)
    (done : library.insertPicture path hash = .ok (picture, inserted)) (label : String) :
    inserted.Attachable picture.id label ↔ ∃ tag, library.NamesPlain label tag := by
  have present := picture_inserted library path hash picture inserted done
  obtain ⟨_, _, rfl⟩ := insertPicture_ok library path hash picture inserted done
  exact ⟨fun attachable => attachable.2, fun names => ⟨present, names⟩⟩

/-- When the picture is attached to just the tags that the labels name, these labels are listed. -/
theorem tagsOf_exact (library next : Library) (keyed : library.Keyed) (labels : List String)
    (picture : Int) (same : next.tags = library.tags)
    (named : ∀ label ∈ labels, ∃ tag, library.tag? label = some tag)
    (attached : ∀ tag, ⟨picture, tag⟩ ∈ next.attachments ↔
      ∃ label ∈ labels, ∃ other, library.tag? label = some other ∧ tag = other.id) :
    ∀ label, label ∈ next.tagsOf picture ↔ label ∈ labels := by
  intro label
  rw [mem_tagsOf_iff, same]
  constructor
  · rintro ⟨tag, stored, rfl, member⟩
    obtain ⟨label, listed, other, found, sameId⟩ := (attached tag.id).mp member
    have known := mem_of_tag library label other found
    rw [eq_of_id library keyed tag other stored known sameId]
    rwa [label_of_tag library label other found]
  · intro listed
    obtain ⟨tag, found⟩ := named label listed
    have member := (attached tag.id).mpr ⟨label, listed, tag, found, rfl⟩
    exact ⟨tag, mem_of_tag library label tag found, label_of_tag library label tag found, member⟩

theorem gains_of_registered (library : Library) (keyed : library.Keyed) (related : library.Related)
    (path : String) (hash : Option PictureHash) (labels : List String) (picture : Picture)
    (inserted next : Library) (done : library.insertPicture path hash = .ok (picture, inserted))
    (extended : inserted.Extended picture.id labels next)
    (attached : ∀ label ∈ labels, ∃ tag, inserted.NamesPlain label tag ∧
      ⟨picture.id, tag.id⟩ ∈ next.attachments) :
    library.Gains path hash labels picture next := by
  have unattached := unattached_picture library keyed related path hash picture inserted done
  have keyedNext := keyed_insertPicture library keyed path hash picture inserted done
  obtain ⟨_, rfl, rfl⟩ := insertPicture_ok library path hash picture inserted done
  obtain ⟨added, rfl, once, named⟩ := extended
  -- The old attachments belong to other pictures, so those of this one are the added ones.
  have new : ∀ tag, (⟨library.lastPicture + 1, tag⟩ : Attachment) ∈ library.attachments ++ added →
      ⟨library.lastPicture + 1, tag⟩ ∈ added := by
    intro tag member
    rcases List.mem_append.mp member with old | new
    · exact absurd rfl (unattached _ old)
    · exact new
  have exact : ∀ attachment, attachment ∈ added ↔ ∃ label ∈ labels, ∃ tag,
      library.tag? label = some tag ∧ attachment = ⟨library.lastPicture + 1, tag.id⟩ := by
    intro attachment
    constructor
    · intro member
      obtain ⟨label, listed, tag, names, same⟩ := named attachment member
      exact ⟨label, listed, tag, names.1, same⟩
    · rintro ⟨label, listed, tag, found, rfl⟩
      obtain ⟨other, names, member⟩ := attached label listed
      have same : some other = some tag := names.1.symm.trans found
      cases same
      exact new tag.id member
  have known : ∀ label ∈ labels, ∃ tag, library.tag? label = some tag := by
    intro label listed
    obtain ⟨tag, names, _⟩ := attached label listed
    exact ⟨tag, names.1⟩
  refine ⟨⟨rfl, rfl⟩, ⟨rfl, ?_⟩, ⟨added, rfl, (List.nodup_append'.mp once).2.1, exact⟩, ?_, ?_⟩
  · intro old stored
    exact Int.lt_add_one_of_le (keyed.pictures.handedOut old stored)
  · exact nodup_tagsOf _ (keyed_attachments _ keyedNext _) _
  · refine tagsOf_exact library _ keyed labels _ ?_ known fun tag => ?_
    · rfl
    · constructor
      · intro member
        obtain ⟨label, listed, other, found, same⟩ := (exact _).mp (new tag member)
        exact ⟨label, listed, other, found, congrArg Attachment.tag same⟩
      · rintro ⟨label, listed, other, found, rfl⟩
        exact List.mem_append_right _ ((exact _).mpr ⟨label, listed, other, found, rfl⟩)

/-- Taking a picture back that was stored last takes back what was attached to it, and no more. -/
theorem undone_exact (library : Library) (keyed : library.Keyed) (related : library.Related)
    (path : String) (hash : Option PictureHash) (labels : List String) (picture : Picture)
    (inserted attached : Library)
    (done : library.insertPicture path hash = .ok (picture, inserted))
    (extended : inserted.Extended picture.id labels attached) :
    (attached.deletePicture picture.id).2 =
      { library with lastPicture := library.lastPicture + 1 } := by
  have unattached := unattached_picture library keyed related path hash picture inserted done
  obtain ⟨_, rfl, rfl⟩ := insertPicture_ok library path hash picture inserted done
  obtain ⟨added, rfl, _, named⟩ := extended
  -- No older row has to do with the picture, and all that was attached has.
  have pictures : ∀ old ∈ library.pictures, (old.id != library.lastPicture + 1) = true := by
    intro old stored
    have handedOut := keyed.pictures.handedOut old stored
    rw [bne_iff_ne]
    omega
  have others : ∀ old ∈ library.attachments, (old.picture != library.lastPicture + 1) = true := by
    intro old stored
    exact bne_iff_ne.mpr (unattached old stored)
  have own : ∀ attachment ∈ added, ¬(attachment.picture != library.lastPicture + 1) = true := by
    intro attachment member
    obtain ⟨_, _, tag, _, rfl⟩ := named attachment member
    simp
  simp only [deletePicture, List.filter_append, List.filter_eq_self.mpr pictures,
    List.filter_eq_self.mpr others, List.filter_eq_nil_iff.mpr own]
  simp

/-- The path is valid, no picture is at it, and every label names a tag without a definition. -/
def Registrable (library : Library) (path : Text.RawText) (labels : List String) : Prop :=
  ∃ text, path.text? = some text ∧ library.pictureAt? text = none ∧
    ∀ label ∈ labels, ∃ tag, library.tag? label = some tag ∧ tag.definition = none

theorem concurrently_clean (connections : Nat) (library : Library) (reachable : Reachable library)
    (platform : Platform) (path : Text.RawText) (labels : List String) (next : Library)
    (result : Except Failure Picture)
    (ways : library.Concurrently connections platform path labels next result) :
    (∃ text picture, result = .ok picture ∧ path.text? = some text ∧
      library.Registrable path labels ∧
      library.Gains text (platform.hashOfFile path).toOption labels picture next) ∨
    ∃ error, result = .error error ∧
      (next = library ∨ next = { library with lastPicture := library.lastPicture + 1 }) ∧
      (library.Registrable path labels → ∃ failure, error = .library failure ∧
        Tasks.Met connections (library.lastPicture + 1) labels failure) := by
  have keyed := keyed_of_reachable library reachable
  have related := related_of_reachable library reachable
  cases ways with
  | unreadable unread =>
      refine .inr ⟨_, rfl, .inl rfl, ?_⟩
      rintro ⟨text, read, _⟩
      rw [unread] at read
      cases read
  | refused text error read refused =>
      refine .inr ⟨_, rfl, .inl rfl, ?_⟩
      rintro ⟨other, same, free, _⟩
      rw [read] at same
      cases same
      rw [insertPicture, free] at refused
      cases refused
  | registered text picture inserted _ read done succeeded =>
      have once := (related_insertPicture library related text _ picture inserted done).attachedOnce
      obtain ⟨extended, carried, _⟩ :=
        attaches_exact connections inserted once picture.id labels _ _ succeeded
      have attachable := attaches_ok connections inserted once picture.id labels _ succeeded
      have free := (insertPicture_ok library text _ picture inserted done).1
      refine .inl ⟨text, picture, rfl, read, ⟨text, read, free, fun label listed => ?_⟩,
        gains_of_registered library keyed related text _ labels picture inserted next done extended
          fun label listed => (carried rfl label listed).2⟩
      exact (attachable_inserted library text _ picture inserted done label).mp
        (attachable label listed)
  | undone text picture inserted attached error read done failed =>
      have once := (related_insertPicture library related text _ picture inserted done).attachedOnce
      obtain ⟨extended, _⟩ :=
        attaches_exact connections inserted once picture.id labels attached _ failed
      have undone :=
        undone_exact library keyed related text _ labels picture inserted attached done extended
      refine .inr ⟨_, rfl, .inr undone, ?_⟩
      rintro ⟨_, _, _, plain⟩
      have attachable (label : String) (listed : label ∈ labels) :=
        (attachable_inserted library text _ picture inserted done label).mpr (plain label listed)
      rcases attaches_of_attachable connections inserted once picture.id labels attached _ failed
        attachable with succeeded | ⟨_, same, met⟩
      · cases succeeded
      · cases same
        obtain ⟨_, rfl, rfl⟩ := insertPicture_ok library text _ picture inserted done
        exact ⟨error, rfl, met⟩

/-- One task after the other registers every picture that can be. -/
theorem register_ok_iff (library : Library) (reachable : Reachable library) (platform : Platform)
    (path : Text.RawText) (labels : List String) :
    (∃ picture, (library.register platform path labels).2 = .ok picture) ↔
      library.Registrable path labels := by
  -- A single connection leads to the same, and there is no other task to meet.
  have alone := register_concurrently 1 Nat.one_pos library platform path labels
  rcases concurrently_clean 1 library reachable platform path labels _ _ alone with
    ⟨text, picture, done, _, fit, _⟩ | ⟨error, failed, _, unfit⟩
  · exact ⟨fun _ => fit, fun _ => ⟨picture, done⟩⟩
  · constructor
    · rintro ⟨picture, done⟩
      rw [failed] at done
      cases done
    · intro fit
      obtain ⟨_, _, several, _⟩ := unfit fit
      exact absurd several (by decide)

/-- Registering a picture file is all or nothing. The tags are attached by tasks of their own in any
order, of which one after the other is one, and the first failure that is seen aborts the rest.
Either way the library gains exactly the picture with the listed tags, or it stays as it was but for
the last identity of a picture. It gains the picture only when the path is valid, no picture is at
it, and every label names a tag without a definition. Then it does gain the picture, except that two
tasks with connections of their own may meet at the lock; one after the other never fails so. -/
theorem register_all_or_nothing (connections : Nat) (some_ : 0 < connections) (library : Library)
    (reachable : Reachable library) (platform : Platform) (path : Text.RawText)
    (labels : List String) :
    (library.Concurrently connections platform path labels
      (library.register platform path labels).1 (library.register platform path labels).2 ∧
      ((∃ picture, (library.register platform path labels).2 = .ok picture) ↔
        library.Registrable path labels)) ∧
    ∀ next result, library.Concurrently connections platform path labels next result →
      Reachable next ∧
      (∀ picture, result = .ok picture → ∃ text, path.text? = some text ∧
        library.Gains text (platform.hashOfFile path).toOption labels picture next) ∧
      (∀ error, result = .error error → next = { library with lastPicture := next.lastPicture } ∧
        library.lastPicture ≤ next.lastPicture) ∧
      ((∃ picture, result = .ok picture) → library.Registrable path labels) ∧
      (library.Registrable path labels → (∃ picture, result = .ok picture) ∨
        ∃ error, result = .error (.library error) ∧
          Tasks.Met connections (library.lastPicture + 1) labels error) := by
  refine ⟨⟨register_concurrently connections some_ library platform path labels,
    register_ok_iff library reachable platform path labels⟩, fun next result ways => ?_⟩
  refine ⟨reachable_concurrently connections library reachable platform path labels next result
    ways, ?_⟩
  rcases concurrently_clean connections library reachable platform path labels next result ways with
    ⟨text, picture, rfl, read, fit, gains⟩ | ⟨error, rfl, clean, unfit⟩
  · refine ⟨?_, ?_, fun _ => fit, fun _ => .inl ⟨picture, rfl⟩⟩
    · intro other same
      cases same
      exact ⟨text, read, gains⟩
    · intro error same
      cases same
  · refine ⟨?_, ?_, ?_, fun fit => ?_⟩
    · intro picture same
      cases same
    · intro other same
      rcases clean with rfl | rfl
      · exact ⟨rfl, Int.le_refl _⟩
      · exact ⟨rfl, Int.le_add_one (Int.le_refl _)⟩
    · rintro ⟨picture, same⟩
      cases same
    · obtain ⟨failure, rfl, met⟩ := unfit fit
      exact .inr ⟨failure, rfl, met⟩

/-- A tag may be listed twice, and a tag that is attached when another was refused already goes
again. -/
theorem register_all_or_nothing_shelf :
    let path := "b.png".toUTF8.toList
    let refusal := Failure.library (.refused (.compoundTagAttached "pets"))
    Reachable shelf ∧
    shelf.Gains "b.png" none ["cat", "cat"] ⟨2, "b.png", none⟩
      (shelf.register (.bare []) path ["cat", "cat"]).1 ∧
    ∃ next, shelf.Concurrently 10 (.bare []) path ["cat", "pets"] next (.error refusal) ∧
      next = { shelf with lastPicture := next.lastPicture } := by
  intro path refusal
  have reachable : Reachable shelf := reachable_run _
  have read : Text.RawText.text? path = some "b.png" := by decide +kernel
  refine ⟨reachable, ?_, ?_⟩
  · have done : (shelf.register (.bare []) path ["cat", "cat"]).2 = .ok ⟨2, "b.png", none⟩ := by
      decide +kernel
    obtain ⟨⟨order, _⟩, exact⟩ :=
      register_all_or_nothing 10 (by decide) shelf reachable (.bare []) path ["cat", "cat"]
    obtain ⟨text, same, gains⟩ := (exact _ _ order).2.1 _ done
    rw [read] at same
    cases same
    exact gains
  · let stored := shelf.after (.insertPicture "b.png" none)
    let error := LibraryError.refused (.compoundTagAttached "pets")
    have refused : stored.attachTag 2 "pets" = .error error := by decide +kernel
    have order : stored.Attaches 10 2 ["cat", "pets"] _ (.error error) :=
      attaches_of_error 10 (by decide) stored 2 ["cat"] [] "pets" error refused
    have done : shelf.insertPicture "b.png" none = .ok (⟨2, "b.png", none⟩, stored) := by
      decide +kernel
    have ways : shelf.Concurrently 10 (.bare []) path ["cat", "pets"] _ (.error refusal) :=
      .undone "b.png" _ stored _ error read done order
    obtain ⟨_, exact⟩ :=
      register_all_or_nothing 10 (by decide) shelf reachable (.bare []) path ["cat", "pets"]
    exact ⟨_, ways, ((exact _ _ ways).2.2.1 _ rfl).1⟩

/-- The picture could be registered with its tag. Still the second of two tasks that attach it finds
the first one writing, and the picture is taken back. -/
theorem register_meets_shelf :
    let path := "b.png".toUTF8.toList
    let locked := LibraryError.failed (.attachTag 2 "cat") Statement.attachTag .locked
    Reachable shelf ∧ shelf.Registrable path ["cat", "cat"] ∧
      shelf.Concurrently 10 (.bare []) path ["cat", "cat"] { shelf with lastPicture := 2 }
        (.error (.library locked)) := by
  intro path locked
  have fit : shelf.Registrable path ["cat", "cat"] := by
    refine ⟨"b.png", by decide +kernel, by decide +kernel, ?_⟩
    intro label listed
    obtain rfl : label = "cat" := by simpa using listed
    exact ⟨⟨1, "cat", none, none⟩, by decide +kernel, rfl⟩
  have meets := registerBy_concurrently 10 attachTagsMeeting
    (attachTagsMeeting_attaches 10 (by decide)) shelf (.bare []) path ["cat", "cat"]
  have undone : (registerBy attachTagsMeeting shelf (.bare []) path ["cat", "cat"]).1 =
      { shelf with lastPicture := 2 } := by decide +kernel
  have failed : (registerBy attachTagsMeeting shelf (.bare []) path ["cat", "cat"]).2 =
      .error (.library locked) := by decide +kernel
  rw [undone, failed] at meets
  exact ⟨reachable_run _, fit, meets⟩

end Gallery.Library
