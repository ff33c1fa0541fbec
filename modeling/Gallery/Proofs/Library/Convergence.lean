import Gallery.Proofs.Library.Relations
import Gallery.Proofs.Library.Tasks

/-!
Attaching tags to a picture by tasks of their own leads to one set of attachments, whatever the order
in which the tasks run and however often a label is listed. The new attachments are those of the
picture to the tags that the labels name, and attaching them again changes nothing
(`attaching_converges`). Tasks that fail have added some of them.
-/

namespace Gallery.Library

-- Attachments join rows that stay as they are, so labels mean the same all along.
theorem names_extended (library next : Library) (picture : Int) (labels : List String)
    (extended : library.Extended picture labels next) (label : String) (tag : Tag) :
    next.NamesPlain label tag ↔ library.NamesPlain label tag := by
  obtain ⟨added, rfl, _⟩ := extended
  exact Iff.rfl

theorem attachable_extended (library next : Library) (picture : Int) (labels : List String)
    (extended : library.Extended picture labels next) (label : String) :
    next.Attachable picture label ↔ library.Attachable picture label := by
  obtain ⟨added, rfl, _⟩ := extended
  exact Iff.rfl

theorem attachable_all_iff (library : Library) (picture : Int) (labels : List String) :
    (∀ label ∈ labels, library.Attachable picture label) ↔
      labels = [] ∨ library.picture? picture ≠ none ∧
        ∀ label ∈ labels, ∃ tag, library.NamesPlain label tag := by
  constructor
  · intro attachable
    cases labels with
    | nil => exact .inl rfl
    | cons label rest =>
        right
        constructor
        · exact (attachable label List.mem_cons_self).1
        · intro other listed
          exact (attachable other listed).2
  · rintro (rfl | ⟨present, plain⟩) label listed
    · cases listed
    · exact ⟨present, plain label listed⟩

/-- One task after the other succeeds exactly when every label can be attached. -/
theorem attachTags_ok_iff (library : Library) (once : library.attachments.Nodup) (picture : Int)
    (labels : List String) :
    (library.attachTags picture labels).2 = .ok () ↔
      ∀ label ∈ labels, library.Attachable picture label := by
  -- A single connection leads to the same, and there is no other task to meet.
  have alone := attachTags_attaches 1 Nat.one_pos library picture labels
  constructor
  · intro succeeded
    rw [succeeded] at alone
    exact attaches_ok 1 library once picture labels _ alone
  · intro attachable
    rcases attaches_of_attachable 1 library once picture labels _ _ alone attachable with
      succeeded | ⟨_, _, several, _⟩
    · exact succeeded
    · exact absurd several (by decide)

theorem attached_of_ok (connections : Nat) (library : Library)
    (once : library.attachments.Nodup) (picture : Int) (labels : List String) (next : Library)
    (attaches : library.Attaches connections picture labels next (.ok ()))
    (attachment : Attachment) :
    attachment ∈ next.attachments ↔ attachment ∈ library.attachments ∨
      ∃ label ∈ labels, ∃ tag, library.tag? label = some tag ∧ attachment = ⟨picture, tag.id⟩ := by
  obtain ⟨extended, attached, _⟩ :=
    attaches_exact connections library once picture labels next _ attaches
  obtain ⟨added, rfl, _, named⟩ := extended
  constructor
  · intro member
    rcases List.mem_append.mp member with old | new
    · exact .inl old
    · obtain ⟨label, listed, tag, names, same⟩ := named attachment new
      exact .inr ⟨label, listed, tag, names.1, same⟩
  · rintro (old | ⟨label, listed, tag, found, rfl⟩)
    · exact List.mem_append_left added old
    · obtain ⟨_, other, names, member⟩ := attached rfl label listed
      have same : some other = some tag := names.1.symm.trans found
      cases same
      exact member

/-- What is attached is attached to a stored picture, be it by tasks that failed. -/
theorem present_of_added (connections : Nat) (library : Library) (reachable : Reachable library)
    (picture : Int) (labels : List String) (next : Library) (result : Except LibraryError Unit)
    (attaches : library.Attaches connections picture labels next result)
    (changed : next ≠ library) :
    library.picture? picture ≠ none := by
  have reached := reachable_attaches connections library reachable picture labels next result attaches
  have related := related_of_reachable library reachable
  obtain ⟨⟨added, rfl, _, named⟩, _⟩ :=
    attaches_exact connections library related.attachedOnce picture labels next result attaches
  cases added with
  | nil =>
      rw [List.append_nil] at changed
      exact absurd rfl changed
  | cons attachment rest =>
      obtain ⟨_, _, tag, _, rfl⟩ := named attachment List.mem_cons_self
      obtain ⟨stored, known, same⟩ :=
        (related_of_reachable _ reached).attachedTo ⟨picture, tag.id⟩ (by simp)
      intro absent
      have apart := List.find?_eq_none.mp absent stored known
      exact apart (beq_iff_eq.mpr same)

/-- The rows are the same, those of the attachments maybe in another order. -/
def SameRows (library other : Library) : Prop :=
  ∃ attachments, other = { library with attachments := attachments } ∧
    library.attachments.Perm attachments

theorem sameRows_of_extended (library a b : Library) (picture : Int) (first second : List String)
    (left : library.Extended picture first a) (right : library.Extended picture second b)
    (same : ∀ attachment, attachment ∈ a.attachments ↔ attachment ∈ b.attachments) :
    a.SameRows b := by
  obtain ⟨_, rfl, onceLeft, _⟩ := left
  obtain ⟨_, rfl, onceRight, _⟩ := right
  exact ⟨_, rfl, (List.perm_ext_iff_of_nodup onceLeft onceRight).mpr same⟩

variable (connections : Nat) (library : Library) (picture : Int) (labels : List String)

theorem attached_in_any_order (once : library.attachments.Nodup) (others : List String)
    (same : ∀ label, label ∈ others ↔ label ∈ labels) (next other : Library)
    (attaches : library.Attaches connections picture labels next (.ok ()))
    (attachesToo : library.Attaches connections picture others other (.ok ())) :
    next.SameRows other := by
  have extended := (attaches_exact connections library once picture labels next _ attaches).1
  have extendedToo := (attaches_exact connections library once picture others other _ attachesToo).1
  apply sameRows_of_extended library next other picture labels others extended extendedToo
  intro attachment
  rw [attached_of_ok connections library once picture labels next attaches,
    attached_of_ok connections library once picture others other attachesToo]
  simp only [same]

theorem attached_again (once : library.attachments.Nodup) (next again : Library)
    (result : Except LibraryError Unit)
    (attaches : library.Attaches connections picture labels next (.ok ()))
    (repeated : next.Attaches connections picture labels again result) :
    again = next ∧ (result = .ok () ∨ ∃ error, result = .error error ∧
      Tasks.Met connections picture labels error) := by
  have extended := (attaches_exact connections library once picture labels next _ attaches).1
  have carried := attached_of_ok connections library once picture labels next attaches
  have attachable := attaches_ok connections library once picture labels next attaches
  have onceNext : next.attachments.Nodup := by
    obtain ⟨added, rfl, onceNext, _⟩ := extended
    exact onceNext
  constructor
  · obtain ⟨⟨added, rfl, onceAgain, named⟩, _⟩ :=
      attaches_exact connections next onceNext picture labels again result repeated
    -- Whatever was added the second time is there since the first.
    have nothing : added = [] := by
      apply List.eq_nil_iff_forall_not_mem.mpr
      intro attachment member
      obtain ⟨label, listed, tag, names, same⟩ := named attachment member
      have found := ((names_extended library next picture labels extended label tag).mp names).1
      have before := (carried attachment).mpr (.inr ⟨label, listed, tag, found, same⟩)
      exact (List.nodup_append'.mp onceAgain).2.2 before member
    rw [nothing, List.append_nil]
  · refine attaches_of_attachable connections next onceNext picture labels again result repeated ?_
    intro label listed
    exact (attachable_extended library next picture labels extended label).mpr
      (attachable label listed)

/-- Tags are attached by tasks of their own, of which one after the other is one order, and however
the tasks have gone so far they come to an end. They succeed only when there are none, or the
picture is stored and every label names a tag without a definition. Then they do succeed, except
that two tasks with connections of their own may meet at the lock; one after the other never fails
so. On success exactly the attachments to these tags have been added, in any order and with any
repetitions of the labels, and attaching them again changes nothing. Otherwise some of these
attachments may have been added, to a picture that is stored. -/
theorem attaching_converges (some_ : 0 < connections) (reachable : Reachable library) :
    (library.Attaches connections picture labels (library.attachTags picture labels).1
      (library.attachTags picture labels).2 ∧
      ((library.attachTags picture labels).2 = .ok () ↔
        labels = [] ∨ library.picture? picture ≠ none ∧
          ∀ label ∈ labels, ∃ tag, library.tag? label = some tag ∧ tag.definition = none)) ∧
    (∀ tasks, Relation.ReflTransGen (Tasks.Step connections picture) (.start library labels) tasks →
      ∃ final result, Relation.ReflTransGen (Tasks.Step connections picture) tasks final ∧
        final.Finished result) ∧
    ∀ next result, library.Attaches connections picture labels next result →
      (result = .ok () → labels = [] ∨ library.picture? picture ≠ none ∧
        ∀ label ∈ labels, ∃ tag, library.tag? label = some tag ∧ tag.definition = none) ∧
      ((labels = [] ∨ library.picture? picture ≠ none ∧
          ∀ label ∈ labels, ∃ tag, library.tag? label = some tag ∧ tag.definition = none) →
        result = .ok () ∨ ∃ error, result = .error error ∧
          Tasks.Met connections picture labels error) ∧
      library.Extended picture labels next ∧ Reachable next ∧
      (next ≠ library → library.picture? picture ≠ none) ∧
      (result = .ok () →
        (∀ attachment, attachment ∈ next.attachments ↔ attachment ∈ library.attachments ∨
          ∃ label ∈ labels, ∃ tag, library.tag? label = some tag ∧
            attachment = ⟨picture, tag.id⟩) ∧
        (∀ others other, (∀ label, label ∈ others ↔ label ∈ labels) →
          library.Attaches connections picture others other (.ok ()) → next.SameRows other) ∧
        ∀ again repeated, next.Attaches connections picture labels again repeated →
          again = next ∧ (repeated = .ok () ∨ ∃ error, repeated = .error error ∧
            Tasks.Met connections picture labels error)) := by
  have once := (related_of_reachable library reachable).attachedOnce
  have fit := attachable_all_iff library picture labels
  refine ⟨⟨attachTags_attaches connections some_ library picture labels,
    (attachTags_ok_iff library once picture labels).trans fit⟩,
    fun tasks _ => Tasks.tasks_finish connections picture some_ tasks,
    fun next result attaches => ?_⟩
  refine ⟨?_, ?_, (attaches_exact connections library once picture labels next result attaches).1,
    reachable_attaches connections library reachable picture labels next result attaches,
    present_of_added connections library reachable picture labels next result attaches, ?_⟩
  · rintro rfl
    exact fit.mp (attaches_ok connections library once picture labels next attaches)
  · intro attachable
    exact attaches_of_attachable connections library once picture labels next result attaches
      (fit.mpr attachable)
  · rintro rfl
    refine ⟨attached_of_ok connections library once picture labels next attaches,
      fun others other same => ?_, fun again repeated => ?_⟩
    · exact attached_in_any_order connections library picture labels once others same next other
        attaches
    · exact attached_again connections library picture labels once next again repeated attaches

/-- A picture that carries one of three tags, and a compound tag. -/
def aviary : Library :=
  [Operation.insertTag "cat" none none, .insertTag "dog" none none, .insertTag "owl" none none,
    .insertTag "pets" none (some "cat OR dog"), .insertPicture "a.png" none,
    .attachTag 1 "cat"].foldl after empty

/-- Two orders, one with a label listed twice, store the same attachments in different places. -/
theorem attaching_converges_aviary :
    let first := (aviary.attachTags 1 ["dog", "owl", "dog"]).1
    let second := (aviary.attachTags 1 ["owl", "dog"]).1
    first ≠ second ∧ first.SameRows second ∧ ⟨1, 3⟩ ∈ first.attachments := by
  intro first second
  have reachable : Reachable aviary := reachable_run _
  obtain ⟨⟨attaches, _⟩, _, exact⟩ :=
    attaching_converges 10 aviary 1 ["dog", "owl", "dog"] (by decide) reachable
  obtain ⟨⟨attachesToo, _⟩, _, _⟩ :=
    attaching_converges 10 aviary 1 ["owl", "dog"] (by decide) reachable
  have succeeded : (aviary.attachTags 1 ["dog", "owl", "dog"]).2 = .ok () := by decide +kernel
  have succeededToo : (aviary.attachTags 1 ["owl", "dog"]).2 = .ok () := by decide +kernel
  rw [succeededToo] at attachesToo
  obtain ⟨_, _, _, _, _, done⟩ := exact _ _ attaches
  obtain ⟨carried, anyOrder, _⟩ := done succeeded
  refine ⟨by decide +kernel, anyOrder ["owl", "dog"] second ?_ attachesToo, ?_⟩
  · intro label
    grind
  · exact (carried _).mpr (.inr ⟨"owl", by simp, ⟨3, "owl", none, none⟩, by decide +kernel, rfl⟩)

/-- The tag is attached already, and the picture may carry it. Still the second of two tasks finds
the first one writing and fails. -/
theorem attaching_meets_aviary :
    let locked := LibraryError.failed (.attachTag 1 "cat") Statement.attachTag .locked
    Reachable aviary ∧ aviary.picture? 1 ≠ none ∧
      (∀ label ∈ ["cat", "cat"], ∃ tag, aviary.tag? label = some tag ∧ tag.definition = none) ∧
      aviary.Attaches 10 1 ["cat", "cat"] aviary (.error locked) := by
  have unchanged : (aviary.attachTagsMeeting 1 ["cat", "cat"]).1 = aviary := by decide +kernel
  have failed : (aviary.attachTagsMeeting 1 ["cat", "cat"]).2 =
      .error (.failed (.attachTag 1 "cat") Statement.attachTag .locked) := by decide +kernel
  have meets := attachTagsMeeting_attaches 10 (by decide) aviary 1 ["cat", "cat"]
  rw [unchanged, failed] at meets
  refine ⟨reachable_run _, by decide +kernel, ?_, meets⟩
  intro label listed
  obtain rfl : label = "cat" := by simpa using listed
  exact ⟨⟨1, "cat", none, none⟩, by decide +kernel, rfl⟩

end Gallery.Library
