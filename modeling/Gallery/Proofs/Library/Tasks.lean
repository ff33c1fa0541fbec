import Mathlib.Data.List.Nodup
import Mathlib.Data.List.Perm.Subperm
import Mathlib.Logic.Relation
import Gallery.Library.Tasks
import Gallery.Proofs.Library.Invariant

/-!
Tags that are attached at the same time. Whatever the tasks do, they come to an end
(`tasks_finish`). In the end all tags are attached, or there is a failure: of a label that cannot be
attached, or of one whose task has met another one at the lock, which takes two connections
(`attaches_exact`). Attaching one tag after the other is one of the orders (`attachTags_attaches`),
and so is the one in which two tasks meet (`attachTagsMeeting_attaches`).
-/

namespace Gallery.Library

/-- Tasks for the labels can lead from one library to the other, and to the result. -/
def Attaches (connections : Nat) (library : Library) (picture : Int) (labels : List String)
    (next : Library) (result : Except LibraryError Unit) : Prop :=
  ∃ final, Relation.ReflTransGen (Tasks.Step connections picture) (.start library labels) final ∧
    final.library = next ∧ final.Finished result

namespace Tasks

/-- The labels of the tasks that have not ended. -/
def running (tasks : Tasks) : List String :=
  tasks.waiting ++ tasks.reading ++ tasks.writing.toList

variable (connections : Nat) (picture : Int)

/-! Tasks end. -/

/-- What is still to be done: a task gets a connection and the lock, ends, and is looked at. -/
def work (tasks : Tasks) : Nat :=
  4 * tasks.waiting.length + 3 * tasks.reading.length + 2 * tasks.writing.toList.length +
    tasks.ended.length

theorem step_works (tasks next : Tasks) (step : Step connections picture tasks next) :
    next.work < tasks.work := by
  cases step with
  | begins before after label waits | abortsWaiting before after label _ waits =>
      simp only [work, waits, List.length_append, List.length_cons]
      omega
  | refused before after label error reads | losesLock before after label error reads
  | abortsReading before after label _ reads =>
      simp only [work, reads, List.length_append, List.length_cons]
      omega
  | takesLock before after label reads free =>
      simp only [work, reads, free, Option.toList_none, Option.toList_some, List.length_append,
        List.length_cons, List.length_nil]
      omega
  | fails label error writes | commits label id next writes | losesCommit label writes =>
      simp only [work, writes, Option.toList_none, Option.toList_some, List.length_cons,
        List.length_nil]
      omega
  | seesSuccess before after id _ returned | seesFailure before after error _ returned =>
      simp only [work, returned, List.length_append, List.length_cons]
      omega
  | abortsWriting _ writes =>
      obtain ⟨label, held⟩ := Option.isSome_iff_exists.mp writes
      simp only [work, held, Option.toList_none, Option.toList_some, List.length_cons,
        List.length_nil]
      omega

theorem finished_or_steps (some_ : 0 < connections) (tasks : Tasks) :
    (∃ result, tasks.Finished result) ∨ ∃ next, Step connections picture tasks next := by
  obtain ⟨library, waiting, reading, writing, ended, failure⟩ := tasks
  match writing, reading, waiting, failure, ended with
  | some label, reading, waiting, failure, ended =>
      cases done : library.attachTag picture label with
      | error error => exact .inr ⟨_, .fails _ label error rfl done⟩
      | ok pair =>
          by_cases alone : reading = []
          · exact .inr ⟨_, .commits _ label pair.1 pair.2 rfl done (.inl alone)⟩
          · exact .inr ⟨_, .losesCommit _ label rfl alone⟩
  | none, label :: rest, waiting, failure, ended =>
      by_cases refused : ∃ error, library.attachTag picture label = .error (.refused error)
      · obtain ⟨error, refused⟩ := refused
        exact .inr ⟨_, .refused _ [] rest label error rfl refused⟩
      · exact .inr ⟨_, .takesLock _ [] rest label rfl rfl (not_exists.mp refused)⟩
  | none, [], label :: rest, failure, ended => exact .inr ⟨_, .begins _ [] rest label rfl some_⟩
  | none, [], [], some error, ended => exact .inl ⟨_, ⟨rfl, rfl, rfl⟩, by simp, rfl⟩
  | none, [], [], none, [] => exact .inl ⟨_, ⟨rfl, rfl, rfl⟩, by simp, rfl⟩
  | none, [], [], none, .ok id :: rest => exact .inr ⟨_, .seesSuccess _ [] rest id rfl rfl⟩
  | none, [], [], none, .error error :: rest =>
      exact .inr ⟨_, .seesFailure _ [] rest error rfl rfl⟩

/-- However tasks have gone so far, they come to an end. -/
theorem tasks_finish (some_ : 0 < connections) (tasks : Tasks) :
    ∃ final result, Relation.ReflTransGen (Step connections picture) tasks final ∧
      final.Finished result := by
  induction work : tasks.work using Nat.strongRecOn generalizing tasks with
  | ind amount ih =>
      subst work
      rcases finished_or_steps connections picture some_ tasks with
        ⟨result, finished⟩ | ⟨next, step⟩
      · exact ⟨tasks, result, .refl, finished⟩
      · obtain ⟨final, result, run, finished⟩ :=
          ih next.work (step_works connections picture tasks next step) next rfl
        exact ⟨final, result, .head step run, finished⟩

/-! What a step does to the library and to the tasks that run. -/

inductive Effect : Tasks → Tasks → Prop where
  | moves (tasks next : Tasks) (running : tasks.running.Perm next.running)
      (library : next.library = tasks.library) (ended : next.ended = tasks.ended)
      (failure : next.failure = tasks.failure) : Effect tasks next
  | succeeds (tasks next : Tasks) (label : String) (id : Int)
      (running : tasks.running.Perm (label :: next.running))
      (done : tasks.library.attachTag picture label = .ok (id, next.library))
      (ended : next.ended = .ok id :: tasks.ended) (failure : next.failure = tasks.failure) :
      Effect tasks next
  | fails (tasks next : Tasks) (label : String) (error : LibraryError)
      (running : tasks.running.Perm (label :: next.running))
      (reason : tasks.library.attachTag picture label = .error error ∨
        2 ≤ tasks.connected ∧ Locked picture label error)
      (library : next.library = tasks.library) (ended : next.ended = .error error :: tasks.ended)
      (failure : next.failure = tasks.failure) : Effect tasks next
  | looks (tasks next : Tasks) (result : Except LibraryError Int)
      (running : next.running = tasks.running) (library : next.library = tasks.library)
      (ended : tasks.ended.Perm (result :: next.ended)) (unfailed : tasks.failure = none)
      (failure : ∀ error, next.failure = some error ↔ result = .error error) : Effect tasks next
  | aborts (tasks next : Tasks) (label : String)
      (running : tasks.running.Perm (label :: next.running))
      (library : next.library = tasks.library) (ended : next.ended = tasks.ended)
      (failed : tasks.failure.isSome) (failure : next.failure = tasks.failure) : Effect tasks next

theorem waiting_runs (tasks : Tasks) (before after : List String) (label : String)
    (waits : tasks.waiting = before ++ label :: after) :
    tasks.running.Perm (label :: { tasks with waiting := before ++ after }.running) := by
  simp only [running, waits]
  exact (List.perm_middle.append_right _).append_right _

theorem reading_runs (tasks : Tasks) (before after : List String) (label : String)
    (reads : tasks.reading = before ++ label :: after) :
    tasks.running.Perm (label :: { tasks with reading := before ++ after }.running) := by
  simp only [running, reads]
  exact ((List.perm_middle.append_left _).trans List.perm_middle).append_right _

theorem writing_runs (tasks : Tasks) (label : String) (writes : tasks.writing = some label) :
    tasks.running.Perm (label :: { tasks with writing := none }.running) := by
  simp only [running, writes]
  exact List.perm_append_comm.trans (.of_eq (by simp))

theorem effect_of_step (tasks next : Tasks) (step : Step connections picture tasks next) :
    Effect picture tasks next := by
  cases step with
  | begins before after label waits =>
      have other := reading_runs { tasks with
        waiting := before ++ after, reading := label :: tasks.reading } [] _ label rfl
      exact .moves _ _ ((waiting_runs tasks before after label waits).trans other.symm) rfl rfl rfl
  | refused before after label error reads refused =>
      exact .fails _ _ label (.refused error) (reading_runs tasks before after label reads)
        (.inl refused) rfl rfl rfl
  | takesLock before after label reads =>
      have other := writing_runs { tasks with
        reading := before ++ after, writing := some label } label rfl
      refine .moves _ _ ((reading_runs tasks before after label reads).trans ?_) rfl rfl rfl
      simpa only [running, ‹tasks.writing = none›] using other.symm
  | losesLock before after label error reads held locked =>
      have together : 2 ≤ tasks.connected := by
        obtain ⟨other, held⟩ := Option.isSome_iff_exists.mp held
        simp only [connected, reads, held, Option.toList_some, List.length_append,
          List.length_cons, List.length_nil]
        omega
      exact .fails _ _ label error (reading_runs tasks before after label reads)
        (.inr ⟨together, locked⟩) rfl rfl rfl
  | fails label error writes failed =>
      exact .fails _ _ label error (writing_runs tasks label writes) (.inl failed) rfl rfl rfl
  | commits label id next writes done =>
      exact .succeeds _ _ label id (writing_runs tasks label writes) done rfl rfl
  | losesCommit label writes others =>
      have together : 2 ≤ tasks.connected := by
        have some_ := List.length_pos_iff.mpr others
        simp only [connected, writes, Option.toList_some, List.length_cons, List.length_nil]
        omega
      exact .fails _ _ label _ (writing_runs tasks label writes) (.inr ⟨together, .commits⟩)
        rfl rfl rfl
  | seesSuccess before after id unfailed returned =>
      refine .looks _ _ (.ok id) rfl rfl ?_ unfailed (by simp [unfailed])
      exact (List.Perm.of_eq returned).trans List.perm_middle
  | seesFailure before after error unfailed returned =>
      refine .looks _ _ (.error error) rfl rfl ?_ unfailed (by simp)
      exact (List.Perm.of_eq returned).trans List.perm_middle
  | abortsWaiting before after label failed waits =>
      exact .aborts _ _ label (waiting_runs tasks before after label waits) rfl rfl failed rfl
  | abortsReading before after label failed reads =>
      exact .aborts _ _ label (reading_runs tasks before after label reads) rfl rfl failed rfl
  | abortsWriting failed writes =>
      obtain ⟨label, held⟩ := Option.isSome_iff_exists.mp writes
      exact .aborts _ _ label (writing_runs tasks label held) rfl rfl failed rfl

theorem connected_step (tasks next : Tasks) (few : tasks.connected ≤ connections)
    (step : Step connections picture tasks next) : next.connected ≤ connections := by
  cases step <;> grind [connected]

end Tasks

/-! What tasks do to a library. -/

/-- The label names a stored tag without a definition. -/
def NamesPlain (library : Library) (label : String) (tag : Tag) : Prop :=
  library.tag? label = some tag ∧ tag.definition = none

/-- The picture is stored, and the label names a tag that it can carry. -/
def Attachable (library : Library) (picture : Int) (label : String) : Prop :=
  library.picture? picture ≠ none ∧ ∃ tag, library.NamesPlain label tag

theorem attachTag_error (library : Library) (picture : Int) (label : String)
    (error : LibraryError) (failed : library.attachTag picture label = .error error) :
    ¬library.Attachable picture label := by
  rintro ⟨present, tag, found, plain⟩
  have fetched : library.fetchTag label = .ok tag := by rw [fetchTag, found]
  rw [attachTag, fetched] at failed
  simp only [Tag.isCompound, plain, Option.isSome_none, Bool.false_eq_true, ↓reduceIte,
    Option.isNone_iff_eq_none, present] at failed
  split at failed
  · cases failed
  · cases failed

/-- The library with further attachments of the picture, each once, to tags that the labels name. -/
def Extended (library : Library) (picture : Int) (labels : List String) (next : Library) : Prop :=
  ∃ added, next = { library with attachments := library.attachments ++ added } ∧
    (library.attachments ++ added).Nodup ∧
    ∀ attachment ∈ added, ∃ label ∈ labels, ∃ tag, library.NamesPlain label tag ∧
      attachment = ⟨picture, tag.id⟩

theorem extended_refl (library : Library) (once : library.attachments.Nodup) (picture : Int)
    (labels : List String) : library.Extended picture labels library :=
  ⟨[], by rw [List.append_nil], by rwa [List.append_nil], by simp⟩

theorem extended_attachTag (library current next : Library) (picture : Int) (labels : List String)
    (label : String) (id : Int) (extended : library.Extended picture labels current)
    (listed : label ∈ labels) (done : current.attachTag picture label = .ok (id, next)) :
    library.Extended picture labels next ∧ current.attachments ⊆ next.attachments ∧
      library.picture? picture ≠ none ∧
      ∃ tag, library.NamesPlain label tag ∧ ⟨picture, tag.id⟩ ∈ next.attachments := by
  obtain ⟨added, rfl, once, named⟩ := extended
  obtain ⟨tag, found, plain, _, present, rfl⟩ := attachTag_ok _ picture label id next done
  have names : library.NamesPlain label tag := ⟨found, plain⟩
  by_cases attached : (library.attachments ++ added).contains ⟨picture, tag.id⟩ = true
  · simp only [attached, ↓reduceIte]
    exact ⟨⟨added, rfl, once, named⟩, List.Subset.refl _, present, tag, names,
      List.contains_iff_mem.mp attached⟩
  · simp only [attached, Bool.false_eq_true, ↓reduceIte]
    refine ⟨⟨added ++ [⟨picture, tag.id⟩], ?_, ?_, ?_⟩, List.subset_append_left _ _, present, tag,
      names, by simp⟩
    · rw [List.append_assoc]
    · rw [← List.append_assoc]
      refine List.nodup_append'.mpr ⟨once, List.nodup_singleton _, ?_⟩
      intro attachment old new
      cases List.mem_singleton.mp new
      exact attached (List.contains_iff_mem.mpr old)
    · intro attachment member
      rcases List.mem_append.mp member with old | new
      · exact named attachment old
      · exact ⟨label, listed, tag, names, List.mem_singleton.mp new⟩

/-- A failure of two tasks that have met at the lock, which takes two connections. -/
def Tasks.Met (connections : Nat) (picture : Int) (labels : List String) (error : LibraryError) :
    Prop :=
  2 ≤ connections ∧ 2 ≤ labels.length ∧ ∃ label ∈ labels, Locked picture label error

/-- The failure has a reason: a label that cannot be attached, or two tasks that have met. -/
def Blamed (connections : Nat) (library : Library) (picture : Int) (labels : List String)
    (error : LibraryError) : Prop :=
  (∃ label ∈ labels, library.attachTag picture label = .error error) ∨
    Tasks.Met connections picture labels error

/-- What holds while tasks for the labels are under way: they only add attachments, the label of a
task that has ended is attached unless there is a failure, and every failure has a reason. -/
structure Underway (connections : Nat) (library : Library) (picture : Int) (labels : List String)
    (tasks : Tasks) : Prop where
  extended : library.Extended picture labels tasks.library
  listed : tasks.running.Subperm labels
  connected : tasks.connected ≤ connections
  attached : tasks.failure = none → (∀ error, .error error ∉ tasks.ended) →
    ∀ label ∈ labels, label ∈ tasks.running ∨ library.picture? picture ≠ none ∧
      ∃ tag, library.NamesPlain label tag ∧ ⟨picture, tag.id⟩ ∈ tasks.library.attachments
  blamed : ∀ error, tasks.failure = some error ∨ .error error ∈ tasks.ended →
    library.Blamed connections picture labels error

theorem underway_start (connections : Nat) (library : Library)
    (once : library.attachments.Nodup) (picture : Int) (labels : List String) :
    library.Underway connections picture labels (.start library labels) := by
  have all : (Tasks.start library labels).running = labels := by simp [Tasks.start, Tasks.running]
  refine ⟨extended_refl library once picture labels, ?_,
    by simp [Tasks.start, Tasks.connected], fun _ _ label listed => .inl ?_, ?_⟩
  · rw [all]
  · rwa [all]
  · simp [Tasks.start]

-- Attachments play no role for what can be attached.
theorem attachTag_error_extended (library next : Library) (picture : Int) (labels : List String)
    (extended : library.Extended picture labels next) (label : String) (error : LibraryError)
    (failed : next.attachTag picture label = .error error) :
    library.attachTag picture label = .error error := by
  obtain ⟨added, rfl, _⟩ := extended
  have tags : fetchTag { library with attachments := library.attachments ++ added } label =
      library.fetchTag label := rfl
  have pictures : picture? { library with attachments := library.attachments ++ added } picture =
      library.picture? picture := rfl
  rw [attachTag, tags, pictures] at failed
  rw [attachTag]
  grind

theorem connected_le_running (tasks : Tasks) : tasks.connected ≤ tasks.running.length := by
  simp only [Tasks.connected, Tasks.running, List.length_append]
  omega

section Step

variable (connections : Nat) (library : Library) (picture : Int) (labels : List String)
  (tasks next : Tasks) (underway : library.Underway connections picture labels tasks)

include underway

/-- The failure of a task that ends is blamed on its label, or on another one that is connected. -/
theorem blamed_of_fails (label : String) (error : LibraryError) (runs : label ∈ tasks.running)
    (reason : tasks.library.attachTag picture label = .error error ∨
      2 ≤ tasks.connected ∧ Tasks.Locked picture label error) :
    library.Blamed connections picture labels error := by
  have listed := underway.listed.subset runs
  rcases reason with refused | ⟨together, locked⟩
  · exact .inl ⟨label, listed, attachTag_error_extended library tasks.library picture labels
      underway.extended label error refused⟩
  · have few := underway.listed.length_le
    have running := connected_le_running tasks
    exact .inr ⟨by have := underway.connected; omega, by omega, label, listed, locked⟩

variable (connected : next.connected ≤ connections)

include connected

theorem underway_moves (running : tasks.running.Perm next.running)
    (same : next.library = tasks.library) (ended : next.ended = tasks.ended)
    (failure : next.failure = tasks.failure) :
    library.Underway connections picture labels next := by
  refine ⟨same ▸ underway.extended, running.symm.subperm.trans underway.listed, connected, ?_, ?_⟩
  · rw [same, ended, failure]
    simpa only [← running.mem_iff] using underway.attached
  · rw [ended, failure]
    exact underway.blamed

theorem underway_succeeds (label : String) (id : Int)
    (running : tasks.running.Perm (label :: next.running))
    (done : tasks.library.attachTag picture label = .ok (id, next.library))
    (ended : next.ended = .ok id :: tasks.ended) (failure : next.failure = tasks.failure) :
    library.Underway connections picture labels next := by
  have listed := running.symm.subperm.trans underway.listed
  obtain ⟨extended, grows, present, names⟩ := extended_attachTag library tasks.library next.library
    picture labels label id underway.extended (listed.subset List.mem_cons_self) done
  refine ⟨extended, (List.sublist_cons_self _ _).subperm.trans listed, connected, ?_, ?_⟩
  · rw [ended, failure]
    intro unseen none other member
    -- What is listed still runs, has ended now, or was attached before.
    have before := underway.attached unseen
      (fun error old => none error (List.mem_cons_of_mem _ old)) other member
    rcases before with runs | ⟨_, tag, named, carried⟩
    · rcases List.mem_cons.mp (running.subset runs) with rfl | runs
      · exact .inr ⟨present, names⟩
      · exact .inl runs
    · exact .inr ⟨present, tag, named, grows carried⟩
  · rw [ended, failure]
    simpa using underway.blamed

theorem underway_fails (label : String) (error : LibraryError)
    (running : tasks.running.Perm (label :: next.running))
    (reason : tasks.library.attachTag picture label = .error error ∨
      2 ≤ tasks.connected ∧ Tasks.Locked picture label error)
    (same : next.library = tasks.library) (ended : next.ended = .error error :: tasks.ended)
    (failure : next.failure = tasks.failure) :
    library.Underway connections picture labels next := by
  have rest := (List.sublist_cons_self label _).subperm.trans running.symm.subperm
  have blamed := blamed_of_fails connections library picture labels tasks underway label error
    (running.symm.subset List.mem_cons_self) reason
  refine ⟨same ▸ underway.extended, rest.trans underway.listed, connected, ?_, ?_⟩
  · rw [ended]
    intro _ none
    exact absurd List.mem_cons_self (none error)
  · rw [ended, failure]
    intro other reason
    rcases reason with seen | member
    · exact underway.blamed other (.inl seen)
    · rcases List.mem_cons.mp member with same | old
      · cases same
        exact blamed
      · exact underway.blamed other (.inr old)

theorem underway_looks (result : Except LibraryError Int) (running : next.running = tasks.running)
    (same : next.library = tasks.library) (ended : tasks.ended.Perm (result :: next.ended))
    (unfailed : tasks.failure = none)
    (failure : ∀ error, next.failure = some error ↔ result = .error error) :
    library.Underway connections picture labels next := by
  refine ⟨same ▸ underway.extended, running ▸ underway.listed, connected, ?_, ?_⟩
  · rw [same, running]
    intro unseen none
    refine underway.attached unfailed fun error member => ?_
    rcases List.mem_cons.mp (ended.subset member) with looked | old
    · rw [(failure error).mpr looked.symm] at unseen
      cases unseen
    · exact none error old
  · intro error reason
    refine underway.blamed error (.inr (ended.symm.subset ?_))
    rcases reason with seen | member
    · rw [(failure error).mp seen]
      exact List.mem_cons_self
    · exact List.mem_cons_of_mem _ member

theorem underway_aborts (label : String) (running : tasks.running.Perm (label :: next.running))
    (same : next.library = tasks.library) (ended : next.ended = tasks.ended)
    (failed : tasks.failure.isSome) (failure : next.failure = tasks.failure) :
    library.Underway connections picture labels next := by
  have rest := (List.sublist_cons_self label _).subperm.trans running.symm.subperm
  refine ⟨same ▸ underway.extended, rest.trans underway.listed, connected, ?_, ?_⟩
  · -- With a failure seen, nothing is promised of the tasks that are aborted.
    intro none
    rw [failure.symm.trans none] at failed
    cases failed
  · rw [ended, failure]
    exact underway.blamed

omit connected

theorem underway_step (step : Tasks.Step connections picture tasks next) :
    library.Underway connections picture labels next := by
  have connected := Tasks.connected_step connections picture tasks next underway.connected step
  cases Tasks.effect_of_step connections picture tasks next step with
  | moves running same ended failure =>
      exact underway_moves connections library picture labels tasks next underway connected running
        same ended failure
  | succeeds label id running done ended failure =>
      exact underway_succeeds connections library picture labels tasks next underway connected label
        id running done ended failure
  | fails label error running reason same ended failure =>
      exact underway_fails connections library picture labels tasks next underway connected label
        error running reason same ended failure
  | looks result running same ended unfailed failure =>
      exact underway_looks connections library picture labels tasks next underway connected result
        running same ended unfailed failure
  | aborts label running same ended failed failure =>
      exact underway_aborts connections library picture labels tasks next underway connected label
        running same ended failed failure

end Step

theorem underway_run (connections : Nat) (library : Library) (once : library.attachments.Nodup)
    (picture : Int) (labels : List String) (tasks : Tasks)
    (run : Relation.ReflTransGen (Tasks.Step connections picture) (.start library labels) tasks) :
    library.Underway connections picture labels tasks := by
  induction run with
  | refl => exact underway_start connections library once picture labels
  | tail _ step ih => exact underway_step connections library picture labels _ _ ih step

/-- Whatever the order, tasks only add attachments of the picture to tags that the labels name. When
they succeed every label is attached, and when they fail there is a reason. -/
theorem attaches_exact (connections : Nat) (library : Library)
    (once : library.attachments.Nodup) (picture : Int) (labels : List String) (next : Library)
    (result : Except LibraryError Unit)
    (attaches : library.Attaches connections picture labels next result) :
    library.Extended picture labels next ∧
    (result = .ok () → ∀ label ∈ labels, library.picture? picture ≠ none ∧
      ∃ tag, library.NamesPlain label tag ∧ ⟨picture, tag.id⟩ ∈ next.attachments) ∧
    ∀ error, result = .error error → library.Blamed connections picture labels error := by
  obtain ⟨final, run, rfl, finished⟩ := attaches
  have underway := underway_run connections library once picture labels final run
  have result_ := finished.result
  refine ⟨underway.extended, ?_, ?_⟩
  · rintro rfl label listed
    split at result_
    · next unfailed =>
        have looked := finished.seen unfailed
        rcases underway.attached unfailed (by simp [looked]) label listed with runs | attached
        · obtain ⟨waiting, reading, writing⟩ := finished.quiet
          simp [Tasks.running, waiting, reading, writing] at runs
        · exact attached
    · cases result_
  · rintro error rfl
    split at result_
    · cases result_
    · next failed =>
        cases result_
        exact underway.blamed error (.inl failed)

theorem attaches_ok (connections : Nat) (library : Library) (once : library.attachments.Nodup)
    (picture : Int) (labels : List String) (next : Library)
    (attaches : library.Attaches connections picture labels next (.ok ())) :
    ∀ label ∈ labels, library.Attachable picture label := by
  obtain ⟨_, attached, _⟩ :=
    attaches_exact connections library once picture labels next _ attaches
  intro label listed
  obtain ⟨present, tag, names, _⟩ := attached rfl label listed
  exact ⟨present, tag, names⟩

/-- When every label can be attached, tasks fail only where they meet. -/
theorem attaches_of_attachable (connections : Nat) (library : Library)
    (once : library.attachments.Nodup) (picture : Int) (labels : List String) (next : Library)
    (result : Except LibraryError Unit)
    (attaches : library.Attaches connections picture labels next result)
    (attachable : ∀ label ∈ labels, library.Attachable picture label) :
    result = .ok () ∨ ∃ error, result = .error error ∧
      Tasks.Met connections picture labels error := by
  obtain ⟨_, _, blamed⟩ :=
    attaches_exact connections library once picture labels next result attaches
  cases result with
  | ok => exact .inl rfl
  | error error =>
      rcases blamed error rfl with ⟨label, listed, refused⟩ | met
      · exact absurd (attachable label listed) (attachTag_error library picture label error refused)
      · exact .inr ⟨error, rfl, met⟩

/-! Attaching one tag after the other. -/

theorem aborts_all (connections : Nat) (library : Library) (picture : Int) (waiting : List String)
    (writing : Option String) (ended : List (Except LibraryError Int)) (error : LibraryError) :
    Relation.ReflTransGen (Tasks.Step connections picture)
      ⟨library, waiting, [], writing, ended, some error⟩
      ⟨library, [], [], writing, ended, some error⟩ := by
  induction waiting with
  | nil => exact .refl
  | cons label rest ih => exact .head (.abortsWaiting _ [] rest label rfl rfl) ih

/-- A task that is alone returns what its attachment does. -/
theorem returns_alone (connections : Nat) (some_ : 0 < connections) (library : Library)
    (picture : Int) (before after : List String) (label : String) :
    Relation.ReflTransGen (Tasks.Step connections picture)
      ⟨library, before ++ label :: after, [], none, [], none⟩
      ⟨library.kept (library.attachTag picture label), before ++ after, [], none,
        [(library.attachTag picture label).map Prod.fst], none⟩ := by
  refine .head (.begins _ before after label rfl some_) ?_
  by_cases refused : ∃ error, library.attachTag picture label = .error (.refused error)
  · obtain ⟨error, refused⟩ := refused
    rw [refused]
    exact .single (.refused _ [] [] label error rfl refused)
  · refine .head (.takesLock _ [] [] label rfl rfl (not_exists.mp refused)) ?_
    cases done : library.attachTag picture label with
    | error error => exact .single (.fails _ label error rfl done)
    | ok pair => exact .single (.commits _ label pair.1 pair.2 rfl done (.inl rfl))

/-- A task that is the first and fails makes the others stop. -/
theorem attaches_of_error (connections : Nat) (some_ : 0 < connections) (library : Library)
    (picture : Int) (before after : List String) (label : String) (error : LibraryError)
    (failed : library.attachTag picture label = .error error) :
    library.Attaches connections picture (before ++ label :: after) library (.error error) := by
  have returns := returns_alone connections some_ library picture before after label
  rw [failed] at returns
  have sees := returns.tail (.seesFailure _ [] [] error rfl rfl)
  exact ⟨_, sees.trans (aborts_all connections library picture _ none [] error), rfl,
    ⟨rfl, rfl, rfl⟩, by simp, rfl⟩

theorem attachTags_attaches (connections : Nat) (some_ : 0 < connections) (library : Library)
    (picture : Int) (labels : List String) :
    library.Attaches connections picture labels (library.attachTags picture labels).1
      (library.attachTags picture labels).2 := by
  induction labels generalizing library with
  | nil => exact ⟨_, .refl, rfl, ⟨rfl, rfl, rfl⟩, fun _ => rfl, rfl⟩
  | cons label rest ih =>
      rw [attachTags]
      split
      · next error failed =>
          exact attaches_of_error connections some_ library picture [] rest label error failed
      · next id next done =>
          have returns := returns_alone connections some_ library picture [] rest label
          rw [done] at returns
          have sees := returns.tail (.seesSuccess _ [] [] id rfl rfl)
          obtain ⟨final, run, same, finished⟩ := ih next
          exact ⟨final, sees.trans run, same, finished⟩

/-! Two tasks that meet at the lock. -/

theorem attaches_of_meeting (connections : Nat) (several : 2 ≤ connections) (library : Library)
    (picture : Int) (first second : String) (rest : List String) (id : Int)
    (next : Library) (done : library.attachTag picture first = .ok (id, next)) :
    library.Attaches connections picture (first :: second :: rest) next
      (.error (.failed (.attachTag picture second) Statement.attachTag .locked)) := by
  have admitted : ∀ error, library.attachTag picture first ≠ .error (.refused error) := by
    simp [done]
  have begins : Tasks.Step connections picture
      ⟨library, first :: second :: rest, [], none, [], none⟩ _ :=
    .begins _ [] (second :: rest) first rfl (Nat.lt_of_lt_of_le Nat.two_pos several)
  have takesLock := Relation.ReflTransGen.tail (.single begins)
    (.takesLock _ [] [] first rfl rfl admitted)
  have meets := takesLock.tail (.begins _ [] rest second rfl several)
  have losesLock := meets.tail (.losesLock _ [] [] second _ rfl rfl .writes)
  have sees := losesLock.tail (.seesFailure _ [] [] _ rfl rfl)
  have alone := sees.trans (aborts_all connections library picture rest (some first) [] _)
  have commits := alone.tail (.commits _ first id next rfl done (.inl rfl))
  exact ⟨_, commits, rfl, ⟨rfl, rfl, rfl⟩, by simp, rfl⟩

theorem attachTagsMeeting_attaches (connections : Nat) (several : 2 ≤ connections)
    (library : Library) (picture : Int) (labels : List String) :
    library.Attaches connections picture labels (library.attachTagsMeeting picture labels).1
      (library.attachTagsMeeting picture labels).2 := by
  have some_ : 0 < connections := Nat.lt_of_lt_of_le Nat.two_pos several
  rw [attachTagsMeeting.eq_def]
  split
  · next first second rest =>
      split
      · next error failed =>
          exact attaches_of_error connections some_ library picture [] _ first error failed
      · next error _ failed =>
          exact attaches_of_error connections some_ library picture [first] rest second error failed
      · next _ _ id next _ done _ =>
          exact attaches_of_meeting connections several library picture first second rest id next
            done
  · exact attachTags_attaches connections some_ library picture _

/-- A library that tasks lead to is one that operations lead to. -/
theorem reachable_attaches (connections : Nat) (library : Library)
    (reachable : Reachable library) (picture : Int) (labels : List String) (next : Library)
    (result : Except LibraryError Unit)
    (attaches : library.Attaches connections picture labels next result) : Reachable next := by
  obtain ⟨final, run, rfl, finished⟩ := attaches
  clear finished
  induction run with
  | refl => exact reachable
  | tail _ step ih =>
      cases Tasks.effect_of_step connections picture _ _ step with
      | succeeds label id _ done =>
          have reached := Reachable.step _ (.attachTag picture label) ih
          rwa [after, done] at reached
      | moves _ library | fails _ _ _ _ library | looks _ _ library | aborts _ _ library =>
          rwa [library]

end Gallery.Library
