import Mathlib.Data.List.Nodup
import Mathlib.Data.List.ProdSigma
import Mathlib.Data.Set.Function
import Mathlib.Logic.Relation
import Mathlib.Order.Interval.Set.Defs
import Gallery.Proofs.Query.Atoms

/-!
The search for contradictions step by step: one leaf, one connective or one pair of terms at a time.
The steps come to what the search comes to (`run_ends`), and at every point of them, also on the way
to giving up, no more pairs have been merged than the search may try, no normal form has too many
terms, and the table gives every atom an index of its own (`rewriting_bounded`).
-/

namespace Gallery.Query

namespace NormalForm

/-- The terms with the conjunction of a further pair, unless its terms contradict each other. -/
def gather (terms : NormalForm) (pair : Term × Term) : NormalForm :=
  match pair.1.merge? pair.2 with
  | some term => terms.insert term
  | none => terms

theorem gather_length (terms : NormalForm) (pair : Term × Term) :
    (terms.gather pair).length ≤ terms.length + 1 := by
  rw [gather]
  split
  · next term _ =>
      by_cases known : term ∈ terms
      · rw [List.insert_of_mem known]
        exact Nat.le_succ _
      · rw [List.insert_of_not_mem known]
        exact Nat.le_refl _
  · exact Nat.le_succ _

theorem mem_gather (terms : NormalForm) (pair : Term × Term) (term : Term)
    (member : term ∈ terms.gather pair) :
    term ∈ terms ∨ pair.1.merge? pair.2 = some term := by
  rw [gather] at member
  split at member
  · next found merged =>
      rcases List.mem_insert_iff.mp member with same | old
      · exact .inr (same ▸ merged)
      · exact .inl old
  · exact .inl member

theorem product_gathered (a b : NormalForm) : a.product b = (a ×ˢ b).foldl gather [] := by
  have rows (before : NormalForm) :
      a.foldl (fun terms s =>
        b.foldl (fun terms t =>
          match s.merge? t with
          | some term => terms.insert term
          | none => terms) terms) before = (a ×ˢ b).foldl gather before := by
    induction a generalizing before with
    | nil => rfl
    | cons s rest ih =>
        rw [List.product_cons, List.foldl_append, List.foldl_map, List.foldl_cons, ih]
        rfl
  exact rows []

/-- At most `maxTerms` terms, which mention only the first `count` indices. -/
def Fits (count : Nat) (terms : NormalForm) : Prop :=
  terms.length ≤ maxTerms ∧ ∀ term ∈ terms, term.Within count

theorem Fits.later {count later : Nat} {terms : NormalForm} (fits : terms.Fits count)
    (more : count ≤ later) : terms.Fits later :=
  ⟨fits.1, fun term member i stated => Nat.lt_of_lt_of_le (fits.2 term member i stated) more⟩

end NormalForm

/-- What a rewriting is about to do. -/
inductive Rewriting.Task where
  /-- Bring the expression, or its negation, into normal form. -/
  | form (positive : Bool) (expr : Expr)
  /-- Merge the pairs, next to the terms that came out of the pairs before. -/
  | merge (pairs : List (Term × Term)) (terms : NormalForm)
  /-- Hand a normal form over to what waits for it, or give up. -/
  | give (result : Option NormalForm)

/-- What waits for a normal form. -/
inductive Rewriting.Frame where
  /-- Rewrite the right side, now that the left one is done. -/
  | right (conjunction positive : Bool) (expr : Expr)
  /-- Join the normal form of the left side with that of the right one. -/
  | join (conjunction : Bool) (left : NormalForm)

/-- The search for contradictions at one point. -/
structure Rewriting where
  progress : Progress
  /-- The number of pairs of terms that have been merged. -/
  merged : Nat
  task : Rewriting.Task
  /-- What is still to be done with the outcome of the task, the next thing first. -/
  frames : List Rewriting.Frame

namespace Rewriting

def Task.pairs : Task → List (Term × Term)
  | form .. | give .. => []
  | merge pairs _ => pairs

def Task.forms : Task → List NormalForm
  | form .. => []
  | merge _ terms => [terms]
  | give result => result.toList

def Frame.forms : Frame → List NormalForm
  | right .. => []
  | join _ left => [left]

def start (positive : Bool) (expr : Expr) : Rewriting :=
  ⟨.start, 0, .form positive expr, []⟩

/-- All normal forms that have been returned and are still used, and the one that is built. -/
def forms (rewriting : Rewriting) : List NormalForm :=
  rewriting.task.forms ++ rewriting.frames.flatMap Frame.forms

inductive Step : Rewriting → Rewriting → Prop where
  | tag (progress : Progress) (merged : Nat) (positive : Bool) (label : String)
      (symbol : Option Char) (frames : List Frame) :
      Step ⟨progress, merged, .form positive (.tag label symbol), frames⟩
        ⟨(progress.literal (.tag label symbol) positive).2, merged,
          .give (some (progress.literal (.tag label symbol) positive).1), frames⟩
  | pseudo (progress : Progress) (merged : Nat) (positive : Bool) (name : String)
      (argument : Option Argument) (frames : List Frame) :
      Step ⟨progress, merged, .form positive (.pseudo name argument), frames⟩
        ⟨(progress.literal (.pseudo name argument) positive).2, merged,
          .give (some (progress.literal (.pseudo name argument) positive).1), frames⟩
  | not (progress : Progress) (merged : Nat) (positive : Bool) (operand : Expr)
      (frames : List Frame) :
      Step ⟨progress, merged, .form positive (.not operand), frames⟩
        ⟨progress, merged, .form (!positive) operand, frames⟩
  | and (progress : Progress) (merged : Nat) (positive : Bool) (left right : Expr)
      (frames : List Frame) :
      Step ⟨progress, merged, .form positive (.and left right), frames⟩
        ⟨progress, merged, .form positive left, .right positive positive right :: frames⟩
  | or (progress : Progress) (merged : Nat) (positive : Bool) (left right : Expr)
      (frames : List Frame) :
      Step ⟨progress, merged, .form positive (.or left right), frames⟩
        ⟨progress, merged, .form positive left, .right (!positive) positive right :: frames⟩
  | right (progress : Progress) (merged : Nat) (conjunction positive : Bool) (a : NormalForm)
      (expr : Expr) (frames : List Frame) :
      Step ⟨progress, merged, .give (some a), .right conjunction positive expr :: frames⟩
        ⟨progress, merged, .form positive expr, .join conjunction a :: frames⟩
  -- The pairs count as tried before the first of them is merged.
  | conjoins (progress : Progress) (merged : Nat) (a b : NormalForm) (frames : List Frame)
      (fits : progress.PairsFit a b) :
      Step ⟨progress, merged, .give (some b), .join true a :: frames⟩
        ⟨{ progress with steps := progress.steps + a.length * b.length }, merged,
          .merge (a ×ˢ b) [], frames⟩
  | exceeds (progress : Progress) (merged : Nat) (a b : NormalForm) (frames : List Frame)
      (unfit : ¬progress.PairsFit a b) :
      Step ⟨progress, merged, .give (some b), .join true a :: frames⟩
        ⟨progress, merged, .give none, frames⟩
  | merges (progress : Progress) (merged : Nat) (pair : Term × Term) (pairs : List (Term × Term))
      (terms : NormalForm) (frames : List Frame) :
      Step ⟨progress, merged, .merge (pair :: pairs) terms, frames⟩
        ⟨progress, merged + 1, .merge pairs (terms.gather pair), frames⟩
  | merged (progress : Progress) (merged : Nat) (terms : NormalForm) (frames : List Frame) :
      Step ⟨progress, merged, .merge [] terms, frames⟩
        ⟨progress, merged, .give (some terms), frames⟩
  | unites (progress : Progress) (merged : Nat) (a b : NormalForm) (frames : List Frame)
      (fits : Progress.TermsFit a b) :
      Step ⟨progress, merged, .give (some b), .join false a :: frames⟩
        ⟨progress, merged, .give (some (a.union b)), frames⟩
  | overflows (progress : Progress) (merged : Nat) (a b : NormalForm) (frames : List Frame)
      (unfit : ¬Progress.TermsFit a b) :
      Step ⟨progress, merged, .give (some b), .join false a :: frames⟩
        ⟨progress, merged, .give none, frames⟩
  | fails (progress : Progress) (merged : Nat) (frame : Frame) (frames : List Frame) :
      Step ⟨progress, merged, .give none, frame :: frames⟩
        ⟨progress, merged, .give none, frames⟩

/-! Steps come to the normal form. -/

theorem step_leaf (progress : Progress) (merged : Nat) (positive : Bool) (atom : Atom)
    (frames : List Frame) :
    Step ⟨progress, merged, .form positive atom.leaf, frames⟩
      ⟨(progress.literal atom positive).2, merged,
        .give (some (progress.literal atom positive).1), frames⟩ := by
  cases atom with
  | tag label symbol => exact .tag progress merged positive label symbol frames
  | pseudo name argument => exact .pseudo progress merged positive name argument frames

theorem step_junction (progress : Progress) (merged : Nat) (positive conjunction : Bool)
    (left right : Expr) (frames : List Frame) :
    Step ⟨progress, merged, .form positive (.junction conjunction left right), frames⟩
      ⟨progress, merged, .form positive left,
        .right (conjunction == positive) positive right :: frames⟩ := by
  cases conjunction with
  | true =>
      rw [show (true == positive) = positive by cases positive <;> rfl]
      exact .and progress merged positive left right frames
  | false =>
      rw [show (false == positive) = !positive by cases positive <;> rfl]
      exact .or progress merged positive left right frames

theorem run_pairs (progress : Progress) (merged : Nat) (pairs : List (Term × Term))
    (terms : NormalForm) (frames : List Frame) :
    Relation.ReflTransGen Step ⟨progress, merged, .merge pairs terms, frames⟩
      ⟨progress, merged + pairs.length, .give (some (pairs.foldl NormalForm.gather terms)),
        frames⟩ := by
  induction pairs generalizing merged terms with
  | nil => exact .single (.merged progress merged terms frames)
  | cons pair rest ih =>
      have run := ih (merged + 1) (terms.gather pair)
      rw [Nat.add_assoc, Nat.add_comm 1] at run
      exact run.head (.merges progress merged pair rest terms frames)

/-- A run leads from a rewriting to handing over the outcome of a search, and with it to the
progress of the search when it was not given up. -/
def Hands (before : Rewriting) (result : Option (NormalForm × Progress)) (frames : List Frame) :
    Prop :=
  ∃ late merged,
    Relation.ReflTransGen Step before ⟨late, merged, .give (result.map Prod.fst), frames⟩ ∧
      ∀ terms after, result = some (terms, after) → late = after

theorem Hands.after {before middle : Rewriting} {result : Option (NormalForm × Progress)}
    {frames : List Frame} (hands : middle.Hands result frames)
    (run : Relation.ReflTransGen Step before middle) : before.Hands result frames := by
  obtain ⟨late, merged, later, same⟩ := hands
  exact ⟨late, merged, run.trans later, same⟩

theorem run_joined (progress : Progress) (merged : Nat) (conjunction : Bool) (a b : NormalForm)
    (frames : List Frame) :
    Hands ⟨progress, merged, .give (some b), .join conjunction a :: frames⟩
      (progress.joined? conjunction a b) frames := by
  cases conjunction with
  | true =>
      by_cases fits : progress.PairsFit a b
      · have done := (Progress.conjunction_eq_some_iff progress a b _).mpr ⟨fits, rfl⟩
        have run := run_pairs { progress with steps := progress.steps + a.length * b.length }
          merged (a ×ˢ b) [] frames
        rw [← NormalForm.product_gathered] at run
        rw [Progress.joined?, if_pos rfl, done]
        refine ⟨_, _, run.head (.conjoins progress merged a b frames fits), ?_⟩
        rintro terms after ⟨⟩
        rfl
      · have refused : progress.conjunction? a b = none := by
          rw [Option.eq_none_iff_forall_ne_some]
          intro result done
          exact fits ((Progress.conjunction_eq_some_iff progress a b result).mp done).1
        rw [Progress.joined?, if_pos rfl, refused]
        refine ⟨_, _, .single (.exceeds progress merged a b frames fits), ?_⟩
        rintro terms after ⟨⟩
  | false =>
      by_cases fits : Progress.TermsFit a b
      · have done := (Progress.disjunction_eq_some_iff progress a b _).mpr ⟨fits, rfl⟩
        rw [Progress.joined?, if_neg (by decide), done]
        refine ⟨_, _, .single (.unites progress merged a b frames fits), ?_⟩
        rintro terms after ⟨⟩
        rfl
      · have refused : progress.disjunction? a b = none := by
          rw [Option.eq_none_iff_forall_ne_some]
          intro result done
          exact fits ((Progress.disjunction_eq_some_iff progress a b result).mp done).1
        rw [Progress.joined?, if_neg (by decide), refused]
        refine ⟨_, _, .single (.overflows progress merged a b frames fits), ?_⟩
        rintro terms after ⟨⟩

-- The frames are arbitrary, since the sides of a connective are rewritten with frames of its own.
theorem run_form (expr : Expr) (progress : Progress) (merged : Nat) (positive : Bool)
    (frames : List Frame) :
    Hands ⟨progress, merged, .form positive expr, frames⟩ (progress.normalForm? positive expr)
      frames := by
  induction expr using Expr.junction_induction generalizing progress merged positive frames with
  | leaf atom =>
      rw [Progress.normalForm_leaf]
      refine ⟨_, _, .single (step_leaf progress merged positive atom frames), ?_⟩
      rintro terms after ⟨⟩
      rfl
  | not operand ih =>
      have run := ih progress merged (!positive) frames
      exact run.after (.single (.not progress merged positive operand frames))
  | junction conjunction left right ihLeft ihRight =>
      have begun := step_junction progress merged positive conjunction left right frames
      obtain ⟨middle, count, runLeft, sameLeft⟩ := ihLeft progress merged positive
        (.right (conjunction == positive) positive right :: frames)
      rw [Progress.normalForm_junction]
      cases first : progress.normalForm? positive left with
      | none =>
          rw [first] at runLeft
          have failed : Step _ _ := .fails middle count
            (.right (conjunction == positive) positive right) frames
          refine ⟨_, _, (runLeft.tail failed).head begun, ?_⟩
          rintro terms after ⟨⟩
      | some found =>
          obtain ⟨a, after⟩ := found
          rw [first] at runLeft
          cases sameLeft a after first
          have turned : Step _ _ :=
            .right middle count (conjunction == positive) positive a right frames
          obtain ⟨late, total, runRight, sameRight⟩ := ihRight middle count positive
            (.join (conjunction == positive) a :: frames)
          have upToRight := ((runLeft.tail turned).trans runRight).head begun
          cases second : middle.normalForm? positive right with
          | none =>
              rw [second] at upToRight
              have failed : Step _ _ := .fails late total (.join (conjunction == positive) a) frames
              simp only [Option.bind_eq_bind, Option.bind_some, second, Option.bind_none]
              refine ⟨_, _, upToRight.tail failed, ?_⟩
              rintro terms after ⟨⟩
          | some found =>
              obtain ⟨b, after⟩ := found
              rw [second] at upToRight
              cases sameRight b after second
              simp only [Option.bind_eq_bind, Option.bind_some, second]
              exact (run_joined late total (conjunction == positive) a b frames).after upToRight

theorem step_unique : Relator.RightUnique Step := by
  intro before first second one other
  cases one <;> cases other <;> first | rfl | contradiction

/-- The outcome of a search has been handed over, and nothing waits for it. -/
def Ends (result : Option (NormalForm × Progress)) (rewriting : Rewriting) : Prop :=
  rewriting.task = .give (result.map Prod.fst) ∧ rewriting.frames = [] ∧
    ∀ terms after, result = some (terms, after) → rewriting.progress = after

theorem no_step_of_ends (result : Option (NormalForm × Progress)) (rewriting next : Rewriting)
    (ends : rewriting.Ends result) : ¬Step rewriting next := by
  obtain ⟨progress, merged, task, frames⟩ := rewriting
  obtain ⟨given, nothing, _⟩ := ends
  generalize result.map Prod.fst = shown at given
  cases given
  cases nothing
  intro step
  cases step

/-- However far the steps have gone, they go on to the outcome of the search. -/
theorem run_ends (expr : Expr) (positive : Bool) (rewriting : Rewriting)
    (run : Relation.ReflTransGen Step (.start positive expr) rewriting) :
    ∃ final, Relation.ReflTransGen Step rewriting final ∧
      final.Ends (Progress.start.normalForm? positive expr) := by
  obtain ⟨late, merged, whole, same⟩ := run_form expr .start 0 positive []
  have ends : Ends (Progress.start.normalForm? positive expr) ⟨late, merged, _, []⟩ :=
    ⟨rfl, rfl, same⟩
  rcases Relation.ReflTransGen.total_of_right_unique step_unique run whole with onward | back
  · exact ⟨_, onward, ends⟩
  · rcases Relation.ReflTransGen.cases_head back with rfl | ⟨next, step, _⟩
    · exact ⟨_, .refl, ends⟩
    · exact absurd step (no_step_of_ends _ _ next ends)

/-! What every step keeps. -/

/-- The pairs that have been merged and those that still wait are the ones that count as tried, and
a product has room for a term from each of its pairs. -/
structure Bounded (rewriting : Rewriting) : Prop where
  counted : rewriting.merged + rewriting.task.pairs.length = rewriting.progress.steps
  steps : rewriting.progress.steps ≤ maxSteps
  distinct : rewriting.progress.atoms.Nodup
  own : ∀ terms ∈ rewriting.task.forms, terms.Fits rewriting.progress.atoms.length
  waiting : ∀ terms ∈ rewriting.frames.flatMap Frame.forms,
    terms.Fits rewriting.progress.atoms.length
  room : ∀ pairs terms, rewriting.task = .merge pairs terms →
    terms.length + pairs.length ≤ maxTerms ∧
      ∀ pair ∈ pairs, pair.1.Within rewriting.progress.atoms.length ∧
        pair.2.Within rewriting.progress.atoms.length

attribute [local simp] start Task.forms Frame.forms Task.pairs

theorem Bounded.forms {rewriting : Rewriting} (bounded : rewriting.Bounded) :
    ∀ terms ∈ rewriting.forms, terms.Fits rewriting.progress.atoms.length := by
  intro terms member
  rcases List.mem_append.mp member with own | waiting
  · exact bounded.own terms own
  · exact bounded.waiting terms waiting

theorem bounded_start (positive : Bool) (expr : Expr) : (start positive expr).Bounded where
  counted := rfl
  steps := Nat.zero_le _
  distinct := List.nodup_nil
  own := by simp
  waiting := by simp
  room := by simp

theorem bounded_literal (progress : Progress) (merged : Nat) (positive : Bool) (atom : Atom)
    (expr : Expr) (frames : List Frame)
    (bounded : Bounded ⟨progress, merged, .form positive expr, frames⟩) :
    Bounded ⟨(progress.literal atom positive).2, merged,
      .give (some (progress.literal atom positive).1), frames⟩ := by
  have steps : (progress.index atom).2.steps = progress.steps := by
    rw [Progress.index]
    split <;> rfl
  have grows := (Progress.index_grows progress atom).length_le
  have found := List.getElem?_eq_some_iff.mp (Progress.index_found progress atom)
  refine ⟨bounded.counted.trans steps.symm, steps ▸ bounded.steps,
    Progress.index_distinct progress atom bounded.distinct, ?_, ?_, by simp⟩
  · rintro _ (_ | ⟨_, ⟨⟩⟩)
    refine ⟨by simp [Progress.literal, maxTerms], fun term single => ?_⟩
    rw [List.mem_singleton.mp single]
    exact Term.literal_within _ _ positive found.1
  · intro terms member
    exact (bounded.waiting terms member).later grows

theorem bounded_merge (progress : Progress) (merged : Nat) (pair : Term × Term)
    (pairs : List (Term × Term)) (terms : NormalForm) (frames : List Frame)
    (bounded : Bounded ⟨progress, merged, .merge (pair :: pairs) terms, frames⟩) :
    Bounded ⟨progress, merged + 1, .merge pairs (terms.gather pair), frames⟩ := by
  have counted : merged + (pairs.length + 1) = progress.steps := bounded.counted
  obtain ⟨room, within⟩ := bounded.room (pair :: pairs) terms rfl
  rw [List.length_cons] at room
  have longer := terms.gather_length pair
  refine ⟨by simp; omega, bounded.steps, bounded.distinct, ?_, bounded.waiting, ?_⟩
  · rintro _ (_ | ⟨_, ⟨⟩⟩)
    refine ⟨by omega, fun term member => ?_⟩
    rcases terms.mem_gather pair term member with known | merges
    · exact (bounded.own terms List.mem_cons_self).2 term known
    · obtain ⟨left, right⟩ := within pair List.mem_cons_self
      exact Term.merge_within pair.1 pair.2 term _ merges left right
  · rintro _ _ ⟨⟩
    exact ⟨by omega, fun other member => within other (List.mem_cons_of_mem _ member)⟩

section Join

variable (progress : Progress) (merged : Nat) (conjunction : Bool) (a b : NormalForm)
  (frames : List Frame)

/-- Both sides of a connective are within the bounds when they are to be joined, and so is what
waits behind it. -/
theorem bounded_sides
    (bounded : Bounded ⟨progress, merged, .give (some b), .join conjunction a :: frames⟩) :
    a.Fits progress.atoms.length ∧ b.Fits progress.atoms.length ∧
      ∀ terms ∈ frames.flatMap Frame.forms, terms.Fits progress.atoms.length := by
  refine ⟨bounded.waiting a List.mem_cons_self, bounded.own b List.mem_cons_self, ?_⟩
  intro terms member
  exact bounded.waiting terms (List.mem_cons_of_mem _ member)

theorem bounded_product (fits : progress.PairsFit a b)
    (bounded : Bounded ⟨progress, merged, .give (some b), .join true a :: frames⟩) :
    Bounded ⟨{ progress with steps := progress.steps + a.length * b.length }, merged,
      .merge (a ×ˢ b) [], frames⟩ := by
  obtain ⟨left, right, behind⟩ := bounded_sides progress merged true a b frames bounded
  have counted : merged = progress.steps := bounded.counted
  refine ⟨by simp [List.length_product, counted], fits.2, bounded.distinct, ?_, behind, ?_⟩
  · rintro _ (_ | ⟨_, ⟨⟩⟩)
    exact ⟨Nat.zero_le _, by simp⟩
  · rintro _ _ ⟨⟩
    refine ⟨by simpa [List.length_product] using fits.1, fun pair member => ?_⟩
    obtain ⟨inLeft, inRight⟩ := List.mem_product.mp member
    exact ⟨left.2 _ inLeft, right.2 _ inRight⟩

theorem bounded_union (fits : Progress.TermsFit a b)
    (bounded : Bounded ⟨progress, merged, .give (some b), .join false a :: frames⟩) :
    Bounded ⟨progress, merged, .give (some (a.union b)), frames⟩ := by
  obtain ⟨left, right, behind⟩ := bounded_sides progress merged false a b frames bounded
  refine ⟨bounded.counted, bounded.steps, bounded.distinct, ?_, behind, by simp⟩
  rintro _ (_ | ⟨_, ⟨⟩⟩)
  refine ⟨fits, fun term member => ?_⟩
  rcases (NormalForm.mem_union a b term).mp member with inLeft | inRight
  · exact left.2 term inLeft
  · exact right.2 term inRight

end Join

theorem bounded_step (now next : Rewriting) (bounded : now.Bounded) (step : Step now next) :
    next.Bounded := by
  cases step with
  | tag progress merged positive label symbol frames =>
      exact bounded_literal progress merged positive (.tag label symbol) _ frames bounded
  | pseudo progress merged positive name argument frames =>
      exact bounded_literal progress merged positive (.pseudo name argument) _ frames bounded
  | conjoins progress merged a b frames fits =>
      exact bounded_product progress merged a b frames fits bounded
  | merges progress merged pair pairs terms frames =>
      exact bounded_merge progress merged pair pairs terms frames bounded
  | unites progress merged a b frames fits =>
      exact bounded_union progress merged a b frames fits bounded
  | not | and | or =>
      exact ⟨bounded.counted, bounded.steps, bounded.distinct, by simp, bounded.waiting, by simp⟩
  | right progress merged conjunction positive a expr frames =>
      refine ⟨bounded.counted, bounded.steps, bounded.distinct, by simp, ?_, by simp⟩
      rintro _ (_ | ⟨_, behind⟩)
      · exact bounded.own a List.mem_cons_self
      · exact bounded.waiting _ behind
  | merged =>
      exact ⟨bounded.counted, bounded.steps, bounded.distinct, bounded.own, bounded.waiting,
        by simp⟩
  | exceeds progress merged a b frames unfit | overflows progress merged a b frames unfit =>
      exact ⟨bounded.counted, bounded.steps, bounded.distinct, by simp,
        (bounded_sides progress merged _ a b frames bounded).2.2, by simp⟩
  | fails progress merged frame frames =>
      refine ⟨bounded.counted, bounded.steps, bounded.distinct, by simp, ?_, by simp⟩
      intro terms member
      exact bounded.waiting terms (List.mem_append_right _ member)

theorem bounded_run (expr : Expr) (positive : Bool) (now : Rewriting)
    (run : Relation.ReflTransGen Step (.start positive expr) now) : now.Bounded := by
  induction run with
  | refl => exact bounded_start positive expr
  | tail _ step ih => exact bounded_step _ _ ih step

end Rewriting

namespace Progress

theorem index_known (progress : Progress) (atom : Atom) (known : atom ∈ progress.atoms) :
    progress.atoms[(progress.index atom).1]? = some atom := by
  have found := index_found progress atom
  have same : (progress.index atom).2 = progress := by
    rw [index]
    cases absent : progress.atoms.idxOf? atom with
    | none => exact absurd known (List.idxOf?_eq_none_iff.mp absent)
    | some i => rfl
  rwa [same] at found

/-- The atoms of a table without repetition have the indices from zero on, each one of its own. -/
theorem indices_bijective (progress : Progress) (distinct : progress.atoms.Nodup) :
    Set.BijOn (fun atom => (progress.index atom).1) {atom | atom ∈ progress.atoms}
      (Set.Iio progress.atoms.length) := by
  refine ⟨fun atom known => ?_, fun a knownA b knownB same => ?_, fun i inside => ?_⟩
  · exact (List.getElem?_eq_some_iff.mp (index_known progress atom known)).1
  · have first := index_known progress a knownA
    have second := index_known progress b knownB
    simp only at same
    rw [same, second] at first
    exact (Option.some.inj first).symm
  · have member : progress.atoms[i] ∈ progress.atoms := List.getElem_mem inside
    obtain ⟨bound, found⟩ := List.getElem?_eq_some_iff.mp (index_known progress _ member)
    exact ⟨progress.atoms[i], member, distinct.getElem_inj_iff.mp found⟩

end Progress

/-- At every point of the search, also when it gives up in the end, at most `maxSteps` pairs of
terms have been merged, the normal forms at hand have at most `maxTerms` terms, these mention only
atoms of the table, and the atoms of the table have the indices from zero on, each one of its own.
From every point the steps go on to the outcome of the search. -/
theorem rewriting_bounded (expr : Expr) (positive : Bool) (now : Rewriting)
    (run : Relation.ReflTransGen Rewriting.Step (.start positive expr) now) :
    (now.merged ≤ now.progress.steps ∧ now.progress.steps ≤ maxSteps) ∧
    (∀ terms ∈ now.forms, terms.length ≤ maxTerms ∧
      ∀ term ∈ terms, term.Within now.progress.atoms.length) ∧
    Set.BijOn (fun atom => (now.progress.index atom).1) {atom | atom ∈ now.progress.atoms}
      (Set.Iio now.progress.atoms.length) ∧
    ∃ final, Relation.ReflTransGen Rewriting.Step now final ∧
      final.Ends (Progress.start.normalForm? positive expr) := by
  have bounded := Rewriting.bounded_run expr positive now run
  have merged : now.merged ≤ now.progress.steps := by
    rw [← bounded.counted]
    exact Nat.le_add_right _ _
  exact ⟨⟨merged, bounded.steps⟩, bounded.forms,
    Progress.indices_bijective now.progress bounded.distinct,
    Rewriting.run_ends expr positive now run⟩

/-- One of the two pairs of a cat or a dog that is no cat is merged: the dog that is no cat is left,
and the next pair will contradict itself. -/
theorem rewriting_bounded_pets :
    let cat : Expr := .tag "cat" none
    let dog : Expr := .tag "dog" none
    let now : Rewriting :=
      ⟨⟨[.tag "cat" none, .tag "dog" none], 2⟩, 1, .merge [(⟨1, 0⟩, ⟨0, 1⟩)] [⟨2, 1⟩], []⟩
    Relation.ReflTransGen Rewriting.Step (.start true (.and (.or cat dog) (.not cat))) now ∧
    now.merged ≤ now.progress.steps ∧ (⟨2, 1⟩ : Term).Within 2 ∧
    ∃ final, Relation.ReflTransGen Rewriting.Step now final ∧
      final.Ends (some ([⟨2, 1⟩], ⟨[.tag "cat" none, .tag "dog" none], 2⟩)) := by
  intro cat dog now
  have pair : Progress.PairsFit ⟨[.tag "cat" none, .tag "dog" none], 0⟩ [⟨2, 0⟩, ⟨1, 0⟩]
      [⟨0, 1⟩] := by
    rw [Progress.PairsFit]
    decide
  have either : Progress.TermsFit [⟨1, 0⟩] [⟨2, 0⟩] := by
    rw [Progress.TermsFit]
    decide
  have run : Relation.ReflTransGen Rewriting.Step
      (.start true (.and (.or cat dog) (.not cat))) now :=
    Relation.ReflTransGen.refl
      |>.tail (.and _ _ true _ _ _) |>.tail (.or _ _ true _ _ _) |>.tail (.tag _ _ true _ _ _)
      |>.tail (.right _ _ _ _ _ _ _) |>.tail (.tag _ _ true _ _ _)
      |>.tail (.unites _ _ _ _ _ either) |>.tail (.right _ _ _ _ _ _ _)
      |>.tail (.not _ _ true _ _) |>.tail (.tag _ _ false _ _ _)
      |>.tail (.conjoins _ _ _ _ _ pair) |>.tail (.merges _ _ _ _ _ _)
  obtain ⟨⟨merged, _⟩, forms, _, onward⟩ := rewriting_bounded _ true now run
  refine ⟨run, merged, (forms [⟨2, 1⟩] (by decide)).2 _ (by decide), onward⟩

end Gallery.Query
