import Gallery.Proofs.Query.Atoms
import Gallery.Proofs.Query.Clauses

/-!
Queries that are written down in other ways. The operands of a conjunction or a disjunction can be
swapped, negations can be moved inwards, and the atoms can be others. What the search for
contradictions comes to stays the same, and it is given up for one query exactly when it is given up
for the other (`verdict_of_restates`).
-/

namespace Gallery.Query

/-! Extents. They do not tell the operands of a connective apart. -/

/-- What the search for contradictions comes to, however it goes about it: the clauses that it ends
with, the most terms or pairs of terms that one step has to do with, and all pairs together. -/
structure Extent where
  clauses : Finset Clause
  widest : Nat
  pairs : Nat

namespace Extent

def literal (atom : Atom) (positive : Bool) : Extent :=
  ⟨{{(atom, positive)}}, 0, 0⟩

def product (a b : Extent) : Extent where
  clauses := (Finset.image₂ (· ∪ ·) a.clauses b.clauses).filter Clause.Consistent
  widest := max (max a.widest b.widest) (a.clauses.card * b.clauses.card)
  pairs := a.pairs + b.pairs + a.clauses.card * b.clauses.card

def union (a b : Extent) : Extent where
  clauses := a.clauses ∪ b.clauses
  widest := max (max a.widest b.widest) (a.clauses ∪ b.clauses).card
  pairs := a.pairs + b.pairs

def joined (conjunction : Bool) (a b : Extent) : Extent :=
  if conjunction then a.product b else a.union b

/-- After the given number of pairs, the bounds of the search allow the extent. -/
def Fits (steps : Nat) (extent : Extent) : Prop :=
  extent.widest ≤ maxTerms ∧ steps + extent.pairs ≤ maxSteps

theorem product_comm (a b : Extent) : a.product b = b.product a := by
  rw [product, product, Finset.image₂_comm Finset.union_comm, max_comm a.widest,
    Nat.mul_comm a.clauses.card, Nat.add_comm a.pairs]

theorem union_comm (a b : Extent) : a.union b = b.union a := by
  rw [union, union, Finset.union_comm, max_comm a.widest, Nat.add_comm a.pairs]

theorem joined_comm (conjunction : Bool) (a b : Extent) :
    joined conjunction a b = joined conjunction b a := by
  cases conjunction with
  | true => exact product_comm a b
  | false => exact union_comm a b

theorem fits_product (steps : Nat) (a b : Extent) :
    (a.product b).Fits steps ↔ a.Fits steps ∧ b.Fits (steps + a.pairs) ∧
      a.clauses.card * b.clauses.card ≤ maxTerms ∧
      steps + a.pairs + b.pairs + a.clauses.card * b.clauses.card ≤ maxSteps := by
  simp only [Fits, product, max_le_iff]
  omega

theorem fits_union (steps : Nat) (a b : Extent) :
    (a.union b).Fits steps ↔ a.Fits steps ∧ b.Fits (steps + a.pairs) ∧
      (a.clauses ∪ b.clauses).card ≤ maxTerms := by
  simp only [Fits, union, max_le_iff]
  omega

theorem fits_parts (steps : Nat) (conjunction : Bool) (a b : Extent)
    (fits : (joined conjunction a b).Fits steps) : a.Fits steps ∧ b.Fits (steps + a.pairs) := by
  cases conjunction with
  | true =>
      have parts := (fits_product steps a b).mp fits
      exact ⟨parts.1, parts.2.1⟩
  | false =>
      have parts := (fits_union steps a b).mp fits
      exact ⟨parts.1, parts.2.1⟩

end Extent

/-- The extent of the normal form of an expression, or of its negation when `positive` is false. -/
def Expr.extent (positive : Bool) : Expr → Extent
  | .tag label symbol => .literal (.tag label symbol) positive
  | .pseudo name argument => .literal (.pseudo name argument) positive
  | .and left right => .joined positive (left.extent positive) (right.extent positive)
  | .or left right => .joined (!positive) (left.extent positive) (right.extent positive)
  | .not operand => operand.extent (!positive)

theorem Expr.extent_leaf (atom : Atom) (positive : Bool) :
    atom.leaf.extent positive = .literal atom positive := by
  cases atom <;> rfl

theorem Expr.extent_junction (conjunction positive : Bool) (left right : Expr) :
    (junction conjunction left right).extent positive =
      .joined (conjunction == positive) (left.extent positive) (right.extent positive) := by
  cases conjunction <;> cases positive <;> rfl

namespace Progress

/-- A completed run has gone from one table to the other and has come to the extent. -/
structure Covers (before after : Progress) (terms : NormalForm) (extent : Extent) : Prop where
  grows : before.atoms <+: after.atoms
  distinct : after.atoms.Nodup
  spans : after.Spans terms extent.clauses
  steps : after.steps = before.steps + extent.pairs

/-- Both sides of a conjunction or a disjunction, the first one carried over to the table that the
second one leaves. -/
structure Sides (before late : Progress) (a b : NormalForm) (left right : Extent) : Prop where
  grows : before.atoms <+: late.atoms
  distinct : late.atoms.Nodup
  first : late.Spans a left.clauses
  second : late.Spans b right.clauses
  steps : late.steps = before.steps + left.pairs + right.pairs

theorem covers_literal (before : Progress) (atom : Atom) (positive : Bool)
    (distinct : before.atoms.Nodup) :
    Covers before (before.literal atom positive).2 (before.literal atom positive).1
      (.literal atom positive) := by
  refine ⟨index_grows before atom, index_distinct before atom distinct,
    spans_literal before atom positive distinct, ?_⟩
  simp only [literal, index]
  split <;> rfl

theorem sides_of_covers (before middle late : Progress) (a b : NormalForm) (left right : Extent)
    (first : Covers before middle a left) (second : Covers middle late b right) :
    Sides before late a b left right := by
  refine ⟨first.grows.trans second.grows, second.distinct, first.spans.later late second.grows,
    second.spans, ?_⟩
  rw [second.steps, first.steps]

theorem covers_joined (before late after : Progress) (conjunction : Bool) (a b terms : NormalForm)
    (left right : Extent) (sides : Sides before late a b left right)
    (done : late.joined? conjunction a b = some (terms, after)) :
    Covers before after terms (.joined conjunction left right) := by
  cases conjunction with
  | true =>
      cases ((conjunction_eq_some_iff late a b _).mp done).2
      have spans := sides.first.product sides.second sides.distinct
      refine ⟨sides.grows, sides.distinct, spans.later _ List.prefix_rfl, ?_⟩
      simp only [Extent.joined, Extent.product, ↓reduceIte, sides.steps,
        sides.first.length sides.distinct, sides.second.length sides.distinct]
      omega
  | false =>
      cases ((disjunction_eq_some_iff late a b _).mp done).2
      refine ⟨sides.grows, sides.distinct, sides.first.union sides.second, ?_⟩
      rw [sides.steps, Nat.add_assoc]
      rfl

theorem joined_isSome_iff (before late : Progress) (conjunction : Bool) (a b : NormalForm)
    (left right : Extent) (sides : Sides before late a b left right)
    (fitsLeft : left.Fits before.steps) (fitsRight : right.Fits (before.steps + left.pairs)) :
    (late.joined? conjunction a b).isSome = true ↔
      (Extent.joined conjunction left right).Fits before.steps := by
  cases conjunction with
  | true =>
      simp only [joined?, Extent.joined, ↓reduceIte, Option.isSome_iff_exists,
        conjunction_eq_some_iff, exists_and_left, exists_eq, and_true, PairsFit,
        Extent.fits_product, fitsLeft, fitsRight, true_and, sides.steps,
        sides.first.length sides.distinct, sides.second.length sides.distinct]
  | false =>
      have count := (sides.first.union sides.second).length sides.distinct
      simp only [joined?, Extent.joined, Bool.false_eq_true, ↓reduceIte, Option.isSome_iff_exists,
        disjunction_eq_some_iff, exists_and_left, exists_eq, and_true, TermsFit,
        Extent.fits_union, fitsLeft, fitsRight, true_and, count]

theorem normalForm_covers (expr : Expr) (before after : Progress) (positive : Bool)
    (terms : NormalForm) (distinct : before.atoms.Nodup)
    (completed : before.normalForm? positive expr = some (terms, after)) :
    Covers before after terms (expr.extent positive) := by
  induction expr using Expr.junction_induction generalizing before after positive terms with
  | leaf atom =>
      rw [normalForm_leaf] at completed
      cases completed
      rw [Expr.extent_leaf]
      exact covers_literal before atom positive distinct
  | junction conjunction left right ihLeft ihRight =>
      simp only [normalForm_junction, Option.bind_eq_bind, Option.bind_eq_some_iff] at completed
      rcases completed with ⟨⟨a, middle⟩, first, ⟨b, late⟩, second, done⟩
      have run := ihLeft before middle positive a distinct first
      have next := ihRight middle late positive b run.distinct second
      rw [Expr.extent_junction]
      exact covers_joined before late after _ a b terms _ _
        (sides_of_covers before middle late a b _ _ run next) done
  | not operand ih => exact ih before after (!positive) terms distinct completed

-- The pairs are counted along the way, but their sum is that of the extent, so that the bounds are
-- exceeded somewhere exactly when the extent does not fit.
theorem normalForm_isSome_iff (expr : Expr) (before : Progress) (positive : Bool)
    (distinct : before.atoms.Nodup) (started : before.steps ≤ maxSteps) :
    (before.normalForm? positive expr).isSome = true ↔
      (expr.extent positive).Fits before.steps := by
  induction expr using Expr.junction_induction generalizing before positive with
  | leaf atom =>
      rw [normalForm_leaf, Expr.extent_leaf]
      simpa [Extent.Fits, Extent.literal] using started
  | junction conjunction left right ihLeft ihRight =>
      rw [normalForm_junction, Expr.extent_junction]
      constructor
      · intro finished
        rcases Option.isSome_iff_exists.mp finished with ⟨result, completed⟩
        simp only [Option.bind_eq_bind, Option.bind_eq_some_iff] at completed
        rcases completed with ⟨⟨a, middle⟩, first, ⟨b, late⟩, second, done⟩
        have run := normalForm_covers left before middle positive a distinct first
        have next := normalForm_covers right middle late positive b run.distinct second
        have fitsLeft := (ihLeft before positive distinct started).mp (first ▸ rfl)
        have fitsRight := (ihRight middle positive run.distinct (run.steps ▸ fitsLeft.2)).mp
          (second ▸ rfl)
        rw [run.steps] at fitsRight
        exact (joined_isSome_iff before late _ a b _ _
          (sides_of_covers before middle late a b _ _ run next) fitsLeft fitsRight).mp (done ▸ rfl)
      · intro fits
        -- The sides fit when the whole does, so both runs end before their operator is tried.
        have ⟨fitsLeft, fitsRight⟩ := Extent.fits_parts _ _ _ _ fits
        rcases Option.isSome_iff_exists.mp ((ihLeft before positive distinct started).mpr fitsLeft)
          with ⟨⟨a, middle⟩, first⟩
        have run := normalForm_covers left before middle positive a distinct first
        have goesOn := ihRight middle positive run.distinct (run.steps ▸ fitsLeft.2)
        rw [run.steps] at goesOn
        rcases Option.isSome_iff_exists.mp (goesOn.mpr fitsRight) with ⟨⟨b, late⟩, second⟩
        have next := normalForm_covers right middle late positive b run.distinct second
        simp only [first, second, Option.bind_eq_bind, Option.bind_some]
        exact (joined_isSome_iff before late _ a b _ _
          (sides_of_covers before middle late a b _ _ run next) fitsLeft fitsRight).mpr fits
  | not operand ih => exact ih before (!positive) distinct started

end Progress

theorem outcome_eq_some_iff (expr : Expr) (count pairs : Nat) :
    outcome? expr = some (count, pairs) ↔ (expr.extent true).Fits 0 ∧
      (expr.extent true).clauses.card = count ∧ (expr.extent true).pairs = pairs := by
  have finished := Progress.normalForm_isSome_iff expr .start true List.nodup_nil (Nat.zero_le _)
  rw [show Progress.start.steps = 0 from rfl] at finished
  rw [← finished, outcome?]
  cases completed : Progress.start.normalForm? true expr with
  | none => simp
  | some result =>
      have covers := Progress.normalForm_covers expr .start result.2 true result.1
        List.nodup_nil completed
      have steps : result.2.steps = (expr.extent true).pairs := by
        rw [covers.steps]
        exact Nat.zero_add _
      simp [covers.spans.length covers.distinct, steps]

/-! Other ways to write a query down. -/

/-- The same expression up to the order of the operands of conjunctions and disjunctions and to
negations moved inwards, at any places. -/
inductive Rewritten : Expr → Expr → Prop where
  | same (expr : Expr) : Rewritten expr expr
  | swapAnd (left right : Expr) : Rewritten (.and left right) (.and right left)
  | swapOr (left right : Expr) : Rewritten (.or left right) (.or right left)
  | notAnd (left right : Expr) :
      Rewritten (.not (.and left right)) (.or (.not left) (.not right))
  | notOr (left right : Expr) :
      Rewritten (.not (.or left right)) (.and (.not left) (.not right))
  | notNot (operand : Expr) : Rewritten (.not (.not operand)) operand
  | and (left right first second : Expr) (inLeft : Rewritten left first)
      (inRight : Rewritten right second) : Rewritten (.and left right) (.and first second)
  | or (left right first second : Expr) (inLeft : Rewritten left first)
      (inRight : Rewritten right second) : Rewritten (.or left right) (.or first second)
  | not (operand other : Expr) (inside : Rewritten operand other) :
      Rewritten (.not operand) (.not other)

/-- A query written down in another way: rewritten, or with other atoms in the places of its atoms,
any number of times. -/
inductive Restates : Expr → Expr → Prop where
  | rewritten (expr other : Expr) (rewritten : Rewritten expr other) : Restates expr other
  | renamed (expr : Expr) (f : Atom → Atom)
      (separates : ∀ a ∈ expr.leaves, ∀ b ∈ expr.leaves, f a = f b → a = b) :
      Restates expr (expr.renamed f)
  | trans (expr middle other : Expr) (first : Restates expr middle)
      (second : Restates middle other) : Restates expr other

-- A negation turns the polarity round and costs nothing, so both sides of De Morgan's laws are the
-- same by computation. Only the swaps need a law of the extents.
theorem extent_of_rewritten (expr other : Expr) (rewritten : Rewritten expr other)
    (positive : Bool) : other.extent positive = expr.extent positive := by
  induction rewritten generalizing positive with
  | same expr => rfl
  | swapAnd left right => exact Extent.joined_comm positive _ _
  | swapOr left right => exact Extent.joined_comm (!positive) _ _
  | notAnd left right => rfl
  | notOr left right => simp only [Expr.extent, Bool.not_not]
  | notNot operand => simp only [Expr.extent, Bool.not_not]
  | and left right first second _ _ ihLeft ihRight =>
      rw [Expr.extent, Expr.extent, ihLeft, ihRight]
  | or left right first second _ _ ihLeft ihRight =>
      rw [Expr.extent, Expr.extent, ihLeft, ihRight]
  | not operand other _ ih => exact ih (!positive)

theorem outcome_of_rewritten (expr other : Expr) (rewritten : Rewritten expr other) :
    outcome? other = outcome? expr := by
  apply Option.ext
  rintro ⟨count, pairs⟩
  rw [outcome_eq_some_iff, outcome_eq_some_iff, extent_of_rewritten expr other rewritten]

theorem outcome_of_restates (expr other : Expr) (restates : Restates expr other) :
    outcome? other = outcome? expr := by
  induction restates with
  | rewritten expr other rewritten => exact outcome_of_rewritten expr other rewritten
  | renamed expr f separates => exact outcome_renamed f expr separates
  | trans expr middle other _ _ ihFirst ihSecond => exact ihSecond.trans ihFirst

/-- However a query is written down, the search for contradictions comes to the same verdict. It
tries as many pairs and is left with as many terms, and it is given up for one way exactly when it
is given up for the other. -/
theorem verdict_of_restates (expr other : Expr) (restates : Restates expr other) :
    isUnsatisfiable other = isUnsatisfiable expr ∧ outcome? other = outcome? expr := by
  have same := outcome_of_restates expr other restates
  rw [isUnsatisfiable_eq_outcome, isUnsatisfiable_eq_outcome, same]
  exact ⟨rfl, rfl⟩

/-- A cat without dogs and cats is no more than a van without trucks and vans. -/
theorem verdict_of_restates_vans :
    let expr : Expr := .and (.tag "cat" none) (.not (.or (.tag "dog" none) (.tag "cat" none)))
    let other : Expr :=
      .and (.and (.not (.tag "truck" none)) (.not (.tag "van" none))) (.tag "van" none)
    Restates expr other ∧ isUnsatisfiable expr = true ∧ isUnsatisfiable other = true := by
  intro expr other
  have inwards : Restates expr
      (.and (.tag "cat" none) (.and (.not (.tag "dog" none)) (.not (.tag "cat" none)))) :=
    .rewritten _ _ (.and _ _ _ _ (.same _) (.notOr _ _))
  have swapped : Restates
      (.and (.tag "cat" none) (.and (.not (.tag "dog" none)) (.not (.tag "cat" none))))
      (.and (.and (.not (.tag "dog" none)) (.not (.tag "cat" none))) (.tag "cat" none)) :=
    .rewritten _ _ (.swapAnd _ _)
  have renamed : Restates
      (.and (.and (.not (.tag "dog" none)) (.not (.tag "cat" none))) (.tag "cat" none)) other :=
    .renamed _ (fun atom => if atom = .tag "cat" none then .tag "van" none else .tag "truck" none)
      (by decide)
  have restates := Restates.trans _ _ _ inwards (.trans _ _ _ swapped renamed)
  have found : isUnsatisfiable expr = true := by decide
  exact ⟨restates, found, (verdict_of_restates expr other restates).1.trans found⟩

end Gallery.Query
