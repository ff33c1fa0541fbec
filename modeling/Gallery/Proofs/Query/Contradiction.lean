import Gallery.Query.NormalForm

/-!
What the search for contradictions decides. A valuation gives each atom a truth value, and with it
every expression has one. A completed normal form holds under exactly the valuations that give the
expression the wanted polarity (`normal_form_exact`), and the rewriting completes exactly when no
step of it exceeds its bound (`normal_form_finishes`).
-/

namespace Gallery.Query

/-- The truth value of an expression when every distinct reference and every distinct invocation of
a pseudo-tag has a truth value of its own. -/
def Expr.eval (truth : Atom → Bool) : Expr → Bool
  | .tag label symbol => truth (.tag label symbol)
  | .pseudo name argument => truth (.pseudo name argument)
  | .and left right => left.eval truth && right.eval truth
  | .or left right => left.eval truth || right.eval truth
  | .not operand => !operand.eval truth

/-- An atom as an expression of its own. -/
def Atom.leaf : Atom → Expr
  | .tag label symbol => .tag label symbol
  | .pseudo name argument => .pseudo name argument

/-- The leaves of an expression, from left to right. -/
def Expr.leaves : Expr → List Atom
  | .tag label symbol => [.tag label symbol]
  | .pseudo name argument => [.pseudo name argument]
  | .and left right | .or left right => left.leaves ++ right.leaves
  | .not operand => operand.leaves

/-! Terms as conjunctions over the indices of a table. -/
namespace Term

def Holds (bits : Nat → Bool) (term : Term) : Prop :=
  ∀ i, (term.affirmed.testBit i = true → bits i = true) ∧
    (term.denied.testBit i = true → bits i = false)

def Within (count : Nat) (term : Term) : Prop :=
  ∀ i, term.affirmed.testBit i = true ∨ term.denied.testBit i = true → i < count

def Consistent (term : Term) : Prop :=
  term.affirmed &&& term.denied = 0

theorem literal_holds (bits : Nat → Bool) (index : Nat) (positive : Bool) :
    (literal index positive).Holds bits ↔ bits index = positive := by
  cases positive <;>
    simp [literal, Holds, Nat.one_shiftLeft, Nat.testBit_two_pow]

theorem literal_within (index count : Nat) (positive : Bool) (bound : index < count) :
    (literal index positive).Within count := by
  intro i member
  cases positive <;>
    simp [literal, Nat.one_shiftLeft, Nat.testBit_two_pow] at member <;> omega

theorem literal_consistent (index : Nat) (positive : Bool) :
    (literal index positive).Consistent := by
  cases positive <;> simp [literal, Consistent]

theorem not_both_of_consistent (term : Term) (consistent : term.Consistent) (i : Nat)
    (affirmed : term.affirmed.testBit i = true) : term.denied.testBit i = false := by
  have shared : (term.affirmed &&& term.denied).testBit i = false := by
    rw [consistent, Nat.zero_testBit]
  simpa [Nat.testBit_and, affirmed] using shared

/-- A consistent term holds when exactly its affirmed indices are true. -/
theorem holds_of_consistent (term : Term) (consistent : term.Consistent) :
    term.Holds fun i => term.affirmed.testBit i := by
  intro i
  refine ⟨id, fun denied => ?_⟩
  cases affirmed : term.affirmed.testBit i with
  | false => exact affirmed
  | true =>
      have absent := not_both_of_consistent term consistent i affirmed
      rw [denied] at absent
      cases absent

theorem both_hold_iff (bits : Nat → Bool) (a b : Term) :
    a.Holds bits ∧ b.Holds bits ↔
      (⟨a.affirmed ||| b.affirmed, a.denied ||| b.denied⟩ : Term).Holds bits := by
  simp only [Holds, Nat.testBit_or, Bool.or_eq_true]
  constructor
  · rintro ⟨left, right⟩ i
    exact ⟨fun member => member.elim (left i).1 (right i).1,
      fun member => member.elim (left i).2 (right i).2⟩
  · intro both
    exact
      ⟨fun i => ⟨fun member => (both i).1 (.inl member), fun member => (both i).2 (.inl member)⟩,
        fun i => ⟨fun member => (both i).1 (.inr member), fun member => (both i).2 (.inr member)⟩⟩

theorem consistent_of_holds (bits : Nat → Bool) (term : Term) (holds : term.Holds bits) :
    term.Consistent := by
  apply Nat.eq_of_testBit_eq
  intro i
  rw [Nat.testBit_and, Nat.zero_testBit]
  cases affirmed : term.affirmed.testBit i with
  | false => rfl
  | true =>
      cases denied : term.denied.testBit i with
      | false => rfl
      | true =>
          have up := (holds i).1 affirmed
          have down := (holds i).2 denied
          rw [up] at down
          cases down

theorem merge_eq_some (a b term : Term) (merged : a.merge? b = some term) :
    term = ⟨a.affirmed ||| b.affirmed, a.denied ||| b.denied⟩ ∧ term.Consistent := by
  simp only [merge?] at merged
  split at merged
  · next agree =>
      cases merged
      exact ⟨rfl, agree⟩
  · cases merged

-- A pair of terms that contradict each other holds under no bits, so dropping it loses nothing.
theorem both_hold_iff_merge (bits : Nat → Bool) (a b : Term) :
    a.Holds bits ∧ b.Holds bits ↔ ∃ term, a.merge? b = some term ∧ term.Holds bits := by
  rw [both_hold_iff]
  constructor
  · intro holds
    have agree := consistent_of_holds bits _ holds
    exact ⟨_, if_pos agree, holds⟩
  · rintro ⟨term, merged, holds⟩
    rw [← (merge_eq_some a b term merged).1]
    exact holds

theorem both_within (a b : Term) (count : Nat) (left : a.Within count) (right : b.Within count) :
    (⟨a.affirmed ||| b.affirmed, a.denied ||| b.denied⟩ : Term).Within count := by
  intro i member
  simp only [Nat.testBit_or, Bool.or_eq_true] at member
  rcases member with (inA | inB) | (inA | inB)
  · exact left i (.inl inA)
  · exact right i (.inl inB)
  · exact left i (.inr inA)
  · exact right i (.inr inB)

theorem merge_within (a b term : Term) (count : Nat) (merged : a.merge? b = some term)
    (left : a.Within count) (right : b.Within count) : term.Within count := by
  rw [(merge_eq_some a b term merged).1]
  exact both_within a b count left right

end Term

namespace NormalForm

def Holds (bits : Nat → Bool) (terms : NormalForm) : Prop :=
  ∃ term ∈ terms, term.Holds bits

theorem mem_union (a b : NormalForm) (term : Term) :
    term ∈ a.union b ↔ term ∈ a ∨ term ∈ b := by
  unfold union
  induction b generalizing a with
  | nil => simp
  | cons first rest ih =>
      rw [List.foldl_cons, ih]
      simp [List.mem_insert_iff, or_assoc, or_left_comm]

theorem mem_row (s term : Term) (b before : NormalForm) :
    term ∈ b.foldl (fun terms t =>
        match s.merge? t with
        | some merged => terms.insert merged
        | none => terms) before ↔
      term ∈ before ∨ ∃ t ∈ b, s.merge? t = some term := by
  induction b generalizing before with
  | nil => simp
  | cons first rest ih =>
      rw [List.foldl_cons, ih]
      cases merged : s.merge? first with
      | none => simp [merged]
      | some found =>
          simp only [List.mem_insert_iff, List.mem_cons, exists_eq_or_imp, merged,
            Option.some.injEq]
          rw [eq_comm, or_comm (b := term ∈ before), or_assoc]

theorem mem_product (a b : NormalForm) (term : Term) :
    term ∈ a.product b ↔ ∃ s ∈ a, ∃ t ∈ b, s.merge? t = some term := by
  have rows (before : NormalForm) :
      term ∈ a.foldl (fun terms s =>
        b.foldl (fun terms t =>
          match s.merge? t with
          | some merged => terms.insert merged
          | none => terms) terms) before ↔
        term ∈ before ∨ ∃ s ∈ a, ∃ t ∈ b, s.merge? t = some term := by
    induction a generalizing before with
    | nil => simp
    | cons first rest ih =>
        rw [List.foldl_cons, ih, mem_row]
        simp [or_assoc]
  exact (rows []).trans (by simp)

theorem union_holds (bits : Nat → Bool) (a b : NormalForm) :
    (a.union b).Holds bits ↔ a.Holds bits ∨ b.Holds bits := by
  simp only [Holds, mem_union]
  constructor
  · rintro ⟨term, inA | inB, holds⟩
    · exact .inl ⟨term, inA, holds⟩
    · exact .inr ⟨term, inB, holds⟩
  · rintro (⟨term, member, holds⟩ | ⟨term, member, holds⟩)
    · exact ⟨term, .inl member, holds⟩
    · exact ⟨term, .inr member, holds⟩

theorem product_holds (bits : Nat → Bool) (a b : NormalForm) :
    (a.product b).Holds bits ↔ a.Holds bits ∧ b.Holds bits := by
  simp only [Holds, mem_product]
  constructor
  · rintro ⟨term, ⟨s, inA, t, inB, merged⟩, holds⟩
    have both := (Term.both_hold_iff_merge bits s t).mpr ⟨term, merged, holds⟩
    exact ⟨⟨s, inA, both.1⟩, ⟨t, inB, both.2⟩⟩
  · rintro ⟨⟨s, inA, left⟩, ⟨t, inB, right⟩⟩
    obtain ⟨term, merged, holds⟩ := (Term.both_hold_iff_merge bits s t).mp ⟨left, right⟩
    exact ⟨term, ⟨s, inA, t, inB, merged⟩, holds⟩

end NormalForm

namespace Progress

/-- The bits that a valuation gives to the indices of the table. -/
def bits (progress : Progress) (truth : Atom → Bool) (i : Nat) : Bool :=
  (progress.atoms[i]?).any truth

/-! The table only grows. An index keeps its atom, and an atom that is met again keeps its index. -/

theorem index_grows (progress : Progress) (atom : Atom) :
    progress.atoms <+: (progress.index atom).2.atoms := by
  unfold index
  cases found : progress.atoms.idxOf? atom with
  | none => exact ⟨[atom], rfl⟩
  | some i => exact List.prefix_rfl

theorem index_found (progress : Progress) (atom : Atom) :
    (progress.index atom).2.atoms[(progress.index atom).1]? = some atom := by
  unfold index
  cases found : progress.atoms.idxOf? atom with
  | none => simp
  | some i =>
      obtain ⟨bound, same⟩ := List.idxOf?_eq_some_iff.mp found
      simp [bound, same]

theorem index_distinct (progress : Progress) (atom : Atom)
    (distinct : progress.atoms.Nodup) : (progress.index atom).2.atoms.Nodup := by
  unfold index
  cases found : progress.atoms.idxOf? atom with
  | none =>
      have fresh : atom ∉ progress.atoms := List.idxOf?_eq_none_iff.mp found
      exact List.nodup_append.mpr ⟨distinct, by simp, by
        intro old member new single same
        rw [List.mem_singleton.mp single] at same
        exact fresh (same ▸ member)⟩
  | some i => exact distinct

/-- What a completed normal form says about an expression. The law is stated for every later table,
since the form is still used when the table has grown. -/
structure Expresses (before after : Progress) (terms : NormalForm) (expr : Expr)
    (positive : Bool) : Prop where
  grows : before.atoms <+: after.atoms
  distinct : before.atoms.Nodup → after.atoms.Nodup
  within : ∀ term ∈ terms, term.Within after.atoms.length
  consistent : ∀ term ∈ terms, term.Consistent
  law : ∀ (later : Progress) (truth : Atom → Bool), after.atoms <+: later.atoms →
    (terms.Holds (later.bits truth) ↔ expr.eval truth = positive)

theorem literal_expresses (progress : Progress) (atom : Atom) (expr : Expr) (positive : Bool)
    (leaf : ∀ truth, expr.eval truth = truth atom) :
    Expresses progress (progress.literal atom positive).2 (progress.literal atom positive).1
      expr positive := by
  have found := index_found progress atom
  refine ⟨index_grows progress atom, index_distinct progress atom, ?_, ?_, ?_⟩
  · intro term member
    rw [List.mem_singleton.mp member]
    exact Term.literal_within _ _ _ (List.getElem?_eq_some_iff.mp found).1
  · intro term member
    rw [List.mem_singleton.mp member]
    exact Term.literal_consistent _ _
  · intro later truth grown
    have kept : later.atoms[(progress.index atom).1]? = some atom := by
      obtain ⟨more, same⟩ := grown
      have bound := (List.getElem?_eq_some_iff.mp found).1
      rw [← same]
      exact (List.getElem?_append_left bound).trans found
    simp [NormalForm.Holds, literal, Term.literal_holds, bits, kept, leaf]

/-- Both normal forms of a conjunction or a disjunction, the first one carried over to the table
that the second one leaves. -/
structure Pair (before after : Progress) (a b : NormalForm) (left right : Expr)
    (positive : Bool) : Prop where
  grows : before.atoms <+: after.atoms
  distinct : before.atoms.Nodup → after.atoms.Nodup
  within : ∀ term, term ∈ a ∨ term ∈ b → term.Within after.atoms.length
  consistent : ∀ term, term ∈ a ∨ term ∈ b → term.Consistent
  leftLaw : ∀ (later : Progress) (truth : Atom → Bool), after.atoms <+: later.atoms →
    (a.Holds (later.bits truth) ↔ left.eval truth = positive)
  rightLaw : ∀ (later : Progress) (truth : Atom → Bool), after.atoms <+: later.atoms →
    (b.Holds (later.bits truth) ↔ right.eval truth = positive)

theorem expresses_pair (before middle after : Progress) (a b : NormalForm) (left right : Expr)
    (positive : Bool) (first : Expresses before middle a left positive)
    (second : Expresses middle after b right positive) :
    Pair before after a b left right positive := by
  refine ⟨first.grows.trans second.grows, fun distinct => second.distinct (first.distinct distinct),
    ?_, ?_, fun later truth grown => first.law later truth (second.grows.trans grown), second.law⟩
  · rintro term (inA | inB)
    · intro i member
      exact Nat.lt_of_lt_of_le (first.within term inA i member) second.grows.length_le
    · exact second.within term inB
  · rintro term (inA | inB)
    · exact first.consistent term inA
    · exact second.consistent term inB

theorem conjunction_expresses (before after final : Progress) (a b terms : NormalForm)
    (left right expr : Expr) (positive : Bool) (pair : Pair before after a b left right positive)
    (done : after.conjunction? a b = some (terms, final))
    (both : ∀ truth, expr.eval truth = positive ↔
      left.eval truth = positive ∧ right.eval truth = positive) :
    Expresses before final terms expr positive := by
  simp only [conjunction?] at done
  split at done
  · cases done
  · cases done
    refine ⟨pair.grows, pair.distinct, ?_, ?_, ?_⟩
    · intro term member
      obtain ⟨s, inA, t, inB, merged⟩ := (NormalForm.mem_product a b term).mp member
      exact Term.merge_within s t term _ merged (pair.within s (.inl inA))
        (pair.within t (.inr inB))
    · intro term member
      obtain ⟨s, inA, t, inB, merged⟩ := (NormalForm.mem_product a b term).mp member
      exact (Term.merge_eq_some s t term merged).2
    · intro later truth grown
      rw [NormalForm.product_holds, pair.leftLaw later truth grown,
        pair.rightLaw later truth grown, both]

theorem disjunction_expresses (before after final : Progress) (a b terms : NormalForm)
    (left right expr : Expr) (positive : Bool) (pair : Pair before after a b left right positive)
    (done : after.disjunction? a b = some (terms, final))
    (either : ∀ truth, expr.eval truth = positive ↔
      left.eval truth = positive ∨ right.eval truth = positive) :
    Expresses before final terms expr positive := by
  simp only [disjunction?] at done
  split at done
  · cases done
  · cases done
    refine ⟨pair.grows, pair.distinct, ?_, ?_, ?_⟩
    · intro term member
      exact pair.within term ((NormalForm.mem_union a b term).mp member)
    · intro term member
      exact pair.consistent term ((NormalForm.mem_union a b term).mp member)
    · intro later truth grown
      rw [NormalForm.union_holds, pair.leftLaw later truth grown,
        pair.rightLaw later truth grown, either]

-- De Morgan: a denied disjunction is a conjunction of denials, so each operator goes through the
-- same two lemmas with the polarity deciding which.
theorem normal_form_exact (expr : Expr) (before after : Progress) (positive : Bool)
    (terms : NormalForm)
    (completed : before.normalForm? positive expr = some (terms, after)) :
    Expresses before after terms expr positive := by
  induction expr generalizing before after positive terms with
  | tag label symbol =>
      cases completed
      exact literal_expresses before (.tag label symbol) _ positive fun _ => rfl
  | pseudo name argument =>
      cases completed
      exact literal_expresses before (.pseudo name argument) _ positive fun _ => rfl
  | not operand ih =>
      have inner := ih before after (!positive) terms completed
      exact ⟨inner.grows, inner.distinct, inner.within, inner.consistent,
        fun later truth grown => by
          rw [inner.law later truth grown]
          simp [Expr.eval, Bool.not_eq_eq_eq_not]⟩
  | and left right leftIh rightIh =>
      simp only [normalForm?, Option.bind_eq_bind, Option.bind_eq_some_iff] at completed
      obtain ⟨⟨a, middle⟩, first, ⟨b, late⟩, second, done⟩ := completed
      have pair := expresses_pair before middle late a b left right positive
        (leftIh before middle positive a first) (rightIh middle late positive b second)
      cases positive with
      | true =>
          exact conjunction_expresses before late after a b terms left right _ true pair done
            fun truth => by simp [Expr.eval]
      | false =>
          exact disjunction_expresses before late after a b terms left right _ false pair done
            fun truth => by rw [Expr.eval, Bool.and_eq_false_iff]
  | or left right leftIh rightIh =>
      simp only [normalForm?, Option.bind_eq_bind, Option.bind_eq_some_iff] at completed
      obtain ⟨⟨a, middle⟩, first, ⟨b, late⟩, second, done⟩ := completed
      have pair := expresses_pair before middle late a b left right positive
        (leftIh before middle positive a first) (rightIh middle late positive b second)
      cases positive with
      | true =>
          exact disjunction_expresses before late after a b terms left right _ true pair done
            fun truth => by simp [Expr.eval]
      | false =>
          exact conjunction_expresses before late after a b terms left right _ false pair done
            fun truth => by simp [Expr.eval]

/-- Since no atom stands twice in the table, its indices can be given any bits. -/
theorem bits_surjective (progress : Progress) (wanted : Nat → Bool)
    (distinct : progress.atoms.Nodup) :
    ∃ truth, ∀ i, i < progress.atoms.length → progress.bits truth i = wanted i := by
  refine ⟨fun atom => wanted (progress.atoms.idxOf atom), fun i bound => ?_⟩
  simp [bits, bound, List.Nodup.idxOf_getElem distinct]

/-- A term of a completed normal form is satisfiable: it is consistent and its indices are free. -/
theorem exists_valuation (progress : Progress) (term : Term) (distinct : progress.atoms.Nodup)
    (within : term.Within progress.atoms.length) (consistent : term.Consistent) :
    ∃ truth, term.Holds (progress.bits truth) := by
  obtain ⟨truth, given⟩ := bits_surjective progress (fun i => term.affirmed.testBit i) distinct
  refine ⟨truth, fun i => ⟨fun member => ?_, fun member => ?_⟩⟩
  · rw [given i (within i (.inl member))]
    exact (Term.holds_of_consistent term consistent i).1 member
  · rw [given i (within i (.inr member))]
    exact (Term.holds_of_consistent term consistent i).2 member

/-! The rewriting without bounds, and the bounds as a condition on its run. -/

/-- The normal form of `expr`, or of its negation when `positive` is false, however large. -/
def fullForm (progress : Progress) (positive : Bool) : Expr → NormalForm × Progress
  | .tag label symbol => progress.literal (.tag label symbol) positive
  | .pseudo name argument => progress.literal (.pseudo name argument) positive
  | .not operand => progress.fullForm (!positive) operand
  | .and left right =>
      let (a, middle) := progress.fullForm positive left
      let (b, late) := middle.fullForm positive right
      if positive then (a.product b, { late with steps := late.steps + a.length * b.length })
      else (a.union b, late)
  | .or left right =>
      let (a, middle) := progress.fullForm positive left
      let (b, late) := middle.fullForm positive right
      if positive then (a.union b, late)
      else (a.product b, { late with steps := late.steps + a.length * b.length })

/-- No conjunction tries more than `maxTerms` pairs, and all pairs together are at most
`maxSteps`. -/
def PairsFit (progress : Progress) (a b : NormalForm) : Prop :=
  a.length * b.length ≤ maxTerms ∧ progress.steps + a.length * b.length ≤ maxSteps

/-- The disjunction has at most `maxTerms` terms. -/
def TermsFit (a b : NormalForm) : Prop :=
  (a.union b).length ≤ maxTerms

/-- No step of the rewriting exceeds its bound. -/
def StaysWithin (progress : Progress) (positive : Bool) : Expr → Prop
  | .tag _ _ | .pseudo _ _ => True
  | .not operand => progress.StaysWithin (!positive) operand
  | .and left right =>
      let (a, middle) := progress.fullForm positive left
      let (b, late) := middle.fullForm positive right
      progress.StaysWithin positive left ∧ middle.StaysWithin positive right ∧
        if positive then late.PairsFit a b else TermsFit a b
  | .or left right =>
      let (a, middle) := progress.fullForm positive left
      let (b, late) := middle.fullForm positive right
      progress.StaysWithin positive left ∧ middle.StaysWithin positive right ∧
        if positive then TermsFit a b else late.PairsFit a b

theorem conjunction_eq_some_iff (progress : Progress) (a b : NormalForm)
    (result : NormalForm × Progress) :
    progress.conjunction? a b = some result ↔ progress.PairsFit a b ∧
      result = (a.product b, { progress with steps := progress.steps + a.length * b.length }) := by
  simp only [conjunction?, PairsFit]
  split
  · next exceeded => simp; omega
  · next fits =>
      rw [Option.some.injEq, eq_comm]
      exact ⟨fun same => ⟨by omega, same⟩, fun both => both.2⟩

theorem disjunction_eq_some_iff (progress : Progress) (a b : NormalForm)
    (result : NormalForm × Progress) :
    progress.disjunction? a b = some result ↔ TermsFit a b ∧ result = (a.union b, progress) := by
  simp only [disjunction?, TermsFit]
  split
  · next exceeded => simp; omega
  · next fits =>
      rw [Option.some.injEq, eq_comm]
      exact ⟨fun same => ⟨by omega, same⟩, fun both => both.2⟩

theorem normal_form_finishes (expr : Expr) (progress : Progress) (positive : Bool)
    (result : NormalForm × Progress) :
    progress.normalForm? positive expr = some result ↔
      progress.StaysWithin positive expr ∧ result = progress.fullForm positive expr := by
  induction expr generalizing progress positive result with
  | tag label symbol => simp [normalForm?, StaysWithin, fullForm, eq_comm]
  | pseudo name argument => simp [normalForm?, StaysWithin, fullForm, eq_comm]
  | not operand ih => exact ih progress (!positive) result
  | and left right leftIh rightIh =>
      simp only [normalForm?, Option.bind_eq_bind, Option.bind_eq_some_iff, leftIh, rightIh,
        StaysWithin, fullForm]
      cases positive <;>
        simp [conjunction_eq_some_iff, disjunction_eq_some_iff, and_assoc]
  | or left right leftIh rightIh =>
      simp only [normalForm?, Option.bind_eq_bind, Option.bind_eq_some_iff, leftIh, rightIh,
        StaysWithin, fullForm]
      cases positive <;>
        simp [conjunction_eq_some_iff, disjunction_eq_some_iff, and_assoc]

end Progress

theorem isUnsatisfiable_iff (expr : Expr) :
    isUnsatisfiable expr = true ↔
      ∃ after, Progress.start.normalForm? true expr = some ([], after) := by
  unfold isUnsatisfiable
  cases completed : Progress.start.normalForm? true expr with
  | none => simp
  | some result =>
      obtain ⟨terms, after⟩ := result
      cases terms <;> simp

theorem false_of_isUnsatisfiable (expr : Expr) (found : isUnsatisfiable expr = true)
    (truth : Atom → Bool) : expr.eval truth = false := by
  obtain ⟨after, completed⟩ := (isUnsatisfiable_iff expr).mp found
  have exact := Progress.normal_form_exact expr Progress.start after true [] completed
  rw [← Bool.not_eq_true, ← exact.law after truth List.prefix_rfl]
  rintro ⟨term, member, _⟩
  cases member

/-- What holds under some valuation is not pruned. -/
theorem isUnsatisfiable_of_true (expr : Expr) (truth : Atom → Bool)
    (holds : expr.eval truth = true) : isUnsatisfiable expr = false := by
  rw [← Bool.not_eq_true]
  intro found
  rw [false_of_isUnsatisfiable expr found truth] at holds
  cases holds

theorem isUnsatisfiable_of_false (expr : Expr)
    (finished : (Progress.start.normalForm? true expr).isSome = true)
    (never : ∀ truth, expr.eval truth = false) : isUnsatisfiable expr = true := by
  obtain ⟨⟨terms, after⟩, completed⟩ := Option.isSome_iff_exists.mp finished
  have exact := Progress.normal_form_exact expr Progress.start after true terms completed
  cases terms with
  | nil => exact (isUnsatisfiable_iff expr).mpr ⟨after, completed⟩
  | cons term rest =>
      have first : term ∈ term :: rest := List.mem_cons_self
      obtain ⟨truth, holds⟩ := Progress.exists_valuation after term
        (exact.distinct List.nodup_nil) (exact.within term first) (exact.consistent term first)
      have value := (exact.law after truth List.prefix_rfl).mp ⟨term, first, holds⟩
      rw [never truth] at value
      cases value

/-- The search for contradictions is sound, it is complete when the rewriting finishes, and the
rewriting finishes when none of its steps exceeds its bound. From any table on, a completed normal
form holds under exactly the valuations under which the expression has the wanted polarity. -/
theorem unsatisfiable_verdict_exact (expr : Expr) :
    (isUnsatisfiable expr = true → ∀ truth, expr.eval truth = false) ∧
    ((Progress.start.normalForm? true expr).isSome = true →
      (isUnsatisfiable expr = true ↔ ∀ truth, expr.eval truth = false)) ∧
    (∀ (before : Progress) (positive : Bool),
      (before.normalForm? positive expr).isSome = true ↔ before.StaysWithin positive expr) ∧
    ∀ (before after : Progress) (positive : Bool) (terms : NormalForm),
      before.normalForm? positive expr = some (terms, after) →
      ∀ truth, terms.Holds (after.bits truth) ↔ expr.eval truth = positive := by
  refine ⟨false_of_isUnsatisfiable expr, fun finished => ?_, fun before positive => ?_, ?_⟩
  · exact ⟨false_of_isUnsatisfiable expr, isUnsatisfiable_of_false expr finished⟩
  · rw [Option.isSome_iff_exists]
    simp [Progress.normal_form_finishes]
  · intro before after positive terms completed truth
    exact (Progress.normal_form_exact expr before after positive terms completed).law after truth
      List.prefix_rfl

end Gallery.Query
