import Gallery.Proofs.Query.Contradiction
import Mathlib.Data.Finset.NAry
import Mathlib.Data.Finset.Prod
import Mathlib.Data.Finset.Card

/-!
Clauses. A term holds indices of a table of atoms. Its clause holds the atoms themselves, whatever
the order in which they were met. The clauses of a disjunction and of a conjunction of normal forms
are found from the clauses of the two (`Spans.union`, `Spans.product`), each as often as its term.
-/

namespace Gallery.Query

/-- A conjunction of atoms with their truth values. -/
abbrev Clause := Finset (Atom × Bool)

/-- No atom stands in the clause with both truth values. -/
def Clause.Consistent (clause : Clause) : Prop :=
  ∀ literal ∈ clause, (literal.1, !literal.2) ∉ clause

instance : DecidablePred Clause.Consistent := fun clause =>
  inferInstanceAs (Decidable (∀ literal ∈ clause, (literal.1, !literal.2) ∉ clause))

namespace Term

/-- The term gives the index the truth value. -/
def states (term : Term) (index : Nat) (value : Bool) : Bool :=
  (if value then term.affirmed else term.denied).testBit index

theorem ext_states (a b : Term)
    (same : ∀ index value, a.states index value = b.states index value) : a = b := by
  have affirmed : a.affirmed = b.affirmed := Nat.eq_of_testBit_eq fun index => same index true
  have denied : a.denied = b.denied := Nat.eq_of_testBit_eq fun index => same index false
  cases a
  cases b
  exact congrArg₂ Term.mk affirmed denied

theorem states_within (term : Term) (count index : Nat) (value : Bool) (within : term.Within count)
    (stated : term.states index value = true) : index < count := by
  cases value with
  | true => exact within index (.inl stated)
  | false => exact within index (.inr stated)

theorem states_literal (index other : Nat) (positive value : Bool) :
    (literal index positive).states other value = true ↔ other = index ∧ value = positive := by
  cases positive <;> cases value <;>
    simp [literal, states, Nat.one_shiftLeft, Nat.testBit_two_pow, eq_comm]

theorem states_merge (a b : Term) (index : Nat) (value : Bool) :
    (⟨a.affirmed ||| b.affirmed, a.denied ||| b.denied⟩ : Term).states index value =
      (a.states index value || b.states index value) := by
  cases value <;> simp [states, Nat.testBit_or]

theorem consistent_iff_states (term : Term) :
    term.Consistent ↔ ∀ index, term.states index true = true → term.states index false = false := by
  constructor
  · intro consistent index affirmed
    exact not_both_of_consistent term consistent index affirmed
  · intro apart
    apply Nat.eq_of_testBit_eq
    intro index
    rw [Nat.testBit_and, Nat.zero_testBit]
    cases affirmed : term.affirmed.testBit index with
    | false => rfl
    | true => exact apart index affirmed

end Term

namespace NormalForm

theorem union_nodup (a b : NormalForm) (once : a.Nodup) : (a.union b).Nodup := by
  unfold union
  induction b generalizing a with
  | nil => exact once
  | cons term rest ih => exact ih (a.insert term) once.insert

theorem row_nodup (s : Term) (b before : NormalForm) (once : before.Nodup) :
    (b.foldl (fun terms t =>
      match s.merge? t with
      | some term => terms.insert term
      | none => terms) before).Nodup := by
  induction b generalizing before with
  | nil => exact once
  | cons t rest ih =>
      rw [List.foldl_cons]
      apply ih
      cases merged : s.merge? t with
      | none => simpa only [merged] using once
      | some term => simpa only [merged] using once.insert

theorem product_nodup (a b : NormalForm) : (a.product b).Nodup := by
  have rows (before : NormalForm) (once : before.Nodup) :
      (a.foldl (fun terms s =>
        b.foldl (fun terms t =>
          match s.merge? t with
          | some term => terms.insert term
          | none => terms) terms) before).Nodup := by
    induction a generalizing before with
    | nil => exact once
    | cons s rest ih => exact ih _ (row_nodup s b before once)
  exact rows [] List.nodup_nil

end NormalForm

namespace Progress

/-- What a term says about the atoms of the table. -/
def clause (progress : Progress) (term : Term) : Clause :=
  (progress.atoms.toFinset ×ˢ Finset.univ).filter fun literal =>
    term.states (progress.atoms.idxOf literal.1) literal.2 = true

theorem mem_clause (progress : Progress) (term : Term) (atom : Atom) (value : Bool) :
    (atom, value) ∈ progress.clause term ↔
      atom ∈ progress.atoms ∧ term.states (progress.atoms.idxOf atom) value = true := by
  simp [clause]

theorem clause_later (progress later : Progress) (term : Term)
    (grows : progress.atoms <+: later.atoms) (within : term.Within progress.atoms.length) :
    later.clause term = progress.clause term := by
  obtain ⟨more, same⟩ := grows
  ext ⟨atom, value⟩
  rw [mem_clause, mem_clause, ← same]
  by_cases known : atom ∈ progress.atoms
  · rw [List.idxOf_append_of_mem known]
    simp [known]
  · -- An atom that came later has an index that the term does not mention.
    rw [List.idxOf_append_of_notMem known]
    constructor
    · rintro ⟨_, stated⟩
      have bound := term.states_within _ _ value within stated
      omega
    · rintro ⟨member, _⟩
      exact absurd member known

theorem clause_injective (progress : Progress) (distinct : progress.atoms.Nodup) (a b : Term)
    (first : a.Within progress.atoms.length) (second : b.Within progress.atoms.length)
    (same : progress.clause a = progress.clause b) : a = b := by
  apply Term.ext_states
  intro index value
  rw [Bool.eq_iff_iff]
  by_cases bound : index < progress.atoms.length
  · have member : progress.atoms[index] ∈ progress.atoms := List.getElem_mem bound
    have inA := progress.mem_clause a progress.atoms[index] value
    have inB := progress.mem_clause b progress.atoms[index] value
    rw [List.Nodup.idxOf_getElem distinct] at inA inB
    rw [same, inB] at inA
    simpa [member] using inA.symm
  · -- Neither term says anything about indices beyond the table.
    constructor
    · intro stated
      exact absurd (a.states_within _ _ value first stated) bound
    · intro stated
      exact absurd (b.states_within _ _ value second stated) bound

theorem clause_literal (progress : Progress) (index : Nat) (atom : Atom) (positive : Bool)
    (distinct : progress.atoms.Nodup) (found : progress.atoms[index]? = some atom) :
    progress.clause (.literal index positive) = {(atom, positive)} := by
  obtain ⟨bound, same⟩ := List.getElem?_eq_some_iff.mp found
  have member : atom ∈ progress.atoms := by
    rw [← same]
    exact List.getElem_mem bound
  have position : progress.atoms.idxOf atom = index := by
    rw [← same, List.Nodup.idxOf_getElem distinct]
  ext ⟨other, value⟩
  rw [mem_clause, Term.states_literal, Finset.mem_singleton, Prod.mk.injEq, ← position]
  constructor
  · rintro ⟨known, here, rfl⟩
    exact ⟨(List.idxOf_inj known).mp here, rfl⟩
  · rintro ⟨rfl, rfl⟩
    exact ⟨member, rfl, rfl⟩

theorem clause_merge (progress : Progress) (a b : Term) :
    progress.clause ⟨a.affirmed ||| b.affirmed, a.denied ||| b.denied⟩ =
      progress.clause a ∪ progress.clause b := by
  ext ⟨atom, value⟩
  rw [Finset.mem_union, mem_clause, mem_clause, mem_clause, Term.states_merge, Bool.or_eq_true,
    and_or_left]

theorem consistent_clause (progress : Progress) (term : Term) (distinct : progress.atoms.Nodup)
    (within : term.Within progress.atoms.length) :
    (progress.clause term).Consistent ↔ term.Consistent := by
  rw [Term.consistent_iff_states]
  constructor
  · intro consistent index affirmed
    have bound := term.states_within _ _ true within affirmed
    have member : progress.atoms[index] ∈ progress.atoms := List.getElem_mem bound
    have position := List.Nodup.idxOf_getElem distinct index bound
    have apart := consistent (progress.atoms[index], true)
      ((progress.mem_clause term _ true).mpr ⟨member, by rw [position, affirmed]⟩)
    rw [mem_clause, position] at apart
    simpa [member] using apart
  · rintro apart ⟨atom, value⟩ member opposite
    rw [mem_clause] at member opposite
    cases value with
    | true =>
        have denied := apart _ member.2
        exact Bool.false_ne_true (denied.symm.trans opposite.2)
    | false =>
        have denied := apart _ opposite.2
        exact Bool.false_ne_true (denied.symm.trans member.2)

/-- The terms say of the atoms of the table what the clauses say, each once. -/
structure Spans (progress : Progress) (terms : NormalForm) (clauses : Finset Clause) : Prop where
  once : terms.Nodup
  within : ∀ term ∈ terms, term.Within progress.atoms.length
  same : ∀ clause, clause ∈ clauses ↔ ∃ term ∈ terms, progress.clause term = clause

namespace Spans

variable {progress : Progress} {a b : NormalForm} {A B : Finset Clause}

theorem length (spans : progress.Spans a A) (distinct : progress.atoms.Nodup) :
    a.length = A.card := by
  have image : A = a.toFinset.image progress.clause := by
    ext clause
    rw [spans.same, Finset.mem_image]
    simp only [List.mem_toFinset]
  have apart : Set.InjOn progress.clause a.toFinset := by
    intro first inFirst second inSecond same
    exact progress.clause_injective distinct first second
      (spans.within first (List.mem_toFinset.mp inFirst))
      (spans.within second (List.mem_toFinset.mp inSecond)) same
  rw [image, Finset.card_image_of_injOn apart, List.toFinset_card_of_nodup spans.once]

theorem later (spans : progress.Spans a A) (later : Progress)
    (grows : progress.atoms <+: later.atoms) : later.Spans a A := by
  refine ⟨spans.once, ?_, ?_⟩
  · intro term member index mentioned
    exact Nat.lt_of_lt_of_le (spans.within term member index mentioned) grows.length_le
  · intro clause
    rw [spans.same]
    refine exists_congr fun term => and_congr_right fun member => ?_
    rw [progress.clause_later later term grows (spans.within term member)]

theorem union (first : progress.Spans a A) (second : progress.Spans b B) :
    progress.Spans (a.union b) (A ∪ B) := by
  refine ⟨a.union_nodup b first.once, ?_, ?_⟩
  · intro term member
    exact ((a.mem_union b term).mp member).elim (first.within term) (second.within term)
  · intro clause
    rw [Finset.mem_union, first.same, second.same, ← exists_or]
    refine exists_congr fun term => ?_
    rw [a.mem_union b, or_and_right]

-- Two terms contradict each other exactly when their clauses do, so that the same pairs are left.
theorem product (first : progress.Spans a A) (second : progress.Spans b B)
    (distinct : progress.atoms.Nodup) :
    progress.Spans (a.product b) ((Finset.image₂ (· ∪ ·) A B).filter Clause.Consistent) := by
  have within (term : Term) (member : term ∈ a.product b) :
      term.Within progress.atoms.length := by
    obtain ⟨s, inA, t, inB, merged⟩ := (a.mem_product b term).mp member
    exact s.merge_within t term _ merged (first.within s inA) (second.within t inB)
  refine ⟨a.product_nodup b, within, ?_⟩
  intro clause
  rw [Finset.mem_filter, Finset.mem_image₂]
  constructor
  · rintro ⟨⟨_, inA, _, inB, rfl⟩, consistent⟩
    obtain ⟨s, memberS, rfl⟩ := (first.same _).mp inA
    obtain ⟨t, memberT, rfl⟩ := (second.same _).mp inB
    have mentioned := s.both_within t _ (first.within s memberS) (second.within t memberT)
    rw [← progress.clause_merge, progress.consistent_clause _ distinct mentioned] at consistent
    exact ⟨_, (a.mem_product b _).mpr ⟨s, memberS, t, memberT, if_pos consistent⟩,
      progress.clause_merge s t⟩
  · rintro ⟨term, member, rfl⟩
    obtain ⟨s, inA, t, inB, merged⟩ := (a.mem_product b term).mp member
    obtain ⟨same, consistent⟩ := s.merge_eq_some t term merged
    refine ⟨⟨_, (first.same _).mpr ⟨s, inA, rfl⟩, _, (second.same _).mpr ⟨t, inB, rfl⟩, ?_⟩,
      (progress.consistent_clause term distinct (within term member)).mpr consistent⟩
    rw [same, progress.clause_merge]

end Spans

theorem spans_literal (progress : Progress) (atom : Atom) (positive : Bool)
    (distinct : progress.atoms.Nodup) :
    (progress.literal atom positive).2.Spans (progress.literal atom positive).1
      {{(atom, positive)}} := by
  have found := index_found progress atom
  refine ⟨List.nodup_singleton _, ?_, ?_⟩
  · intro term member
    rw [List.mem_singleton.mp member]
    exact Term.literal_within _ _ _ (List.getElem?_eq_some_iff.mp found).1
  · intro clause
    have same := clause_literal (progress.index atom).2 _ atom positive
      (index_distinct progress atom distinct) found
    simp [literal, same, eq_comm]

end Progress

end Gallery.Query
