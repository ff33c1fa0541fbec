import Gallery.Proofs.Query.Contradiction

/-!
The atoms of a query. The search for contradictions numbers them in the order in which it meets
them and looks at the numbers only, so that a query with other atoms in the places of its atoms has
the same run and the same outcome (`outcome_renamed`).
-/

namespace Gallery.Query

/-- A conjunction or a disjunction. -/
def Expr.junction (conjunction : Bool) (left right : Expr) : Expr :=
  if conjunction then .and left right else .or left right

/-- Induction that treats all leaves alike, and both connectives. -/
theorem Expr.junction_induction {motive : Expr → Prop} (leaf : ∀ atom : Atom, motive atom.leaf)
    (junction : ∀ conjunction left right, motive left → motive right →
      motive (.junction conjunction left right))
    (not : ∀ operand, motive operand → motive (.not operand)) (expr : Expr) : motive expr := by
  induction expr with
  | tag label symbol => exact leaf (.tag label symbol)
  | pseudo name argument => exact leaf (.pseudo name argument)
  | and left right ihLeft ihRight => exact junction true left right ihLeft ihRight
  | or left right ihLeft ihRight => exact junction false left right ihLeft ihRight
  | not operand ih => exact not operand ih

theorem Expr.leaves_leaf (atom : Atom) : atom.leaf.leaves = [atom] := by
  cases atom <;> rfl

theorem Expr.leaves_junction (conjunction : Bool) (left right : Expr) :
    (junction conjunction left right).leaves = left.leaves ++ right.leaves := by
  cases conjunction <;> rfl

namespace Progress

def joined? (progress : Progress) (conjunction : Bool) (a b : NormalForm) :
    Option (NormalForm × Progress) :=
  if conjunction then progress.conjunction? a b else progress.disjunction? a b

theorem normalForm_leaf (progress : Progress) (positive : Bool) (atom : Atom) :
    progress.normalForm? positive atom.leaf = some (progress.literal atom positive) := by
  cases atom <;> rfl

-- De Morgan: under a negation the two connectives change their parts.
theorem normalForm_junction (progress : Progress) (positive conjunction : Bool)
    (left right : Expr) :
    progress.normalForm? positive (.junction conjunction left right) = (do
      let (a, middle) ← progress.normalForm? positive left
      let (b, late) ← middle.normalForm? positive right
      late.joined? (conjunction == positive) a b) := by
  cases conjunction <;> cases positive <;> rfl

theorem atoms_of_joined (progress after : Progress) (conjunction : Bool) (a b terms : NormalForm)
    (done : progress.joined? conjunction a b = some (terms, after)) :
    after.atoms = progress.atoms := by
  cases conjunction with
  | true =>
      cases ((conjunction_eq_some_iff progress a b _).mp done).2
      rfl
  | false =>
      cases ((disjunction_eq_some_iff progress a b _).mp done).2
      rfl

end Progress

/-! Other atoms in the places of the atoms. The run is the same, index by index. -/

/-- The expression with other atoms. -/
def Expr.renamed (f : Atom → Atom) : Expr → Expr
  | .tag label symbol => (f (.tag label symbol)).leaf
  | .pseudo name argument => (f (.pseudo name argument)).leaf
  | .and left right => .and (left.renamed f) (right.renamed f)
  | .or left right => .or (left.renamed f) (right.renamed f)
  | .not operand => .not (operand.renamed f)

theorem Expr.renamed_leaf (f : Atom → Atom) (atom : Atom) :
    atom.leaf.renamed f = (f atom).leaf := by
  cases atom <;> rfl

theorem Expr.renamed_junction (f : Atom → Atom) (conjunction : Bool) (left right : Expr) :
    (junction conjunction left right).renamed f =
      junction conjunction (left.renamed f) (right.renamed f) := by
  cases conjunction <;> rfl

namespace Progress

/-- The same progress with other atoms. -/
def renamed (f : Atom → Atom) (progress : Progress) : Progress :=
  { progress with atoms := progress.atoms.map f }

section Renaming

variable (f : Atom → Atom) (inside : Atom → Prop)

theorem index_inside (progress : Progress) (atom : Atom)
    (known : ∀ other ∈ progress.atoms, inside other) (given : inside atom) :
    ∀ other ∈ (progress.index atom).2.atoms, inside other := by
  unfold index
  cases progress.atoms.idxOf? atom with
  | none => simpa [or_imp, forall_and] using ⟨known, given⟩
  | some i => exact known

theorem normalForm_inside (expr : Expr) (progress after : Progress) (positive : Bool)
    (terms : NormalForm) (completed : progress.normalForm? positive expr = some (terms, after))
    (known : ∀ atom ∈ progress.atoms, inside atom) (within : ∀ atom ∈ expr.leaves, inside atom) :
    ∀ atom ∈ after.atoms, inside atom := by
  induction expr using Expr.junction_induction generalizing progress after positive terms with
  | leaf atom =>
      rw [Expr.leaves_leaf] at within
      rw [normalForm_leaf] at completed
      cases completed
      exact index_inside inside progress atom known (within atom (List.mem_singleton.mpr rfl))
  | junction conjunction left right ihLeft ihRight =>
      rw [Expr.leaves_junction, List.forall_mem_append] at within
      simp only [normalForm_junction, Option.bind_eq_bind, Option.bind_eq_some_iff] at completed
      rcases completed with ⟨⟨a, middle⟩, first, ⟨b, late⟩, second, done⟩
      rw [atoms_of_joined late after _ a b terms done]
      have between := ihLeft progress middle positive a first known within.1
      exact ihRight middle late positive b second between within.2
  | not operand ih => exact ih progress after (!positive) terms completed known within

theorem joined_renamed (progress : Progress) (conjunction : Bool) (a b : NormalForm) :
    (progress.renamed f).joined? conjunction a b =
      (progress.joined? conjunction a b).map fun result => (result.1, result.2.renamed f) := by
  have steps : (progress.renamed f).steps = progress.steps := rfl
  cases conjunction with
  | true =>
      simp only [joined?, conjunction?, steps, ↓reduceIte]
      split <;> rfl
  | false =>
      simp only [joined?, disjunction?, Bool.false_eq_true, ↓reduceIte]
      split <;> rfl

variable (separates : ∀ a b, inside a → inside b → f a = f b → a = b)

include separates

theorem idxOf_renamed (atoms : List Atom) (atom : Atom) (known : ∀ other ∈ atoms, inside other)
    (given : inside atom) : (atoms.map f).idxOf? (f atom) = atoms.idxOf? atom := by
  induction atoms with
  | nil => rfl
  | cons first rest ih =>
      rw [List.forall_mem_cons] at known
      have same : (f first == f atom) = (first == atom) := by
        rw [Bool.eq_iff_iff, beq_iff_eq, beq_iff_eq]
        exact ⟨separates first atom known.1 given, congrArg f⟩
      rw [List.map_cons, List.idxOf?_cons, List.idxOf?_cons, same, ih known.2]

theorem index_renamed (progress : Progress) (atom : Atom)
    (known : ∀ other ∈ progress.atoms, inside other) (given : inside atom) :
    (progress.renamed f).index (f atom) =
      ((progress.index atom).1, (progress.index atom).2.renamed f) := by
  unfold index
  simp only [renamed, idxOf_renamed f inside separates _ _ known given]
  cases progress.atoms.idxOf? atom with
  | none => simp
  | some i => rfl

-- The atoms of both tables stay where the renaming keeps them apart, so that the next atom is found
-- in one table exactly when it is found in the other.
theorem normalForm_renamed (expr : Expr) (progress : Progress) (positive : Bool)
    (known : ∀ atom ∈ progress.atoms, inside atom) (within : ∀ atom ∈ expr.leaves, inside atom) :
    (progress.renamed f).normalForm? positive (expr.renamed f) =
      (progress.normalForm? positive expr).map fun result => (result.1, result.2.renamed f) := by
  induction expr using Expr.junction_induction generalizing progress positive with
  | leaf atom =>
      rw [Expr.leaves_leaf] at within
      have given := within atom (List.mem_singleton.mpr rfl)
      rw [Expr.renamed_leaf, normalForm_leaf, normalForm_leaf]
      simp only [literal, index_renamed f inside separates progress atom known given,
        Option.map_some]
  | junction conjunction left right ihLeft ihRight =>
      rw [Expr.leaves_junction, List.forall_mem_append] at within
      rw [Expr.renamed_junction, normalForm_junction, normalForm_junction,
        ihLeft progress positive known within.1]
      cases first : progress.normalForm? positive left with
      | none => rfl
      | some result =>
          have between := normalForm_inside inside left progress result.2 positive result.1 first
            known within.1
          simp only [Option.map_some, Option.bind_eq_bind, Option.bind_some,
            ihRight result.2 positive between within.2]
          cases result.2.normalForm? positive right with
          | none => rfl
          | some last => exact joined_renamed f last.2 _ result.1 last.1
  | not operand ih => exact ih progress (!positive) known within

end Renaming

end Progress

/-- What the search for contradictions comes to, unless it is given up: how many terms are left, and
how many pairs of terms it has tried. -/
def outcome? (expr : Expr) : Option (Nat × Nat) :=
  (Progress.start.normalForm? true expr).map fun result => (result.1.length, result.2.steps)

theorem isUnsatisfiable_eq_outcome (expr : Expr) :
    isUnsatisfiable expr = (outcome? expr).any fun outcome => outcome.1 == 0 := by
  unfold isUnsatisfiable outcome?
  cases Progress.start.normalForm? true expr with
  | none => rfl
  | some result =>
      obtain ⟨terms, after⟩ := result
      cases terms with
      | nil => rfl
      | cons term rest => rfl

theorem outcome_renamed (f : Atom → Atom) (expr : Expr)
    (separates : ∀ a ∈ expr.leaves, ∀ b ∈ expr.leaves, f a = f b → a = b) :
    outcome? (expr.renamed f) = outcome? expr := by
  have same := Progress.normalForm_renamed f (· ∈ expr.leaves)
    (fun a b first second => separates a first b second) expr .start true (by simp [Progress.start])
    fun _ member => member
  have start : Progress.start.renamed f = .start := rfl
  rw [start] at same
  rw [outcome?, outcome?, same, Option.map_map]
  rfl

end Gallery.Query
