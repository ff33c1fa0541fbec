import Gallery.Query.Expr

/-!
Queries that no picture can satisfy. Each distinct reference and each distinct invocation of a
pseudo-tag is an atom; the expression is brought into a disjunction of conjunctions, and
conjunctions that hold an atom together with its negation are dropped. When nothing is left, the
query is unsatisfiable. A normal form that grows beyond its bounds is given up.
-/

namespace Gallery.Query

def maxTerms : Nat := 4096

def maxSteps : Nat := 65536

inductive Atom where
  | tag (label : String) (symbol : Option Char)
  | pseudo (name : String) (argument : Option Argument)
  deriving DecidableEq, Repr

/-- A conjunction of atoms and negated atoms, as the sets of their indices: bit `i` of a number
says whether it holds the index `i`. -/
structure Term where
  affirmed : Nat
  denied : Nat
  deriving DecidableEq, Repr

namespace Term

def literal (index : Nat) (positive : Bool) : Term :=
  if positive then ⟨1 <<< index, 0⟩ else ⟨0, 1 <<< index⟩

def merge? (a b : Term) : Option Term :=
  let affirmed := a.affirmed ||| b.affirmed
  let denied := a.denied ||| b.denied
  if affirmed &&& denied = 0 then some ⟨affirmed, denied⟩ else none

end Term

abbrev NormalForm := List Term

namespace NormalForm

def union (a b : NormalForm) : NormalForm :=
  b.foldl (fun terms term => terms.insert term) a

def product (a b : NormalForm) : NormalForm :=
  a.foldl (fun terms s =>
    b.foldl (fun terms t =>
      match s.merge? t with
      | some term => terms.insert term
      | none => terms) terms) []

end NormalForm

/-- The progress towards a normal form: the atoms met so far, in the order of their indices, and the
number of pairs of terms tried. -/
structure Progress where
  atoms : List Atom
  steps : Nat
  deriving DecidableEq, Repr

namespace Progress

def start : Progress := ⟨[], 0⟩

/-- The index of an atom, which joins the table when it is new. -/
def index (progress : Progress) (atom : Atom) : Nat × Progress :=
  match progress.atoms.idxOf? atom with
  | some i => (i, progress)
  | none => (progress.atoms.length, { progress with atoms := progress.atoms ++ [atom] })

def literal (progress : Progress) (atom : Atom) (positive : Bool) : NormalForm × Progress :=
  ([.literal (progress.index atom).1 positive], (progress.index atom).2)

/-- The conjunction of two normal forms, unless there are too many pairs to try. -/
def conjunction? (progress : Progress) (a b : NormalForm) : Option (NormalForm × Progress) :=
  let pairs := a.length * b.length
  if maxTerms < pairs ∨ maxSteps < progress.steps + pairs then none
  else some (a.product b, { progress with steps := progress.steps + pairs })

def disjunction? (progress : Progress) (a b : NormalForm) : Option (NormalForm × Progress) :=
  let terms := a.union b
  if maxTerms < terms.length then none else some (terms, progress)

/-- The normal form of `expr`, or of its negation when `positive` is false, unless it grows beyond
its bounds. Negations are moved to the atoms. -/
def normalForm? (progress : Progress) (positive : Bool) : Expr → Option (NormalForm × Progress)
  | .tag label symbol => some (progress.literal (.tag label symbol) positive)
  | .pseudo name argument => some (progress.literal (.pseudo name argument) positive)
  | .not operand => progress.normalForm? (!positive) operand
  | .and left right => do
      let (a, progress) ← progress.normalForm? positive left
      let (b, progress) ← progress.normalForm? positive right
      if positive then progress.conjunction? a b else progress.disjunction? a b
  | .or left right => do
      let (a, progress) ← progress.normalForm? positive left
      let (b, progress) ← progress.normalForm? positive right
      if positive then progress.disjunction? a b else progress.conjunction? a b

end Progress

def isUnsatisfiable (expr : Expr) : Bool :=
  match Progress.start.normalForm? true expr with
  | some (terms, _) => terms.isEmpty
  | none => false

end Gallery.Query
