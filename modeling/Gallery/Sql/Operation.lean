import Gallery.Sql.Expression
import Gallery.Sql.Function
import Gallery.Sql.Numeral

/-!
The operations on values. Conditions have three truth values: true, false and unknown, which a
missing value has. A comparison converts its sides to what a column on the other side prefers to
hold.
-/

namespace Gallery.Sql

/-! Truth values -/

def bothTrue : Option Bool → Option Bool → Option Bool
  | some false, _ | _, some false => some false
  | some true, some true => some true
  | _, _ => none

def eitherTrue : Option Bool → Option Bool → Option Bool
  | some true, _ | _, some true => some true
  | some false, some false => some false
  | _, _ => none

def ofTruth : Option Bool → Value
  | none => .null
  | some condition => truth condition

def Value.toNumber : Value → Value
  | .null => .null
  | .integer n => .integer n
  | .real x => .real x
  | .text t => numberOfStart t.toList
  | .blob bytes => numberOfStart (bytes.map fun byte => Char.ofNat byte.toNat)
where
  numberOfStart (text : List Char) : Value :=
    ((leadingNumber? text).map Prod.fst).getD (.integer 0)

/-- The truth value of a value: numbers but zero are true, and texts that start with such a
number. -/
def Value.truth? (value : Value) : Option Bool :=
  match value.toNumber with
  | .integer n => some (n != 0)
  | .real x => some (x != 0.0)
  | _ => none

/-! Comparison -/

inductive Affinity where
  | number
  | text
  deriving DecidableEq, Repr

def Affinity.convert : Affinity → Value → Value
  | .number, .text t => (numberOfText? t.toList).getD (.text t)
  | .text, .integer n => .text (toString n)
  | .text, .real x => .text (realText x)
  | _, value => value

/-- The two sides of a comparison after each has been converted to what the other side prefers: a
number column makes the other side a number, a text column makes a side without preference a text.
-/
def alignSides (left right : Option Affinity) (a b : Value) : Value × Value :=
  match left, right with
  | some .number, some .number => (a, b)
  | some .number, _ => (a, Affinity.number.convert b)
  | _, some .number => (Affinity.number.convert a, b)
  | some .text, none => (a, Affinity.text.convert b)
  | none, some .text => (Affinity.text.convert a, b)
  | _, _ => (a, b)

def Value.order : Value → Value → Ordering
  | .integer a, .integer b => compare a b
  | .integer a, .real b => integerOrder a b
  | .real a, .integer b => (integerOrder b a).swap
  | .real a, .real b => floatOrder a b
  | .text a, .text b => compare a b
  | .blob a, .blob b => compare a b
  | .null, .null => .eq
  | a, b => compare (rank a) (rank b)
where
  floatOrder (a b : Float) : Ordering :=
    if a < b then .lt else if b < a then .gt else .eq
  integerOrder (n : Int) (x : Float) : Ordering :=
    if 9223372036854775808.0 ≤ x then .lt
    else if x < -9223372036854775808.0 then .gt
    else (compare n x.toInt64.toInt).then (floatOrder (Float.ofInt n) x)
  rank : Value → Nat
    | .null => 0
    | .integer _ | .real _ => 1
    | .text _ => 2
    | .blob _ => 3

def Comparison.admits : Comparison → Ordering → Bool
  | .equal, order => order == .eq
  | .different, order => order != .eq
  | .less, order => order == .lt
  | .atMost, order => order != .gt
  | .greater, order => order == .gt
  | .atLeast, order => order != .lt

/-- Whether a text has the form in which `%` stands for any text and `_` for any character, the case
of ASCII letters aside. -/
def hasForm : List Char → List Char → Bool
  | [], text => text.isEmpty
  | '%' :: form, [] => hasForm form []
  | '%' :: form, c :: text => hasForm form (c :: text) || hasForm ('%' :: form) text
  | _ :: _, [] => false
  | f :: form, c :: text => (f == '_' || f.toLower == c.toLower) && hasForm form text
termination_by form text => (form.length, text.length)

/-! Numbers -/

def Value.toReal : Value → Float
  | .integer n => Float.ofInt n
  | .real x => x
  | _ => 0.0

def Value.wholePart : Value → Int
  | .integer n => n
  | .real x => x.toInt64.toInt
  | _ => 0

def Arithmetic.onIntegers? : Arithmetic → Int → Int → Option Int
  | .add, a, b => some (a + b)
  | .subtract, a, b => some (a - b)
  | .multiply, a, b => some (a * b)
  | .divide, a, b => if b = 0 then none else some (Int.tdiv a b)
  | .remainder, a, b => if b = 0 then none else some (Int.tmod a b)

/-- The result of an operation on numbers of which one is real; division by zero has none, and
remainders are those of the whole parts. -/
def Arithmetic.onReals? (operation : Arithmetic) (a b : Value) : Option Float :=
  let (x, y) := (a.toReal, b.toReal)
  match operation with
  | .add => some (x + y)
  | .subtract => some (x - y)
  | .multiply => some (x * y)
  | .divide => if y == 0.0 then none else some (x / y)
  | .remainder => (operation.onIntegers? a.wholePart b.wholePart).map Float.ofInt

/-- The result of an operation. It is real when one of the numbers is, and when it does not fit into
64 bits. -/
def Arithmetic.apply (operation : Arithmetic) (a b : Value) : Value :=
  let (a, b) := (a.toNumber, b.toNumber)
  let real := ((operation.onReals? a b).map Value.real).getD .null
  match a, b with
  | .null, _ | _, .null => .null
  | .integer m, .integer n =>
      match operation.onIntegers? m n with
      | some result => (storable? result).getD real
      | none => .null
  | _, _ => real

end Gallery.Sql
