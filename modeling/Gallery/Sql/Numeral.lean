import Gallery.Sql.Value
import Gallery.Text.Digits

/-!
Numbers as texts write them: decimal digits, perhaps with a point among them, and perhaps a power of
ten. Digits alone are an integer if it fits into 64 bits, and every other number is real. A text
that only starts with a number stands for that number.
-/

namespace Gallery.Sql

/-- The number `mantissa * 10 ^ power`. It is whole when it is written with digits alone. -/
structure Numeral where
  mantissa : Nat
  power : Int
  isWhole : Bool
  deriving DecidableEq, Repr

namespace Numeral

def readPower? : List Char → Option (Int × List Char)
  | [] => none
  | c :: rest =>
      let (negative, start) := match rest with
        | '-' :: start => (true, start)
        | '+' :: start => (false, start)
        | start => (false, start)
      let digits := start.takeWhile Char.isDigit
      if c.toLower != 'e' || digits.isEmpty then none
      else
        let size := Text.decimalValue digits
        some (if negative then -size else size, start.dropWhile Char.isDigit)

def read? (text : List Char) : Option (Numeral × List Char) :=
  let whole := text.takeWhile Char.isDigit
  let (hasPoint, rest) := match text.dropWhile Char.isDigit with
    | '.' :: rest => (true, rest)
    | rest => (false, rest)
  let places := if hasPoint then rest.takeWhile Char.isDigit else []
  let rest := if hasPoint then rest.dropWhile Char.isDigit else rest
  if whole.isEmpty && places.isEmpty then none
  else
    let mantissa := Text.decimalValue (whole ++ places)
    match readPower? rest with
    | some (power, rest) => some (⟨mantissa, power - places.length, false⟩, rest)
    | none => some (⟨mantissa, -places.length, !hasPoint⟩, rest)

/-- The real number next to a numeral. Beyond the range of real numbers the power makes no
difference. -/
def toReal (numeral : Numeral) : Float :=
  let range : Int := (Nat.toDigits 10 numeral.mantissa).length + 400
  if numeral.power < 0 then
    Float.ofScientific numeral.mantissa true (min range (-numeral.power)).toNat
  else Float.ofScientific numeral.mantissa false (min range numeral.power).toNat

end Numeral

def storable? (n : Int) : Option Value :=
  if -0x8000000000000000 ≤ n ∧ n ≤ 0x7FFFFFFFFFFFFFFF then some (.integer n) else none

def Numeral.value (negative : Bool) (numeral : Numeral) : Value :=
  let real : Value := .real (if negative then -numeral.toReal else numeral.toReal)
  if numeral.isWhole then
    (storable? (if negative then -numeral.mantissa else numeral.mantissa)).getD real
  else real

def isPadding (c : Char) : Bool :=
  c == ' ' || (9 ≤ c.toNat && c.toNat ≤ 13)

def leadingNumber? (text : List Char) : Option (Value × List Char) :=
  let (negative, start) := match text.dropWhile isPadding with
    | '-' :: start => (true, start)
    | '+' :: start => (false, start)
    | start => (false, start)
  (Numeral.read? start).map fun (numeral, rest) => (numeral.value negative, rest)

def numberOfText? (text : List Char) : Option Value :=
  match leadingNumber? text with
  | some (number, rest) => if rest.all isPadding then some number else none
  | none => none

end Gallery.Sql
