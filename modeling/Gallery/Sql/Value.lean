import Gallery.Text.Decimal

/-!
The values of a statement, and how they read as text. Real numbers are in double precision; those
in single precision are widened and rounded.
-/

namespace Gallery.Sql

inductive Value where
  | null
  | integer (n : Int)
  | real (x : Float)
  | text (text : String)
  | blob (bytes : List UInt8)
  deriving Inhabited

def rounded (format : Float.Model.Format) : Float.Model.UnpackedFloat → Float.Model.UnpackedFloat
  | .finite sign mantissa exponent _ => .round format sign mantissa exponent
  | number => number

def toDouble (x : Float32) : Float :=
  .ofModel (.pack (rounded .binary64 x.toModel.unpack))

def toSingle (x : Float) : Float32 :=
  .ofModel (.pack (rounded .binary32 x.toModel.unpack))

def magnitude (x : Float) : Nat × Nat :=
  let bits := x.toBits.toNat
  let exponent := bits / Nat.pow 2 52 % 2048
  let mantissa := bits % Nat.pow 2 52 + (if exponent = 0 then 0 else Nat.pow 2 52)
  let shift : Int := (max exponent 1 : Nat) - 1075
  (mantissa * Nat.pow 2 shift.toNat, Nat.pow 2 (-shift).toNat)

def leadingExponent (n d : Nat) : (steps : Nat) → (high : Int) → Int
  | 0, high => high
  | steps + 1, high =>
      if d * Nat.pow 10 high.toNat ≤ n * Nat.pow 10 (-high).toNat then high
      else leadingExponent n d steps (high - 1)

def dropTrailingZeros (digits : List Char) : List Char :=
  let kept := (digits.reverse.dropWhile (· == '0')).reverse
  if kept.getLast? == some '.' then kept ++ ['0'] else kept

/-- The text of a number with up to fifteen significant digits, always with a point. From `1.0e+15`
on and below `1.0e-04` an exponent is written. -/
def realText (x : Float) : String :=
  let (n, d) := magnitude x
  if x.isInf then (if x < 0.0 then "-Inf" else "Inf")
  else if n = 0 then "0.0"
  else
    let sign := if x < 0.0 then "-" else ""
    let first := leadingExponent n d 700 310
    let scaled := fun (e : Int) =>
      Text.roundedQuotient (n * Nat.pow 10 (14 - e).toNat) (d * Nat.pow 10 (e - 14).toNat)
    let exponent := if scaled first < Nat.pow 10 15 then first else first + 1
    let digits := (toString (scaled exponent)).toList
    if exponent < -4 ∨ 14 < exponent then
      let mantissa := dropTrailingZeros (digits.take 1 ++ '.' :: digits.drop 1)
      let power := toString exponent.natAbs
      sign ++ String.ofList mantissa ++ (if exponent < 0 then "e-" else "e+") ++
        (if power.length < 2 then "0" ++ power else power)
    else if exponent < 0 then
      let zeros := List.replicate ((-exponent).toNat - 1) '0'
      sign ++ String.ofList (dropTrailingZeros ('0' :: '.' :: (zeros ++ digits)))
    else
      let whole := exponent.toNat + 1
      sign ++ String.ofList (dropTrailingZeros (digits.take whole ++ '.' :: digits.drop whole))

/-- The value as text, unless its bytes are not valid UTF-8. A missing value reads as no text. -/
def Value.text? : Value → Option String
  | .null => some ""
  | .integer n => some (toString n)
  | .real x => some (realText x)
  | .text t => some t
  | .blob bytes => String.fromUTF8? ⟨bytes.toArray⟩

def Value.isNull : Value → Bool
  | .null => true
  | _ => false

end Gallery.Sql
