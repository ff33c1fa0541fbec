/-!
Decimal texts of single-precision numbers with a fixed number of places. The exact value is rounded
to the nearest text; of two equally near ones the last digit is even.
-/

namespace Gallery.Text

def roundedQuotient (n d : Nat) : Nat :=
  let q := n / d
  let twice := 2 * (n % d)
  if twice < d then q else if d < twice then q + 1 else q + q % 2

def fractionOf (x : Float32) : Bool × Nat × Nat :=
  let bits := x.toBits.toNat
  let exponent := bits / Nat.pow 2 23 % 256
  let mantissa := bits % Nat.pow 2 23 + (if exponent = 0 then 0 else Nat.pow 2 23)
  let shift : Int := (max exponent 1 : Nat) - 150
  (decide (Nat.pow 2 31 ≤ bits), mantissa * Nat.pow 2 shift.toNat, Nat.pow 2 (-shift).toNat)

def fixedPlaces (places : Nat) (x : Float32) : String :=
  let (negative, n, d) := fractionOf x
  let scaled := roundedQuotient (n * Nat.pow 10 places) d
  let whole := toString (scaled / Nat.pow 10 places)
  let part := toString (scaled % Nat.pow 10 places)
  let padded := String.ofList (List.replicate (places - part.length) '0') ++ part
  (if negative then "-" else "") ++ (if places = 0 then whole else whole ++ "." ++ padded)

end Gallery.Text
