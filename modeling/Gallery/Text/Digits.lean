/-!
Whole numbers in decimal and hexadecimal digits.
-/

namespace Gallery.Text

def decimalValue (digits : List Char) : Nat :=
  digits.foldl (fun n c => 10 * n + (c.toNat - 48)) 0

def hexDigit? (c : Char) : Option Nat :=
  if '0' ≤ c ∧ c ≤ '9' then some (c.toNat - 48)
  else if 'a' ≤ c ∧ c ≤ 'f' then some (c.toNat - 87)
  else if 'A' ≤ c ∧ c ≤ 'F' then some (c.toNat - 55)
  else none

def readHexFrom? (high : Nat) : List Char → Option Nat
  | [] => some high
  | c :: rest => (hexDigit? c).bind fun digit => readHexFrom? (16 * high + digit) rest

def readHex? : List Char → Option Nat
  | [] | ['+'] => none
  | '+' :: digits => readHexFrom? 0 digits
  | digits => readHexFrom? 0 digits

def hexChar (digit : Nat) : Char :=
  if digit < 10 then Char.ofNat (48 + digit) else Char.ofNat (87 + digit)

def hexDigits : (count : Nat) → Nat → List Char
  | 0, _ => []
  | count + 1, n => hexDigits count (n / 16) ++ [hexChar (n % 16)]

def hexText (n : Nat) : List Char :=
  Nat.toDigits 16 n

end Gallery.Text
