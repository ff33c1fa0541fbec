import Gallery.Text.Digits

/-!
Picture hashes: 64 bits that stand for what a picture looks like, their written form of sixteen
hexadecimal digits, and their form as signed integers, in which they are stored.
-/

namespace Gallery

structure PictureHash where
  bits : BitVec 64
  deriving DecidableEq, Repr, Inhabited

inductive HashTextError where
  | invalidLength
  | invalidDigits
  deriving DecidableEq, Repr

def HashTextError.message : HashTextError → String
  | invalidLength => "picture hash must be exactly 16 hexadecimal characters."
  | invalidDigits => "picture hash contains invalid hexadecimal characters."

namespace PictureHash

def text (hash : PictureHash) : String :=
  String.ofList (Text.hexDigits 16 hash.bits.toNat)

def ofText (text : String) : Except HashTextError PictureHash :=
  if text.utf8ByteSize ≠ 16 then .error .invalidLength
  else
    match Text.readHex? text.toList with
    | some n => .ok ⟨BitVec.ofNat 64 n⟩
    | none => .error .invalidDigits

def toInt (hash : PictureHash) : Int :=
  hash.bits.toInt

def ofInt (n : Int) : PictureHash :=
  ⟨BitVec.ofInt 64 n⟩

end PictureHash

end Gallery
