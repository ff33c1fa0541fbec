import Mathlib.Data.Char
import Mathlib.Data.List.Basic

/-!
The order of texts. They compare by their characters, and encoded in UTF-8 by their bytes. The first
byte of an encoding grows with its length, and encodings of one length are the digits of the
character with marks that do not depend on it. So the first character that differs decides either
way (`encode_lt`), and the two orders are the same (`lt_iff_utf8`).
-/

namespace Gallery.Text

/-- The bytes of a text in UTF-8. -/
def utf8 (text : String) : List UInt8 :=
  text.toByteArray.data.toList

theorem utf8_eq (text : String) : utf8 text = text.toList.flatMap String.utf8EncodeChar := by
  rw [utf8, ← String.utf8Encode_toList, List.utf8Encode.eq_1]
  simp

/-- Bytes compare as the numbers that they stand for. -/
theorem cons_byte_lt_iff (a b : Nat) (smallA : a < 256) (smallB : b < 256) (xs ys : List UInt8) :
    UInt8.ofNat a :: xs < UInt8.ofNat b :: ys ↔ a < b ∨ a = b ∧ xs < ys := by
  rw [List.cons_lt_cons_iff, UInt8.lt_iff_toNat_lt, ← UInt8.toNat_inj, UInt8.toNat_ofNat',
    UInt8.toNat_ofNat', Nat.mod_eq_of_lt smallA, Nat.mod_eq_of_lt smallB]

theorem append_lt_iff (xs ys zs : List UInt8) : xs ++ ys < xs ++ zs ↔ ys < zs := by
  induction xs with
  | nil => rfl
  | cons byte xs ih => simp [ih]

/-- Numbers compare by the first of their digits that differ. -/
theorem digits_lt_iff (v w : Nat) :
    v < w ↔ v / 64 < w / 64 ∨ v / 64 = w / 64 ∧ v % 64 < w % 64 := by
  omega

/-- The smaller character has the smaller encoding, whatever follows. -/
theorem encode_lt (c d : Char) (less : c < d) (xs ys : List UInt8) :
    String.utf8EncodeChar c ++ xs < String.utf8EncodeChar d ++ ys := by
  have smaller : c.val.toNat < d.val.toNat := less
  have bound : d.val.toNat < 0x110000 := by
    have valid := d.valid
    simp only [UInt32.isValidChar, Nat.isValidChar] at valid
    omega
  rw [String.utf8EncodeChar.eq_1, String.utf8EncodeChar.eq_1]
  generalize c.val.toNat = v at smaller ⊢
  generalize d.val.toNat = w at smaller bound ⊢
  have digits := smaller
  rw [digits_lt_iff v w, digits_lt_iff (v / 64) (w / 64),
    digits_lt_iff (v / 64 / 64) (w / 64 / 64)] at digits
  simp only [Nat.div_div_eq_div_mul, Nat.reduceMul] at digits
  have topV : v / 262144 % 8 = v / 262144 := by omega
  have topW : w / 262144 % 8 = w / 262144 := by omega
  -- One case for each two lengths.
  split_ifs <;> simp only [List.cons_append, List.nil_append] <;>
    (repeat rw [cons_byte_lt_iff _ _ (by omega) (by omega)]) <;> omega

theorem encodings_lt_iff (as bs : List Char) :
    as.flatMap String.utf8EncodeChar < bs.flatMap String.utf8EncodeChar ↔ as < bs := by
  induction as generalizing bs with
  | nil =>
      cases bs with
      | nil => simp
      | cons d bs =>
          obtain ⟨byte, more, encoding⟩ :=
            List.exists_cons_of_ne_nil (String.utf8EncodeChar_ne_nil (c := d))
          simp [encoding]
  | cons c as ih =>
      cases bs with
      | nil => simp
      | cons d bs =>
          rw [List.flatMap_cons, List.flatMap_cons, List.cons_lt_cons_iff]
          rcases lt_trichotomy c d with less | rfl | greater
          · simp [less, encode_lt c d less]
          · simp [append_lt_iff, ih]
          · have other := encode_lt d c greater (bs.flatMap String.utf8EncodeChar)
              (as.flatMap String.utf8EncodeChar)
            simp [lt_asymm greater, ne_of_gt greater, List.lt_asymm other]

/-- Texts compare as their bytes do. -/
theorem lt_iff_utf8 (a b : String) : a < b ↔ utf8 a < utf8 b := by
  rw [utf8_eq, utf8_eq, encodings_lt_iff]
  rfl

end Gallery.Text
