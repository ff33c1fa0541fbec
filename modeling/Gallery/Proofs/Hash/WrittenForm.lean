import Gallery.Hash.PictureHash
import Gallery.Proofs.Text.Boundary
import Gallery.Proofs.Text.Hexadecimal

/-!
The written form of a hash: sixteen hexadecimal digits in lower case, which read back as the hash.
Reading accepts digits in either letter case, and a plus sign in place of the first digit, which then
counts as a zero (`hash_text_exact`).
-/

namespace Gallery.PictureHash

open Text (IsHexDigit IsLowerHexDigit)

/-- The text is sixteen hexadecimal digits. -/
def IsHashText (text : String) : Prop :=
  text.length = 16 ∧ ∀ c ∈ text.toList, IsHexDigit c

/-- The text is a plus sign and fifteen hexadecimal digits. -/
def IsSignedText (text : String) : Prop :=
  ∃ digits, text.toList = '+' :: digits ∧ digits.length = 15 ∧ ∀ c ∈ digits, IsHexDigit c

-- The characters of the text are gone through, not all characters there are.
instance (text : String) : Decidable (IsHashText text) :=
  have := List.decidableBAll IsHexDigit text.toList
  inferInstanceAs (Decidable (_ ∧ ∀ c ∈ text.toList, IsHexDigit c))

/-! The written form. -/

theorem text_length (hash : PictureHash) : hash.text.toList.length = 16 := by
  rw [text, String.toList_ofList, Text.length_hexDigits]

theorem text_lower (hash : PictureHash) : ∀ c ∈ hash.text.toList, IsLowerHexDigit c := by
  rw [text, String.toList_ofList]
  exact Text.lower_of_hexDigits 16 hash.bits.toNat

/-! Reading. -/

theorem readHex_digits (digits : List Char) (nonempty : digits ≠ [])
    (all : ∀ c ∈ digits, IsHexDigit c) : Text.readHex? digits = Text.readHexFrom? 0 digits := by
  cases digits with
  | nil => exact absurd rfl nonempty
  | cons c rest =>
      have unsigned : c ≠ '+' := by
        rintro rfl
        exact absurd (all '+' (by simp)) (by decide)
      rw [Text.readHex?] <;> simp [unsigned]

theorem readHex_signed (digits : List Char) (nonempty : digits ≠ []) :
    Text.readHex? ('+' :: digits) = Text.readHexFrom? 0 digits := by
  rw [Text.readHex?]
  simpa using nonempty

theorem readHex_eq_some (text : List Char) (n : Nat) (read : Text.readHex? text = some n) :
    ∃ digits, digits ≠ [] ∧ (text = digits ∨ text = '+' :: digits) ∧
      Text.readHexFrom? 0 digits = some n := by
  unfold Text.readHex? at read
  split at read
  · cases read
  · cases read
  · next digits signed => exact ⟨digits, by simpa using signed, .inr rfl, read⟩
  · next empty _ _ => exact ⟨text, empty, .inl rfl, read⟩

theorem isHexDigit_of_read (digits : List Char) (n : Nat)
    (read : Text.readHexFrom? 0 digits = some n) : ∀ c ∈ digits, IsHexDigit c :=
  (Text.readHexFrom_isSome_iff 0 digits).mp (by rw [read]; rfl)

theorem exists_read (digits : List Char) (all : ∀ c ∈ digits, IsHexDigit c) :
    ∃ n, Text.readHexFrom? 0 digits = some n :=
  Option.isSome_iff_exists.mp ((Text.readHexFrom_isSome_iff 0 digits).mpr all)

/-- A number of at most sixteen digits fits into a hash, which is written with these digits behind
as many zeros as are missing. -/
theorem text_of_read (digits : List Char) (n : Nat) (short : digits.length ≤ 16)
    (read : Text.readHexFrom? 0 digits = some n) :
    (⟨BitVec.ofNat 64 n⟩ : PictureHash).text.toList =
      List.replicate (16 - digits.length) '0' ++ digits.map Char.toLower := by
  obtain ⟨nothing, lowest⟩ := Text.hexDigits_of_read 0 digits n read
  have small : n < 16 ^ digits.length := by
    rcases Nat.div_eq_zero_iff.mp nothing with zero | small
    · exact absurd zero (Nat.pow_pos (by decide)).ne'
    · exact small
  have fits : n < 2 ^ 64 := Nat.lt_of_lt_of_le small (Nat.pow_le_pow_right (by decide) short)
  rw [text, String.toList_ofList, BitVec.toNat_ofNat, Nat.mod_eq_of_lt fits, ← lowest]
  -- Every further digit is a zero, as nothing is left of the number there.
  have zeros (count : Nat) : Text.hexDigits (count + digits.length) n =
      List.replicate count '0' ++ Text.hexDigits digits.length n := by
    induction count with
    | zero => simp
    | succ count ih =>
        have high : n / 16 ^ (count + digits.length) = 0 :=
          Nat.div_eq_of_lt (Nat.lt_of_lt_of_le small (Nat.pow_le_pow_right (by decide) (by omega)))
        rw [Nat.add_right_comm, Text.hexDigits_succ, high, ih]
        rfl
  rw [← zeros, Nat.sub_add_cancel short]

section Text

variable (text : String)

theorem ofText_of_read (size : text.utf8ByteSize = 16) (n : Nat)
    (read : Text.readHex? text.toList = some n) : ofText text = .ok ⟨BitVec.ofNat 64 n⟩ := by
  simp [ofText, size, read]

theorem ofText_ok (hash : PictureHash) (done : ofText text = .ok hash) :
    text.utf8ByteSize = 16 ∧
      ∃ n, Text.readHex? text.toList = some n ∧ hash = ⟨BitVec.ofNat 64 n⟩ := by
  unfold ofText at done
  split at done
  · cases done
  · next size =>
      split at done
      · next n read =>
          cases done
          exact ⟨not_not.mp size, n, read, rfl⟩
      · cases done

theorem ofText_digits (digits : IsHashText text) :
    ∃ hash, ofText text = .ok hash ∧ hash.text = text.map Char.toLower := by
  obtain ⟨long, all⟩ := digits
  have size : text.utf8ByteSize = 16 := by
    rw [Text.utf8ByteSize_ascii text fun c member => Text.ascii_of_hexDigit c (all c member), long]
  have listed : text.toList.length = 16 := by rw [String.length_toList, long]
  have nonempty : text.toList ≠ [] := List.ne_nil_of_length_pos (by omega)
  obtain ⟨n, read⟩ := exists_read text.toList all
  refine ⟨_, ofText_of_read text size n (by rw [readHex_digits _ nonempty all, read]), ?_⟩
  rw [← String.toList_inj, text_of_read text.toList n (by omega) read, listed, String.toList_map]
  rfl

theorem ofText_signed (digits : List Char) (signed : text.toList = '+' :: digits)
    (long : digits.length = 15) (all : ∀ c ∈ digits, IsHexDigit c) :
    ∃ hash, ofText text = .ok hash ∧ hash.text.toList = '0' :: digits.map Char.toLower := by
  have ascii : ∀ c ∈ text.toList, c.toNat < 128 := by
    rw [signed, List.forall_mem_cons]
    exact ⟨by decide, fun c member => Text.ascii_of_hexDigit c (all c member)⟩
  have size : text.utf8ByteSize = 16 := by
    rw [Text.utf8ByteSize_ascii text ascii, ← String.length_toList, signed, List.length_cons, long]
  have nonempty : digits ≠ [] := List.ne_nil_of_length_pos (by omega)
  obtain ⟨n, read⟩ := exists_read digits all
  refine ⟨_, ofText_of_read text size n (by rw [signed, readHex_signed digits nonempty, read]), ?_⟩
  rw [text_of_read digits n (by omega) read, long]
  rfl

theorem read_text (hash : PictureHash) (done : ofText text = .ok hash) :
    IsHashText text ∨ IsSignedText text := by
  obtain ⟨size, n, read, _⟩ := ofText_ok text hash done
  obtain ⟨digits, _, form, value⟩ := readHex_eq_some text.toList n read
  have all := isHexDigit_of_read digits n value
  have ascii : ∀ c ∈ text.toList, c.toNat < 128 := by
    rcases form with plain | signed
    · rw [plain]
      exact fun c member => Text.ascii_of_hexDigit c (all c member)
    · rw [signed, List.forall_mem_cons]
      exact ⟨by decide, fun c member => Text.ascii_of_hexDigit c (all c member)⟩
  have long : text.toList.length = 16 := by
    rw [String.length_toList, ← Text.utf8ByteSize_ascii text ascii, size]
  rcases form with plain | signed
  · exact .inl ⟨by rw [← String.length_toList, long], by rwa [plain]⟩
  · refine .inr ⟨digits, signed, ?_, all⟩
    rw [signed, List.length_cons] at long
    omega

theorem readable_iff : (∃ hash, ofText text = .ok hash) ↔ IsHashText text ∨ IsSignedText text := by
  constructor
  · rintro ⟨hash, done⟩
    exact read_text text hash done
  · rintro (digits | ⟨digits, signed, long, all⟩)
    · obtain ⟨hash, done, _⟩ := ofText_digits text digits
      exact ⟨hash, done⟩
    · obtain ⟨hash, done, _⟩ := ofText_signed text digits signed long all
      exact ⟨hash, done⟩

theorem invalidLength_iff : ofText text = .error .invalidLength ↔ text.utf8ByteSize ≠ 16 := by
  unfold ofText
  split
  · next other => simp [other]
  · next size => split <;> simp [not_not.mp size]

/-- A text is read as a hash when it is sixteen hexadecimal digits, and the hash is then written
with the same digits in lower case. Besides, a plus sign in front of fifteen digits is read, as a
zero. All other texts are refused: for their length when they have not sixteen bytes, otherwise for
their digits. -/
theorem hash_text_exact :
    ((∃ hash, ofText text = .ok hash) ↔ IsHashText text ∨ IsSignedText text) ∧
    (∀ hash, ofText text = .ok hash →
      (IsHashText text → hash.text = text.map Char.toLower) ∧
      ∀ digits, text.toList = '+' :: digits →
        hash.text.toList = '0' :: digits.map Char.toLower) ∧
    (ofText text = .error .invalidLength ↔ text.utf8ByteSize ≠ 16) ∧
    (ofText text = .error .invalidDigits ↔
      text.utf8ByteSize = 16 ∧ ¬IsHashText text ∧ ¬IsSignedText text) := by
  have readable := readable_iff text
  have wrongLength := invalidLength_iff text
  refine ⟨readable, fun hash done => ⟨fun digits => ?_, fun digits signed => ?_⟩, wrongLength, ?_⟩
  · obtain ⟨other, read, written⟩ := ofText_digits text digits
    rw [done] at read
    cases read
    exact written
  · rcases read_text text hash done with ⟨_, all⟩ | ⟨others, split, long, all⟩
    · exact absurd (all '+' (by rw [signed]; simp)) (by decide)
    · rw [signed] at split
      cases split
      obtain ⟨other, read, written⟩ := ofText_signed text digits signed long all
      rw [done] at read
      cases read
      exact written
  · have size : text.utf8ByteSize = 16 ↔ ¬ofText text = .error .invalidLength := by
      rw [wrongLength, not_not]
    rw [← not_or, ← readable, size]
    cases ofText text with
    | ok hash => simp
    | error error => cases error <;> simp

end Text

/-- A hash in capitals, and fifteen digits with a sign. -/
theorem hash_text_exact_capitals :
    IsHashText "329435E5E66BE809" ∧ ofText "329435E5E66BE809" = .ok ⟨0x329435e5e66be809⟩ ∧
    (⟨0x329435e5e66be809⟩ : PictureHash).text = "329435E5E66BE809".map Char.toLower ∧
    ofText "+00000000000000F" = .ok ⟨15⟩ ∧
    (⟨15⟩ : PictureHash).text.toList = '0' :: "00000000000000F".toList.map Char.toLower := by
  have digits : IsHashText "329435E5E66BE809" := by decide +kernel
  have done : ofText "329435E5E66BE809" = .ok ⟨0x329435e5e66be809⟩ := by decide +kernel
  have signed : ofText "+00000000000000F" = .ok ⟨15⟩ := by decide +kernel
  exact ⟨digits, done, ((hash_text_exact _).2.1 _ done).1 digits, signed,
    ((hash_text_exact _).2.1 _ signed).2 _ (by decide +kernel)⟩

/-- A plus sign is read although it is no digit, and the hash is written with a zero for it. -/
theorem signed_text_read :
    ¬IsHashText "+123456789abcdef" ∧
    ofText "+123456789abcdef" = .ok ⟨0x0123456789abcdef⟩ ∧
    (⟨0x0123456789abcdef⟩ : PictureHash).text ≠ "+123456789abcdef".map Char.toLower := by
  decide +kernel

end Gallery.PictureHash
