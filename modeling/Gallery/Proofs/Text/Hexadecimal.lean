import Mathlib.Algebra.Group.Nat.Defs
import Mathlib.Data.List.Basic
import Mathlib.Data.Nat.Init
import Gallery.Text.Digits

/-!
Numbers in hexadecimal digits. What is read from some digits is the number whose lowest digits are
these in lower case (`hexDigits_of_read`), and the lowest digits of a number read back as what the
number leaves modulo the power of sixteen (`read_hexDigits`).
-/

namespace Gallery.Text

/-- A lower-case hexadecimal digit. -/
def IsLowerHexDigit (c : Char) : Prop :=
  '0' ≤ c ∧ c ≤ '9' ∨ 'a' ≤ c ∧ c ≤ 'f'

/-- A hexadecimal digit in either letter case. -/
def IsHexDigit (c : Char) : Prop :=
  IsLowerHexDigit c ∨ 'A' ≤ c ∧ c ≤ 'F'

instance (c : Char) : Decidable (IsLowerHexDigit c) :=
  inferInstanceAs (Decidable (_ ∨ _))

instance (c : Char) : Decidable (IsHexDigit c) :=
  inferInstanceAs (Decidable (_ ∨ _))

/-! Single digits. -/

theorem hexDigit_isSome_iff (c : Char) : (hexDigit? c).isSome ↔ IsHexDigit c := by
  rw [hexDigit?, IsHexDigit, IsLowerHexDigit]
  split_ifs <;> simp [*]

theorem ascii_of_hexDigit (c : Char) (digit : IsHexDigit c) : c.toNat < 128 := by
  have below : c ≤ 'f' := by
    rcases digit with (⟨_, last⟩ | ⟨_, last⟩) | ⟨_, last⟩
    · exact Char.le_trans last (by decide)
    · exact last
    · exact Char.le_trans last (by decide)
  exact Nat.lt_of_le_of_lt below (by decide)

theorem hexChar_values : ∀ digit < 16,
    hexDigit? (hexChar digit) = some digit ∧ IsLowerHexDigit (hexChar digit) := by
  decide

theorem ascii_hexDigits : ∀ code < 128, ∀ digit ∈ hexDigit? (Char.ofNat code),
    digit < 16 ∧ hexChar digit = (Char.ofNat code).toLower := by
  decide +kernel

/-- The value of a digit is written as the digit in lower case. -/
theorem hexChar_of_hexDigit (c : Char) (digit : Nat) (read : hexDigit? c = some digit) :
    digit < 16 ∧ hexChar digit = c.toLower := by
  have ascii := ascii_of_hexDigit c ((hexDigit_isSome_iff c).mp (by rw [read]; rfl))
  have known := ascii_hexDigits c.toNat ascii digit
  rw [Char.ofNat_toNat] at known
  exact known read

/-! Some digits. -/

theorem length_hexDigits (count n : Nat) : (hexDigits count n).length = count := by
  induction count generalizing n with
  | zero => rfl
  | succ count ih => simp [hexDigits, ih]

theorem lower_of_hexDigits (count n : Nat) : ∀ c ∈ hexDigits count n, IsLowerHexDigit c := by
  induction count generalizing n with
  | zero => simp [hexDigits]
  | succ count ih =>
      intro c member
      rcases List.mem_append.mp member with front | last
      · exact ih (n / 16) c front
      · rw [List.mem_singleton.mp last]
        exact (hexChar_values (n % 16) (Nat.mod_lt n (by decide))).2

/-- The highest of some digits. -/
theorem hexDigits_succ (count n : Nat) :
    hexDigits (count + 1) n = hexChar (n / 16 ^ count % 16) :: hexDigits count n := by
  induction count generalizing n with
  | zero => simp [hexDigits]
  | succ count ih =>
      rw [hexDigits, ih (n / 16), hexDigits, Nat.div_div_eq_div_mul, Nat.pow_succ', List.cons_append]

theorem readHexFrom_append (high : Nat) (first second : List Char) :
    readHexFrom? high (first ++ second) =
      (readHexFrom? high first).bind fun n => readHexFrom? n second := by
  induction first generalizing high with
  | nil => rfl
  | cons c rest ih =>
      rw [List.cons_append, readHexFrom?, readHexFrom?]
      cases hexDigit? c with
      | none => rfl
      | some digit => exact ih (16 * high + digit)

theorem readHexFrom_isSome_iff (high : Nat) (digits : List Char) :
    (readHexFrom? high digits).isSome ↔ ∀ c ∈ digits, IsHexDigit c := by
  induction digits generalizing high with
  | nil => simp [readHexFrom?]
  | cons c rest ih =>
      rw [readHexFrom?, List.forall_mem_cons, ← hexDigit_isSome_iff]
      cases hexDigit? c with
      | none => simp
      | some digit => simpa using ih (16 * high + digit)

/-- The lowest digits of a number read back as what is left of it. -/
theorem read_hexDigits (high count n : Nat) :
    readHexFrom? high (hexDigits count n) = some (high * 16 ^ count + n % 16 ^ count) := by
  induction count generalizing n with
  | zero => simp [hexDigits, readHexFrom?, Nat.mod_one]
  | succ count ih =>
      have last := (hexChar_values (n % 16) (Nat.mod_lt n (by decide))).1
      rw [hexDigits, readHexFrom_append, ih (n / 16), Option.bind_some, readHexFrom?, last,
        Option.bind_some, readHexFrom?, Nat.pow_succ', Nat.mod_mul, Nat.mul_left_comm]
      congr 1
      omega

/-- Digits that have been read are the lowest ones of the number, in lower case. -/
theorem hexDigits_of_read (high : Nat) (digits : List Char) (n : Nat)
    (read : readHexFrom? high digits = some n) :
    n / 16 ^ digits.length = high ∧ hexDigits digits.length n = digits.map Char.toLower := by
  induction digits generalizing high with
  | nil =>
      rw [readHexFrom?, Option.some.injEq] at read
      simp [read, hexDigits]
  | cons c rest ih =>
      rw [readHexFrom?, Option.bind_eq_some_iff] at read
      obtain ⟨digit, first, others⟩ := read
      obtain ⟨small, written⟩ := hexChar_of_hexDigit c digit first
      obtain ⟨above, lowest⟩ := ih (16 * high + digit) others
      rw [List.length_cons, List.map_cons, hexDigits_succ, above, lowest, ← written,
        Nat.pow_succ, ← Nat.div_div_eq_div_mul, above]
      exact ⟨by omega, by rw [show (16 * high + digit) % 16 = digit by omega]⟩

end Gallery.Text
