import Mathlib.Order.Bounds.Basic
import Gallery.Proofs.Text.ByteOrder

/-!
Where a text occurs in another one. A first byte of an encoding stands at the start of a character
only, so the bytes of a text occur in those of another one just where its characters do
(`bytes_occur_iff`), and the last of their places are the same (`last_of_bytes`).
-/

namespace Gallery.Text

/-- The list `needle` stands in `text` behind the first `k` entries. -/
def OccursAt {Entry : Type} (needle text : List Entry) (k : Nat) : Prop :=
  needle <+: text.drop k

section Occurrence

variable {Entry : Type} (needle text : List Entry)

theorem exists_occursAt_iff : (∃ k, OccursAt needle text k) ↔ needle <:+: text := by
  rw [List.infix_iff_prefix_suffix]
  constructor
  · rintro ⟨k, occurs⟩
    exact ⟨text.drop k, occurs, List.drop_suffix k text⟩
  · rintro ⟨rest, leads, before, rfl⟩
    exact ⟨before.length, by rwa [OccursAt, List.drop_left]⟩

theorem not_occursAt_nil (k : Nat) (nonempty : needle ≠ []) : ¬OccursAt needle [] k := by
  rw [OccursAt, List.drop_nil, List.prefix_nil]
  exact nonempty

end Occurrence

/-- The bytes of characters in UTF-8. -/
def encoded (text : List Char) : List UInt8 :=
  text.flatMap String.utf8EncodeChar

@[simp] theorem encoded_nil : encoded [] = [] := rfl

@[simp] theorem encoded_cons (c : Char) (rest : List Char) :
    encoded (c :: rest) = String.utf8EncodeChar c ++ encoded rest :=
  List.flatMap_cons

theorem encoded_append (first second : List Char) :
    encoded (first ++ second) = encoded first ++ encoded second :=
  List.flatMap_append

theorem utf8_encoded (text : String) : utf8 text = encoded text.toList :=
  utf8_eq text

theorem encoded_split (text : List Char) (k : Nat) :
    encoded text = encoded (text.take k) ++ encoded (text.drop k) := by
  rw [← encoded_append, List.take_append_drop]

/-- The bytes in front of a character are those of the characters in front of it. -/
theorem take_encoded (text : List Char) (k : Nat) :
    (encoded text).take (encoded (text.take k)).length = encoded (text.take k) := by
  conv_lhs => rw [encoded_split text k, List.take_left]

/-- More characters have more bytes. -/
theorem encoded_take_lt (text : List Char) (k other : Nat) (less : k < other)
    (inside : other ≤ text.length) :
    (encoded (text.take k)).length < (encoded (text.take other)).length := by
  have next : text.take (k + 1) <+: text.take other := List.take_prefix_take_left (by omega)
  have grows : (encoded (text.take (k + 1))).length ≤ (encoded (text.take other)).length := by
    obtain ⟨rest, split⟩ := next
    rw [← split, encoded_append, List.length_append]
    omega
  have one : text.take (k + 1) = text.take k ++ [text[k]] := by
    rw [List.take_append_getElem]
  have added := Char.utf8Size_pos text[k]
  rw [one, encoded_append, List.length_append, encoded_cons, List.length_append,
    String.length_utf8EncodeChar] at grows
  omega

/-- A text of ASCII characters has one byte for each. -/
theorem utf8ByteSize_ascii (text : String) (ascii : ∀ c ∈ text.toList, c.toNat < 128) :
    text.utf8ByteSize = text.length := by
  have bytes : text.utf8ByteSize = (utf8 text).length := by
    rw [utf8, Array.length_toList]
    rfl
  rw [bytes, utf8_encoded, ← String.length_toList]
  generalize text.toList = chars at ascii
  induction chars with
  | nil => rfl
  | cons c rest ih =>
      have single : c.utf8Size = 1 := by
        rw [Char.utf8Size_eq_one_iff]
        exact Nat.le_of_lt_succ (ascii c (by simp))
      rw [encoded_cons, List.length_append, String.length_utf8EncodeChar, single, List.length_cons,
        ih fun other member => ascii other (by simp [member])]
      omega

/-- No encoding goes on with more than the encodings of more characters. -/
theorem prefix_of_encoded (needle text : List Char) (leads : encoded needle <+: encoded text) :
    needle <+: text := by
  obtain ⟨rest, split⟩ := leads
  apply List.isPrefix_of_utf8Encode_append_eq_utf8Encode rest.toByteArray
  rw [List.utf8Encode.eq_1, List.utf8Encode.eq_1, ← List.toByteArray_append]
  exact congrArg List.toByteArray split

/-- A first byte of an encoding begins one. -/
theorem boundary_of_firstByte (text : List Char) (i : Nat) (byte : UInt8) (rest : List UInt8)
    (stands : (encoded text).drop i = byte :: rest) (first : byte.IsUTF8FirstByte) :
    ∃ before after, text = before ++ after ∧ (encoded before).length = i := by
  induction text generalizing i with
  | nil => simp at stands
  | cons c text ih =>
      rw [encoded_cons, List.drop_append] at stands
      by_cases inside : i < (String.utf8EncodeChar c).length
      · have same : (String.utf8EncodeChar c)[i] = byte := by
          rw [List.drop_eq_getElem_cons inside] at stands
          exact (List.cons.inj stands).1
        rw [← same, UInt8.isUTF8FirstByte_getElem_utf8EncodeChar] at first
        exact ⟨[], c :: text, rfl, first.symm⟩
      · rw [List.drop_eq_nil_of_le (by omega), List.nil_append] at stands
        obtain ⟨before, after, split, long⟩ := ih _ stands
        refine ⟨c :: before, after, by rw [split, List.cons_append], ?_⟩
        rw [encoded_cons, List.length_append, long]
        omega

/-- The bytes of a text that is not empty occur in those of another one at the start of a character
from which the text itself occurs. -/
theorem bytes_occur_iff (needle text : List Char) (nonempty : needle ≠ []) (i : Nat) :
    OccursAt (encoded needle) (encoded text) i ↔
      ∃ k ≤ text.length, (encoded (text.take k)).length = i ∧ OccursAt needle text k := by
  constructor
  · intro occurs
    obtain ⟨c, others, rfl⟩ := List.exists_cons_of_ne_nil nonempty
    obtain ⟨byte, more, encoding⟩ :=
      List.exists_cons_of_ne_nil (String.utf8EncodeChar_ne_nil (c := c))
    have first : byte.IsUTF8FirstByte := by
      have leading := UInt8.isUTF8FirstByte_getElem_zero_utf8EncodeChar (c := c)
      simpa [encoding] using leading
    obtain ⟨rest, stands⟩ := occurs
    rw [encoded_cons, encoding] at stands
    obtain ⟨before, after, rfl, rfl⟩ := boundary_of_firstByte text i byte _ stands.symm first
    refine ⟨before.length, by simp, by rw [List.take_left], ?_⟩
    rw [OccursAt, List.drop_left]
    apply prefix_of_encoded
    rw [encoded_append, List.drop_left] at stands
    exact ⟨rest, by rw [encoded_cons, encoding]; exact stands⟩
  · rintro ⟨k, _, rfl, rest, stands⟩
    rw [OccursAt, encoded_split text k, List.drop_left, ← stands, encoded_append]
    exact List.prefix_append _ _

/-- The last place at which the bytes occur is the start of a character, from which the characters
occur last. -/
theorem last_of_bytes (needle text : List Char) (nonempty : needle ≠ []) (i : Nat)
    (last : IsGreatest {i | OccursAt (encoded needle) (encoded text) i} i) :
    ∃ k ≤ text.length, (encoded (text.take k)).length = i ∧
      IsGreatest {k | OccursAt needle text k} k := by
  obtain ⟨k, inside, long, stands⟩ := (bytes_occur_iff needle text nonempty i).mp last.1
  refine ⟨k, inside, long, stands, fun other occurs => ?_⟩
  have before : other ≤ text.length := by
    by_contra outside
    have leads : needle <+: text.drop other := occurs
    rw [List.drop_eq_nil_of_le (by omega), List.prefix_nil] at leads
    exact nonempty leads
  -- The bytes of a later occurrence would stand after the last place.
  by_contra later
  have place := last.2 ((bytes_occur_iff needle text nonempty _).mpr ⟨other, before, rfl, occurs⟩)
  have further := encoded_take_lt text k other (by omega) before
  omega

end Gallery.Text
