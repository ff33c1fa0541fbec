import Gallery.Proofs.Library.Leaves
import Gallery.Proofs.Platform
import Gallery.Proofs.Text.Boundary

/-!
The last occurrence of a text in another one. The position counts characters, but the bytes of the
texts lead to it as well: the last place at which they occur is the start of a character, and the
characters before it are those before the position (`rinstr_of_bytes`). With the position, built-in
functions cut off what follows the last occurrence of a character, of texts without NUL characters
(`last_occurrence_exact`).
-/

namespace Gallery.Sql

open Text (OccursAt utf8 encoded)

section Search

variable (needle text : List Char) (nonempty : needle ≠ [])

include nonempty

/-- The search goes through all positions from the end of the text, and keeps the last one. -/
theorem lastOccurrence_cases (index : Nat) (started : 0 < index) :
    (lastOccurrence needle index text = 0 ∧ ∀ k, ¬OccursAt needle text k) ∨
      ∃ k, lastOccurrence needle index text = index + k ∧
        IsGreatest {k | OccursAt needle text k} k := by
  induction text generalizing index with
  | nil => exact .inl ⟨rfl, fun k => Text.not_occursAt_nil needle k nonempty⟩
  | cons c rest ih =>
      rw [lastOccurrence]
      rcases ih (index + 1) (by omega) with ⟨none, absent⟩ | ⟨k, later, stands, last⟩
      · have first : ∀ k, OccursAt needle (c :: rest) k → k = 0 := by
          intro k occurs
          cases k with
          | zero => rfl
          | succ k => exact absurd occurs (absent k)
        rw [none, if_neg (by simp)]
        by_cases leads : needle <+: c :: rest
        · right
          refine ⟨0, by simp [leads], leads, fun k occurs => ?_⟩
          rw [first k occurs]
        · left
          refine ⟨by simp [leads], fun k occurs => ?_⟩
          rw [first k occurs] at occurs
          exact leads occurs
      · right
        rw [later, if_pos (by omega)]
        refine ⟨k + 1, by omega, stands, fun other occurs => ?_⟩
        cases other with
        | zero => exact Nat.zero_le _
        | succ other => exact Nat.succ_le_succ (last occurs)

end Search

section Position

variable (text needle : String)

theorem rinstr_empty : rinstr text "" = 0 :=
  rfl

theorem rinstr_cases (nonempty : needle ≠ "") :
    (rinstr text needle = 0 ∧ ∀ k, ¬OccursAt needle.toList text.toList k) ∨
      ∃ k, rinstr text needle = k + 1 ∧ IsGreatest {k | OccursAt needle.toList text.toList k} k := by
  have listed : needle.toList ≠ [] := by simpa using nonempty
  rw [rinstr, if_neg (by simpa using nonempty)]
  rcases lastOccurrence_cases needle.toList text.toList listed 1 Nat.one_pos with
    none | ⟨k, found, last⟩
  · exact .inl none
  · exact .inr ⟨k, by rw [found, Nat.add_comm], last⟩

theorem rinstr_eq_zero_iff :
    rinstr text needle = 0 ↔ needle = "" ∨ ¬needle.toList <:+: text.toList := by
  by_cases empty : needle = ""
  · simp [empty, rinstr_empty]
  · rw [← Text.exists_occursAt_iff, not_exists]
    rcases rinstr_cases text needle empty with ⟨none, absent⟩ | ⟨k, found, stands, _⟩
    · simp [none, absent]
    · simp only [found, empty, false_or]
      exact ⟨fun zero => absurd zero (by omega), fun absent => absurd stands (absent k)⟩

theorem rinstr_eq_iff (k : Nat) (nonempty : needle ≠ "") :
    rinstr text needle = k + 1 ↔ IsGreatest {k | OccursAt needle.toList text.toList k} k := by
  rcases rinstr_cases text needle nonempty with ⟨none, absent⟩ | ⟨other, found, last⟩
  · rw [none]
    exact ⟨fun wrong => absurd wrong (by omega), fun other => absurd other.1 (absent k)⟩
  · rw [found, Nat.add_left_inj]
    constructor
    · rintro rfl
      exact last
    · exact last.unique

/-- The bytes of a text occur where its characters do. -/
theorem rinstr_eq_zero_iff_bytes (nonempty : needle ≠ "") :
    rinstr text needle = 0 ↔ ∀ i, ¬OccursAt (utf8 needle) (utf8 text) i := by
  have listed : needle.toList ≠ [] := by simpa using nonempty
  simp only [Text.utf8_encoded, Text.bytes_occur_iff needle.toList text.toList listed]
  rcases rinstr_cases text needle nonempty with ⟨none, absent⟩ | ⟨k, found, stands, _⟩
  · simp [none, absent]
  · have inside : k < text.toList.length := by
      by_contra outside
      have leads : needle.toList <+: text.toList.drop k := stands
      rw [List.drop_eq_nil_of_le (by omega), List.prefix_nil] at leads
      exact listed leads
    refine ⟨fun zero => absurd zero (by omega), fun absent => ?_⟩
    exact absurd ⟨k, by omega, rfl, stands⟩ (absent _)

/-- Counting the characters in front of the last place at which the bytes occur gives the
position. -/
theorem rinstr_of_bytes (nonempty : needle ≠ "") (i : Nat)
    (last : IsGreatest {i | OccursAt (utf8 needle) (utf8 text) i} i) :
    ∃ before : String, utf8 before = (utf8 text).take i ∧
      rinstr text needle = before.length + 1 := by
  simp only [Text.utf8_encoded] at last
  have listed : needle.toList ≠ [] := by simpa using nonempty
  obtain ⟨k, inside, rfl, greatest⟩ := Text.last_of_bytes _ _ listed i last
  refine ⟨String.ofList (text.toList.take k), ?_, ?_⟩
  · rw [Text.utf8_encoded, Text.utf8_encoded, String.toList_ofList, Text.take_encoded]
  · rw [String.length_ofList, List.length_take_of_le inside]
    exact (rinstr_eq_iff text needle k nonempty).mpr greatest

end Position

section Calls

variable (world : World) (text : String)

theorem call_rinstr (needle : String) :
    callAny? world "RINSTR" [.text text, .text needle] =
      some (.ok (.integer (rinstr text needle))) :=
  call_additional world "RINSTR" _ (by decide)

theorem call_substr_after (c : Char) :
    callAny? world "SUBSTR" [.text text, .integer (rinstr text c.toString + 1)] =
      some (.ok (.text (partBeforeNul c text))) := by
  rw [call_substr]
  simp only [Value.isNull, Value.toNumber, Value.wholePart, substringFrom_next,
    rinstr_separator text c, Bool.or_self, Bool.false_eq_true, ↓reduceIte]
  rfl

/-- The position of the last occurrence is zero for a text that is empty or does not occur.
Otherwise the text stands there, and nowhere after. A search of the bytes leads to the same
position, by the characters in front of the last place. What follows the last occurrence of a
character is cut off with it, as far as the first NUL character, which makes no difference to texts
without one. -/
theorem last_occurrence_exact (needle : String) :
    callAny? world "RINSTR" [.text text, .text needle] =
      some (.ok (.integer (rinstr text needle))) ∧
    (rinstr text needle = 0 ↔ needle = "" ∨ ¬needle.toList <:+: text.toList) ∧
    (rinstr text needle ≠ 0 →
      needle.toList <+: text.toList.drop (rinstr text needle - 1) ∧
      ∀ k, rinstr text needle < k → ¬needle.toList <+: text.toList.drop (k - 1)) ∧
    (needle ≠ "" →
      (rinstr text needle = 0 ↔ ∀ i, ¬OccursAt (utf8 needle) (utf8 text) i) ∧
      ∀ i, IsGreatest {i | OccursAt (utf8 needle) (utf8 text) i} i →
        ∃ before : String, utf8 before = (utf8 text).take i ∧
          rinstr text needle = before.length + 1) ∧
    ∀ c : Char,
      callAny? world "SUBSTR" [.text text, .integer (rinstr text c.toString + 1)] =
        some (.ok (.text (partBeforeNul c text))) ∧
      (partBeforeNul c text = partAfter c text ↔
        '\x00' ∉ text.toList ∨ partAfter c text = "") := by
  refine ⟨call_rinstr world text needle, rinstr_eq_zero_iff text needle, ?_, ?_, ?_⟩
  · intro found
    have nonempty : needle ≠ "" := fun empty =>
      found ((rinstr_eq_zero_iff text needle).mpr (.inl empty))
    rcases rinstr_cases text needle nonempty with ⟨none, _⟩ | ⟨k, position, stands, last⟩
    · exact absurd none found
    · rw [position, Nat.add_sub_cancel]
      refine ⟨stands, fun other later occurs => ?_⟩
      have earlier : other - 1 ≤ k := last occurs
      omega
  · exact fun nonempty =>
      ⟨rinstr_eq_zero_iff_bytes text needle nonempty, rinstr_of_bytes text needle nonempty⟩
  · exact fun c => ⟨call_substr_after world text c, partBeforeNul_eq_iff c text⟩

end Calls

/-- Occurrences that overlap, behind characters of two and of three bytes. -/
theorem last_occurrence_exact_overlapping :
    rinstr "äöö—ööö" "öö" ≠ 0 ∧ "öö" ≠ "" ∧
    IsGreatest {i | OccursAt (utf8 "öö") (utf8 "äöö—ööö") i} 11 ∧
    "öö".toList <+: "äöö—ööö".toList.drop (rinstr "äöö—ööö" "öö" - 1) ∧
    ∃ before : String, utf8 before = (utf8 "äöö—ööö").take 11 ∧
      rinstr "äöö—ööö" "öö" = before.length + 1 := by
  obtain ⟨_, _, stands, bytes, _⟩ :=
    last_occurrence_exact ⟨fun _ => none, fun _ => false, Pattern.Sample.engine⟩ "äöö—ööö" "öö"
  have found : rinstr "äöö—ööö" "öö" ≠ 0 := by decide +kernel
  have nonempty : "öö" ≠ "" := by decide +kernel
  have last : IsGreatest {i | OccursAt (utf8 "öö") (utf8 "äöö—ööö") i} 11 := by
    have stands : utf8 "öö" <+: (utf8 "äöö—ööö").drop 11 := by decide +kernel
    refine ⟨stands, fun i occurs => ?_⟩
    have long : 4 ≤ 15 - i := by
      have fits := List.IsPrefix.length_le occurs
      rwa [List.length_drop] at fits
    omega
  exact ⟨found, nonempty, last, (stands found).1, (bytes nonempty).2 11 last⟩

/-- What follows the last point is cut off before a NUL character, and a search for an extension
goes by what is left. -/
theorem rest_cut_at_nul :
    partAfter '.' "a.b\x00c" = "b\x00c" ∧
    callAny? ⟨fun _ => none, fun _ => false, Pattern.Sample.engine⟩ "SUBSTR"
      [.text "a.b\x00c", .integer (rinstr "a.b\x00c" '.'.toString + 1)] =
        some (.ok (.text "b")) ∧
    (Library.empty.after (.insertPicture "a.b\x00c" none)).search (.bare []) "#ext:b" .standard
      ⟨1000, true⟩ = .ok [⟨1, "a.b\x00c", none⟩] := by
  have cut : String.ofList (substringFrom (Value.text "a.b\x00c").textUpToNul
      (rinstr "a.b\x00c" '.'.toString + 1)) = "b" := by
    decide +kernel
  refine ⟨by decide +kernel, ?_, by decide +kernel⟩
  rw [call_substr]
  exact congrArg (fun rest => some (Except.ok (Value.text rest))) cut

end Gallery.Sql
