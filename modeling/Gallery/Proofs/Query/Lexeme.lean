import Gallery.Query.Parse

/-!
How the classes of characters exclude each other. A separator is white space, white space is never
part of a label, and a type symbol is neither; so the first character of a word decides what kind of
word it is, and a run of label characters ends where the next word begins.
-/

namespace Gallery

/-- The white space beyond the first 128 characters. -/
def Text.distantBlanks : List Nat :=
  [133, 160, 5760, 8192, 8193, 8194, 8195, 8196, 8197, 8198, 8199, 8200, 8201, 8202, 8232, 8233,
    8239, 8287, 12288]

theorem Text.distant_blanks_not_alphanumeric :
    (Text.distantBlanks.all fun code =>
      !CodeSet.search alphanumericBeyondAscii.ranges code
        (alphanumericBeyondAscii.ranges.size + 1) 0 alphanumericBeyondAscii.ranges.size) =
      true := by
  decide +kernel

theorem Text.not_alphanumeric_of_blank (c : Char) (blank : isBlank c = true) :
    isAlphanumeric c = false := by
  simp only [isBlank, Bool.or_eq_true, beq_iff_eq, Bool.and_eq_true, decide_eq_true_eq] at blank
  unfold isAlphanumeric
  split
  · next near =>
      have code : c.toNat = 32 ∨ 9 ≤ c.toNat ∧ c.toNat ≤ 13 := by omega
      have capitalA : 'A'.toNat = 65 := rfl
      have smallA : 'a'.toNat = 97 := rfl
      have zero : '0'.toNat = 48 := rfl
      delta Char.isAlphanum Char.isAlpha Char.isUpper Char.isLower Char.isDigit
      simp only [ge_iff_le, UInt32.le_iff_toNat_le, Char.toNat_val, Bool.or_eq_false_iff,
        Bool.and_eq_false_iff, decide_eq_false_iff_not]
      omega
  · next far =>
      have member : c.toNat ∈ distantBlanks := by
        simp only [distantBlanks, List.mem_cons, List.not_mem_nil, or_false]
        omega
      simpa [CodeSet.contains] using
        List.all_eq_true.mp distant_blanks_not_alphanumeric c.toNat member

namespace Query

theorem not_label_of_blank (c : Char) (blank : Text.isBlank c = true) : isLabelChar c = false := by
  rw [isLabelChar, Text.not_alphanumeric_of_blank c blank, Bool.false_or]
  exact beq_eq_false_iff_ne.mpr fun same => by
    subst c
    revert blank
    decide

theorem blank_of_gap (c : Char) (gap : isGap c = true) : Text.isBlank c = true := by
  simp only [isGap, Bool.or_eq_true, beq_iff_eq] at gap
  rcases gap with ((rfl | rfl) | rfl) | rfl <;> decide

theorem not_gap_of_label (c : Char) (label : isLabelChar c = true) : isGap c = false := by
  cases gap : isGap c with
  | false => rfl
  | true =>
      rw [not_label_of_blank c (blank_of_gap c gap)] at label
      cases label

theorem type_symbol_iff (c : Char) :
    isTypeSymbol c = true ↔ Text.isBlank c = false ∧ isLabelChar c = false ∧ c ∉ reserved := by
  simp [isTypeSymbol, and_assoc]

theorem not_gap_of_symbol (c : Char) (symbol : isTypeSymbol c = true) : isGap c = false := by
  cases gap : isGap c with
  | false => rfl
  | true =>
      have visible := ((type_symbol_iff c).mp symbol).1
      rw [blank_of_gap c gap] at visible
      cases visible

theorem not_symbol_of_label (c : Char) (label : isLabelChar c = true) : isTypeSymbol c = false := by
  cases symbol : isTypeSymbol c with
  | false => rfl
  | true =>
      rw [((type_symbol_iff c).mp symbol).2.1] at label
      cases label

theorem reserved_not_label (c : Char) (special : c ∈ reserved) : isLabelChar c = false := by
  simp only [reserved, pseudoMark, List.mem_cons, List.not_mem_nil, or_false] at special
  rcases special with rfl | rfl | rfl | rfl | rfl | rfl <;> decide

theorem isLabel_iff (label : String) :
    isLabel label = true ↔
      label.toList ≠ [] ∧ label.toList.all isLabelChar = true ∧ isKeyword label = false := by
  simp [isLabel, and_assoc]

theorem label_head (label : String) (valid : isLabel label = true) :
    ∃ c tail, label.toList = c :: tail ∧ isLabelChar c = true := by
  rcases (isLabel_iff label).mp valid with ⟨nonempty, inside, _⟩
  cases shape : label.toList with
  | nil => exact absurd shape nonempty
  | cons c tail =>
      rw [shape, List.all_cons, Bool.and_eq_true] at inside
      exact ⟨c, tail, rfl, inside.1⟩

/-! Runs of characters and what follows them. -/

/-- A run that satisfies `p` throughout is the whole run when what follows does not. -/
theorem takeWhile_run (p : Char → Bool) (run rest : List Char) (inside : run.all p = true)
    (outside : rest.head?.any p = false) : (run ++ rest).takeWhile p = run := by
  rw [List.takeWhile_append_of_pos (fun c member => List.all_eq_true.mp inside c member)]
  cases rest with
  | nil => simp
  | cons c rest =>
      have last : p c = false := outside
      simp [last]

theorem dropWhile_run (p : Char → Bool) (run rest : List Char) (inside : run.all p = true)
    (outside : rest.head?.any p = false) : (run ++ rest).dropWhile p = rest := by
  rw [List.dropWhile_append_of_pos (fun c member => List.all_eq_true.mp inside c member)]
  cases rest with
  | nil => simp
  | cons c rest =>
      have last : p c = false := outside
      simp [last]

theorem run_unique (p : Char → Bool) (a b restA restB : List Char)
    (same : a ++ restA = b ++ restB) (insideA : a.all p = true) (insideB : b.all p = true)
    (outsideA : restA.head?.any p = false) (outsideB : restB.head?.any p = false) :
    a = b ∧ restA = restB := by
  have runs := congrArg (List.takeWhile p) same
  rw [takeWhile_run p a restA insideA outsideA, takeWhile_run p b restB insideB outsideB] at runs
  subst runs
  exact ⟨rfl, List.append_cancel_left same⟩

theorem dropWhile_outside (p : Char → Bool) (input : List Char) :
    (input.dropWhile p).head?.any p = false := by
  cases left : input.dropWhile p with
  | nil => rfl
  | cons c rest =>
      have head := List.head_dropWhile_not p (by simp [left] : input.dropWhile p ≠ [])
      simpa [left] using head

theorem skipGaps_append (gap rest : List Char) (inside : gap.all isGap = true) :
    skipGaps (gap ++ rest) = skipGaps rest :=
  List.dropWhile_append_of_pos fun c member => List.all_eq_true.mp inside c member

theorem skipGaps_self (rest : List Char) (outside : rest.head?.any isGap = false) :
    skipGaps rest = rest :=
  dropWhile_run isGap [] rest rfl outside

theorem exists_gap (input : List Char) :
    ∃ gap, gap.all isGap = true ∧ input = gap ++ skipGaps input :=
  ⟨input.takeWhile isGap, List.all_takeWhile, (List.takeWhile_append_dropWhile).symm⟩

theorem skipGaps_idem (input : List Char) : skipGaps (skipGaps input) = skipGaps input :=
  skipGaps_self _ (dropWhile_outside isGap input)

theorem skipGaps_length (input : List Char) : (skipGaps input).length ≤ input.length :=
  (List.dropWhile_sublist isGap).length_le

end Query

end Gallery
