import Gallery.Proofs.Query.Grammar

/-!
The small readers and the words they read: quoted text, arguments, pseudo-tags, references and
keywords. Each of them finds exactly what `Spells` says stands at the start of its input.
-/

namespace Gallery.Query

/-! What a composed reading has found. -/

namespace Reading

variable {α β : Type}

theorem andThen_found_iff (reading : Reading α) (next : α → List Char → Reading β) (result : β)
    (rest : List Char) :
    reading.andThen next = .found result rest ↔
      ∃ value middle, reading = .found value middle ∧ next value middle = .found result rest := by
  cases reading with
  | found value middle =>
      constructor
      · intro read
        exact ⟨value, middle, rfl, read⟩
      · rintro ⟨_, _, same, read⟩
        cases same
        exact read
  | absent | broken => simp [andThen]

theorem map_found_iff (f : α → β) (reading : Reading α) (result : β) (rest : List Char) :
    reading.map f = .found result rest ↔
      ∃ value, reading = .found value rest ∧ f value = result := by
  rw [map, andThen_found_iff]
  constructor
  · rintro ⟨value, middle, same, found⟩
    cases found
    exact ⟨value, same, rfl⟩
  · rintro ⟨value, same, rfl⟩
    exact ⟨value, rest, same, rfl⟩

theorem required_found_iff (reading : Reading α) (result : α) (rest : List Char) :
    reading.required = .found result rest ↔ reading = .found result rest := by
  cases reading <;> simp [required]

end Reading

/-! Arguments. -/

theorem readQuoted_complete (body pattern rest : List Char) (decoded : Quoted body pattern) :
    readQuoted? (body ++ '"' :: rest) = some (pattern, rest) := by
  induction decoded with
  | nil => rfl
  | escaped c body pattern special following ih =>
      rw [List.cons_append, List.cons_append, readQuoted?, ih]
      simp [special]
  | kept c body pattern ordinary following ih =>
      rw [List.cons_append, List.cons_append, readQuoted?, ih]
      simp [ordinary]
  | plain c body pattern ordinary following ih =>
      rw [not_or] at ordinary
      rw [List.cons_append, readQuoted?.eq_5 c _ ordinary.1 (fun same _ => ordinary.2 same)
        (fun _ _ same _ => ordinary.2 same), ih]
      rfl

theorem readQuoted_sound (input pattern rest : List Char)
    (read : readQuoted? input = some (pattern, rest)) :
    ∃ body, Quoted body pattern ∧ input = body ++ '"' :: rest := by
  fun_induction readQuoted? input generalizing pattern with
  | case1 => cases read
  | case2 after =>
      cases read
      exact ⟨[], .nil, rfl⟩
  | case3 => cases read
  | case4 c after ih =>
      rcases Option.map_eq_some_iff.mp read with ⟨⟨text, left⟩, inner, same⟩
      by_cases special : c = '"' ∨ c = '\\'
      · simp only [special, ↓reduceIte, Prod.mk.injEq] at same
        rcases same with ⟨rfl, rfl⟩
        rcases ih text inner with ⟨body, decoded, rfl⟩
        exact ⟨'\\' :: c :: body, .escaped c body text special decoded, rfl⟩
      · simp only [special, ↓reduceIte, Prod.mk.injEq] at same
        rcases same with ⟨rfl, rfl⟩
        rcases ih text inner with ⟨body, decoded, rfl⟩
        exact ⟨'\\' :: c :: body, .kept c body text special decoded, rfl⟩
  | case5 c after notQuote notLast notEscape ih =>
      rcases Option.map_eq_some_iff.mp read with ⟨⟨text, left⟩, inner, same⟩
      simp only [Prod.mk.injEq] at same
      rcases same with ⟨rfl, rfl⟩
      rcases ih text inner with ⟨body, decoded, rfl⟩
      refine ⟨c :: body, .plain c body text ?_ decoded, rfl⟩
      rintro (quote | slash)
      · exact notQuote quote
      · cases shape : body ++ '"' :: left with
        | nil => simp at shape
        | cons d tail => exact notEscape d tail slash shape

theorem readCaseFlag_complete (flag : Option Bool) (rest : List Char)
    (ends : startsInLabel rest = false) :
    readCaseFlag (Expr.caseFlag flag ++ rest) = (flag, rest) := by
  cases flag with
  | some sensitive => cases sensitive <;> rfl
  | none =>
      refine readCaseFlag.eq_3 rest ?_ ?_ <;> rintro tail rfl
      · exact absurd ends (by simp [startsInLabel]; decide)
      · exact absurd ends (by simp [startsInLabel]; decide)

theorem readCaseFlag_sound (input : List Char) :
    input = Expr.caseFlag (readCaseFlag input).1 ++ (readCaseFlag input).2 := by
  fun_cases readCaseFlag input <;> rfl

theorem readRun_iff (p : Char → Bool) (input run rest : List Char) :
    readRun p input = .found run rest ↔
      run ≠ [] ∧ input = run ++ rest ∧ run.all p = true ∧ rest.head?.any p = false := by
  constructor
  · intro read
    unfold readRun at read
    split at read
    · cases read
    · next c tail shape =>
        simp only [Reading.found.injEq] at read
        rcases read with ⟨rfl, rfl⟩
        refine ⟨List.cons_ne_nil c tail, ?_, ?_, dropWhile_outside p input⟩
        · rw [← shape, List.takeWhile_append_dropWhile]
        · rw [← shape]
          exact List.all_takeWhile
  · rintro ⟨nonempty, rfl, inside, outside⟩
    rw [readRun, takeWhile_run p run rest inside outside, dropWhile_run p run rest inside outside]
    cases run with
    | nil => exact absurd rfl nonempty
    | cons c tail => rfl

theorem readArgument_iff (input : List Char) (argument : Argument) (rest : List Char) :
    readArgument input = .found argument rest ↔ SpellsArgument input argument rest := by
  constructor
  · intro read
    unfold readArgument at read
    split at read
    · next body =>
        split at read
        · cases read
        · next text after quoted =>
            split at read
            · cases read
            · next ends =>
                simp only [Reading.found.injEq] at read
                rcases read with ⟨rfl, rfl⟩
                rcases readQuoted_sound body text after quoted with ⟨inner, decoded, rfl⟩
                rw [Bool.not_eq_true] at ends
                have spelled := SpellsArgument.quoted inner text _ (readCaseFlag after).1 decoded
                  ends
                rwa [← readCaseFlag_sound after] at spelled
    · next notQuoted =>
        rcases (Reading.map_found_iff _ _ _ _).mp read with ⟨run, found, rfl⟩
        rcases (readRun_iff _ _ _ _).mp found with ⟨nonempty, rfl, inside, outside⟩
        exact .bare run rest nonempty inside outside
  · intro spelled
    cases spelled with
    | quoted body pattern _ flag decoded ends =>
        simp only [readArgument, readQuoted_complete _ _ _ decoded,
          readCaseFlag_complete flag rest ends, ends, Bool.false_eq_true, ↓reduceIte]
    | bare pattern _ nonempty inside ends =>
        rw [readArgument.eq_2, Reading.map_found_iff]
        · exact ⟨pattern, (readRun_iff _ _ _ _).mpr ⟨nonempty, rfl, inside, ends⟩, rfl⟩
        · intro body shape
          -- The first character would be a quote, which no bare argument holds.
          cases pattern with
          | nil => exact nonempty rfl
          | cons c tail =>
              simp only [List.cons_append, List.cons.injEq] at shape
              rw [shape.1, List.all_cons, Bool.and_eq_true] at inside
              exact absurd inside.1 (by decide)

theorem readArgumentPart_sound (input : List Char) (argument : Option Argument) (rest : List Char)
    (read : readArgumentPart input = .found argument rest) :
    SpellsArgumentPart input argument rest := by
  unfold readArgumentPart at read
  split at read
  · next input =>
      rcases (Reading.map_found_iff _ _ _ _).mp read with ⟨argument, found, rfl⟩
      rw [Reading.required_found_iff, readArgument_iff] at found
      exact .some input argument rest found
  · cases read
    exact .none input

theorem readArgumentPart_complete (input : List Char) (argument : Option Argument)
    (rest : List Char) (spelled : SpellsArgumentPart input argument rest)
    (follows : rest.head? ≠ some ':') : readArgumentPart input = .found argument rest := by
  cases spelled with
  | none =>
      refine readArgumentPart.eq_2 input fun tail same => ?_
      rw [same] at follows
      exact follows rfl
  | some input argument _ spelled =>
      rw [readArgumentPart, (readArgument_iff _ _ _).mpr spelled]
      rfl

/-! Pseudo-tags and references. -/

theorem readInvocation_sound (input : List Char) (expr : Expr) (rest : List Char)
    (read : readInvocation input = .found expr rest) :
    ∃ name argument, expr = .pseudo name argument ∧
      Spells (pseudoMark :: input) (.pseudo name argument) rest := by
  rcases (Reading.andThen_found_iff _ _ _ _).mp read with ⟨name, middle, named, part⟩
  rw [Reading.required_found_iff, readRun_iff] at named
  rcases named with ⟨nonempty, rfl, inside, outside⟩
  rcases (Reading.map_found_iff _ _ _ _).mp part with ⟨argument, found, rfl⟩
  exact ⟨_, argument, rfl, .pseudo name middle argument rest nonempty inside outside
    (readArgumentPart_sound middle argument rest found)⟩

theorem readInvocation_complete (name input : List Char) (argument : Option Argument)
    (rest : List Char) (nonempty : name ≠ []) (inside : name.all isLabelChar = true)
    (ends : startsInLabel input = false) (spelled : SpellsArgumentPart input argument rest)
    (follows : rest.head? ≠ some ':') :
    readInvocation (name ++ input) = .found (.pseudo (String.ofList name) argument) rest := by
  rw [readInvocation, (readRun_iff _ _ _ _).mpr ⟨nonempty, rfl, inside, ends⟩]
  simp only [Reading.required, Reading.andThen]
  rw [readArgumentPart_complete input argument rest spelled follows]
  rfl

theorem readLabel_iff (input : List Char) (label : String) (rest : List Char) :
    readLabel input = .found label rest ↔
      isLabel label = true ∧ input = label.toList ++ rest ∧ startsInLabel rest = false := by
  constructor
  · intro read
    rcases (Reading.andThen_found_iff _ _ _ _).mp read with ⟨run, middle, found, kept⟩
    rcases (readRun_iff _ _ _ _).mp found with ⟨nonempty, rfl, inside, outside⟩
    split at kept
    · cases kept
    · next word =>
        simp only [Reading.found.injEq] at kept
        rcases kept with ⟨rfl, rfl⟩
        rw [Bool.not_eq_true] at word
        exact ⟨(isLabel_iff _).mpr ⟨by simpa using nonempty, by simpa using inside, word⟩,
          by simp, outside⟩
  · rintro ⟨valid, rfl, ends⟩
    rcases (isLabel_iff label).mp valid with ⟨nonempty, inside, word⟩
    rw [readLabel, (readRun_iff _ _ _ _).mpr ⟨nonempty, rfl, inside, ends⟩]
    simp [Reading.andThen, word]

theorem readReference_iff (input : List Char) (expr : Expr) (rest : List Char) :
    readReference input = .found expr rest ↔
      ∃ label symbol, expr = .tag label symbol ∧ Spells input (.reference label symbol) rest := by
  constructor
  · intro read
    unfold readReference at read
    split at read
    · cases read
    · next c tail =>
        split at read
        · next marked =>
            rcases (Reading.map_found_iff _ _ _ _).mp read with ⟨label, found, rfl⟩
            rcases (readLabel_iff _ _ _).mp found with ⟨valid, rfl, ends⟩
            exact ⟨label, some c, rfl, .reference label (some c) rest valid marked ends⟩
        · rcases (Reading.map_found_iff _ _ _ _).mp read with ⟨label, found, rfl⟩
          rcases (readLabel_iff _ _ _).mp found with ⟨valid, split, ends⟩
          rw [split]
          exact ⟨label, none, rfl, .reference label none rest valid rfl ends⟩
  · rintro ⟨label, symbol, rfl, spelled⟩
    cases spelled with
    | reference _ _ _ valid marked ends =>
        have read := (readLabel_iff _ _ _).mpr ⟨valid, rfl, ends⟩
        cases symbol with
        | some c =>
            have isSymbol : isTypeSymbol c = true := marked
            simp only [Option.toList_some, List.cons_append, List.nil_append, readReference,
              isSymbol, ↓reduceIte, read]
            rfl
        | none =>
            rcases label_head label valid with ⟨c, tail, shape, part⟩
            rw [shape] at read
            simp only [Option.toList_none, List.nil_append, shape, List.cons_append, readReference,
              not_symbol_of_label c part, Bool.false_eq_true, ↓reduceIte]
            rw [← List.cons_append, read]
            rfl

/-- Reads one construct other than a group: a leaf of the tree. -/
theorem readLeaf_sound (input : List Char) (expr : Expr) (rest : List Char)
    (read : readLeaf input = .found expr rest) :
    ∃ word middle, Spells input word middle ∧ (∀ room, Derives .operand room [word] expr) ∧
      rest = skipGaps middle := by
  rcases (Reading.andThen_found_iff _ _ _ _).mp read with ⟨value, middle, leaf, same⟩
  cases same
  split at leaf
  · next input =>
      rcases readInvocation_sound input expr middle leaf with ⟨name, argument, rfl, spelled⟩
      exact ⟨_, middle, spelled, fun room => .pseudo room name argument, rfl⟩
  · rcases (readReference_iff _ _ _).mp leaf with ⟨label, symbol, rfl, spelled⟩
    exact ⟨_, middle, spelled, fun room => .reference room label symbol, rfl⟩

theorem readLeaf_pseudo (input : List Char) (name : String) (argument : Option Argument)
    (rest : List Char) (spelled : Spells input (.pseudo name argument) rest)
    (follows : rest.head? ≠ some ':') :
    readLeaf input = .found (.pseudo name argument) (skipGaps rest) := by
  cases spelled with
  | pseudo name input _ _ nonempty inside ends spelled =>
      have read := readInvocation_complete name input argument rest nonempty inside ends spelled
        follows
      simp only [readLeaf, pseudoMark, read, Reading.andThen]

theorem readLeaf_reference (input : List Char) (label : String) (symbol : Option Char)
    (rest : List Char) (spelled : Spells input (.reference label symbol) rest) :
    readLeaf input = .found (.tag label symbol) (skipGaps rest) := by
  have read := (readReference_iff input _ rest).mpr ⟨label, symbol, rfl, spelled⟩
  rw [readLeaf.eq_2, read]
  · rfl
  · -- The mark of a pseudo-tag starts no reference.
    rintro tail rfl
    cases read

/-! Keywords. -/

/-- The letters of a keyword. -/
def Word.keyword? : Word → Option (List Char)
  | .not => some ['N', 'O', 'T']
  | .and => some ['A', 'N', 'D']
  | .or => some ['O', 'R']
  | _ => none

theorem afterWord_iff (word input rest : List Char) :
    afterWord? word input = some rest ↔ input = word ++ rest := by
  induction word generalizing input with
  | nil => simp [afterWord?]
  | cons expected word ih =>
      cases input with
      | nil => simp [afterWord?]
      | cons c input =>
          by_cases same : c = expected
          · simp [afterWord?, same, ih]
          · simp [afterWord?, same]

theorem afterKeyword_iff (word input start : List Char) :
    afterKeyword? word input = some start ↔
      ∃ rest, skipGaps input = word ++ rest ∧ startsInLabel rest = false ∧
        start = skipGaps rest := by
  rw [afterKeyword?]
  cases after : afterWord? word (skipGaps input) with
  | none =>
      simp only [reduceCtorEq, false_iff, not_exists]
      rintro rest ⟨shape, _⟩
      rw [(afterWord_iff _ _ _).mpr shape] at after
      cases after
  | some rest =>
      have shape := (afterWord_iff _ _ _).mp after
      have only (other : List Char) (same : skipGaps input = word ++ other) : other = rest :=
        List.append_cancel_left (same.symm.trans shape)
      constructor
      · intro read
        cases ends : startsInLabel rest with
        | true => simp [ends] at read
        | false =>
            simp only [ends, Bool.false_eq_true, ↓reduceIte, Option.some.injEq] at read
            exact ⟨rest, shape, ends, read.symm⟩
      · rintro ⟨other, same, ends, rfl⟩
        rw [only other same] at ends ⊢
        simp [ends]

theorem isKeyword_iff (word : List Char) :
    isKeyword (String.ofList word) = true ↔
      word = ['A', 'N', 'D'] ∨ word = ['O', 'R'] ∨ word = ['N', 'O', 'T'] := by
  simp [isKeyword, keywords, ← String.toList_inj]

/-- A text that starts with a keyword starts with that keyword as its first word: a longer run of
label characters would be a label, and a label is no keyword. -/
theorem keyword_of_spells (keyword tail : List Char) (word : Word) (rest : List Char)
    (known : isKeyword (String.ofList keyword) = true) (ends : startsInLabel tail = false)
    (spelled : Spells (keyword ++ tail) word rest) : word.keyword? = some keyword := by
  have letters : keyword.all isLabelChar = true ∧ keyword ≠ [] := by
    rcases (isKeyword_iff keyword).mp known with rfl | rfl | rfl <;> decide
  have whole (run after : List Char) (same : keyword ++ tail = run ++ after)
      (inside : run.all isLabelChar = true) (outside : startsInLabel after = false) :
      keyword = run :=
    (run_unique isLabelChar keyword run tail after same letters.1 inside ends outside).1
  have head (c : Char) (after : List Char) (same : keyword ++ tail = c :: after) :
      isLabelChar c = true := by
    cases keyword with
    | nil => exact absurd rfl letters.2
    | cons first others =>
        cases same
        exact (Bool.and_eq_true _ _ ▸ letters.1 : _ ∧ _).1
  generalize same : keyword ++ tail = input at spelled
  cases spelled with
  | opening | closing | minus | pseudo => exact absurd (head _ _ same) (by decide)
  | not _ outside => rw [whole ['N', 'O', 'T'] rest same (by decide) outside]; rfl
  | and _ outside => rw [whole ['A', 'N', 'D'] rest same (by decide) outside]; rfl
  | or _ outside => rw [whole ['O', 'R'] rest same (by decide) outside]; rfl
  | reference label symbol _ valid marked outside =>
      cases symbol with
      | some c =>
          have part := head c _ same
          rw [((type_symbol_iff c).mp marked).2.1] at part
          cases part
      | none =>
          rcases (isLabel_iff label).mp valid with ⟨_, inside, proper⟩
          rw [whole label.toList rest same inside outside, String.ofList_toList, proper] at known
          cases known

/-- A keyword is found at the start of an input exactly when it is the first word. -/
theorem afterKeyword_spells (input : List Char) (word : Word) (rest : List Char)
    (spelled : Spells (skipGaps input) word rest) (keyword : List Char)
    (known : isKeyword (String.ofList keyword) = true) :
    afterKeyword? keyword input =
      if word.keyword? = some keyword then some (skipGaps rest) else none := by
  split
  · next same =>
      rw [afterKeyword_iff]
      generalize skipGaps input = start at spelled
      cases spelled <;> cases same <;> exact ⟨rest, rfl, ‹_›, rfl⟩
  · next different =>
      cases after : afterKeyword? keyword input with
      | none => rfl
      | some start =>
          rcases (afterKeyword_iff _ _ _).mp after with ⟨tail, shape, ends, _⟩
          rw [shape] at spelled
          exact absurd (keyword_of_spells keyword tail word rest known ends spelled) different

theorem afterNegation_spells (input : List Char) (word : Word) (rest : List Char)
    (spelled : Spells (skipGaps input) word rest) :
    afterNegation? input =
      if word = .not ∨ word = .minus then some (skipGaps rest) else none := by
  rw [afterNegation?, afterKeyword_spells input word rest spelled ['N', 'O', 'T'] (by decide)]
  generalize skipGaps input = start at spelled
  cases word with
  | reference label symbol =>
      rcases reference_head start label symbol rest spelled with ⟨c, tail, rfl, _, free⟩
      have unsigned : c ≠ '-' := fun same => free (by simp [same, reserved])
      simp [Word.keyword?, afterWord?, unsigned]
  | _ => cases spelled; simp [Word.keyword?, afterWord?, pseudoMark]

end Gallery.Query
