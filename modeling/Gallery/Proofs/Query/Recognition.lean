import Gallery.Proofs.Query.WordReading

/-!
The reader of queries accepts exactly the grammar and builds its trees. What is read derives, by
induction on the room that is left for nesting; what derives is read, by induction on the
derivation. A chain is followed as it grows: its reader has always built a prefix of it and goes on
from the rest.
-/

namespace Gallery.Query

/-! What is read derives. -/

/-- The expression has been read from the start of the input, up to the rest. -/
def Parsed (category : Category) (room : Nat) (input : List Char) (expr : Expr)
    (rest : List Char) : Prop :=
  ∃ words middle, Sentence input words middle ∧ Derives category room words expr ∧
    rest = skipGaps middle

theorem parsed_skipGaps (category : Category) (room : Nat) (input : List Char) (expr : Expr)
    (rest : List Char) (parsed : Parsed category room (skipGaps input) expr rest) :
    Parsed category room input expr rest := by
  rcases parsed with ⟨words, middle, sentence, derives, same⟩
  have nonempty := derives_nonempty category room words expr derives
  exact ⟨words, middle, (sentence_skipGaps input words middle nonempty).mp sentence, derives, same⟩

theorem parsed_joined (room : Nat) (input : List Char) (left : Expr) (middle start : List Char)
    (right : Expr) (rest : List Char) (first : Parsed .all room input left middle)
    (separated : (afterKeyword? ['A', 'N', 'D'] middle).getD middle = start)
    (second : Parsed .operand room start right rest) :
    Parsed .all room input (.and left right) rest := by
  rcases first with ⟨words, after, sentence, derives, rfl⟩
  cases keyword : afterKeyword? ['A', 'N', 'D'] (skipGaps after) with
  | none =>
      rw [keyword, Option.getD_none] at separated
      subst separated
      rcases parsed_skipGaps .operand room after right rest second with
        ⟨others, last, following, inner, same⟩
      exact ⟨words ++ others, last,
        sentence_append input words others after last sentence following,
        .beside room words others left right derives inner, same⟩
  | some begin =>
      rw [keyword, Option.getD_some] at separated
      subst separated
      rcases (afterKeyword_iff _ _ _).mp keyword with ⟨tail, shape, ends, rfl⟩
      rcases parsed_skipGaps .operand room tail right rest second with
        ⟨others, last, following, inner, same⟩
      rw [skipGaps_idem] at shape
      have joined := (sentence_cons_iff after .and others last).mpr
        ⟨tail, shape ▸ .and tail ends, following⟩
      exact ⟨words ++ .and :: others, last,
        sentence_append input words _ after last sentence joined,
        .joined room words others left right derives inner, same⟩

theorem parsed_either (room : Nat) (input : List Char) (left : Expr) (middle start : List Char)
    (right : Expr) (rest : List Char) (first : Parsed .query room input left middle)
    (separated : afterKeyword? ['O', 'R'] middle = some start)
    (second : Parsed .all room start right rest) :
    Parsed .query room input (.or left right) rest := by
  rcases first with ⟨words, after, sentence, derives, rfl⟩
  rcases (afterKeyword_iff _ _ _).mp separated with ⟨tail, shape, ends, rfl⟩
  rcases parsed_skipGaps .all room tail right rest second with
    ⟨others, last, following, inner, same⟩
  rw [skipGaps_idem] at shape
  have either := (sentence_cons_iff after .or others last).mpr
    ⟨tail, shape ▸ .or tail ends, following⟩
  exact ⟨words ++ .or :: others, last, sentence_append input words _ after last sentence either,
    .either room words others left right derives inner, same⟩

/-- A chain keeps every property that each further operand keeps. -/
theorem readChain_found (separator : List Char → Option (List Char))
    (item : List Char → Reading Expr) (join : Expr → Expr → Expr)
    (Holds : Expr → List Char → Prop)
    (step : ∀ left middle start right rest, Holds left middle → separator middle = some start →
      item start = .found right rest → Holds (join left right) rest)
    (limit : Nat) (left : Expr) (middle : List Char) (expr : Expr) (rest : List Char)
    (holds : Holds left middle)
    (read : readChain separator item join limit left middle = .found expr rest) :
    Holds expr rest := by
  induction limit generalizing left middle with
  | zero =>
      cases read
      exact holds
  | succ limit ih =>
      rw [readChain] at read
      split at read
      · cases read
        exact holds
      · next start separated =>
          split at read
          · next right after found =>
              exact ih _ _ (step left middle start right after holds separated found) read
          · cases read
            exact holds
          · cases read

theorem readAll_sound (limit room : Nat) (operand : List Char → Reading Expr)
    (sound : ∀ input expr rest, operand input = .found expr rest →
      Parsed .operand room input expr rest)
    (input : List Char) (expr : Expr) (rest : List Char)
    (read : readAll limit operand input = .found expr rest) :
    Parsed .all room input expr rest := by
  rcases (Reading.andThen_found_iff _ _ _ _).mp read with ⟨left, middle, first, chain⟩
  refine readChain_found _ _ _ (Parsed .all room input) ?_ limit left middle expr rest ?_ chain
  · intro left middle start right rest parsed separated found
    exact parsed_joined room input left middle start right rest parsed (Option.some.inj separated)
      (sound start right rest found)
  · rcases sound input left middle first with ⟨words, after, sentence, derives, same⟩
    exact ⟨words, after, sentence, .single room words left derives, same⟩

theorem readQuery_sound (limit room : Nat) (operand : List Char → Reading Expr)
    (sound : ∀ input expr rest, operand input = .found expr rest →
      Parsed .operand room input expr rest)
    (input : List Char) (expr : Expr) (rest : List Char)
    (read : readQuery limit operand input = .found expr rest) :
    Parsed .query room input expr rest := by
  rcases (Reading.andThen_found_iff _ _ _ _).mp read with ⟨left, middle, first, chain⟩
  refine readChain_found _ _ _ (Parsed .query room input) ?_ limit left middle expr rest ?_ chain
  · intro left middle start right rest parsed separated found
    exact parsed_either room input left middle start right rest parsed separated
      (readAll_sound limit room operand sound start right rest found)
  · rcases readAll_sound limit room operand sound input left middle first with
      ⟨words, after, sentence, derives, same⟩
    exact ⟨words, after, sentence, .alone room words left derives, same⟩

theorem afterNegation_sound (input start : List Char)
    (negated : afterNegation? input = some start) :
    ∃ word middle, Spells (skipGaps input) word middle ∧ (word = .not ∨ word = .minus) ∧
      start = skipGaps middle := by
  rw [afterNegation?] at negated
  cases keyword : afterKeyword? ['N', 'O', 'T'] input with
  | some begin =>
      rw [keyword] at negated
      cases negated
      rcases (afterKeyword_iff _ _ _).mp keyword with ⟨tail, shape, ends, rfl⟩
      exact ⟨.not, tail, shape ▸ .not tail ends, .inl rfl, rfl⟩
  | none =>
      rw [keyword] at negated
      rcases Option.map_eq_some_iff.mp negated with ⟨tail, minus, rfl⟩
      rw [(afterWord_iff _ _ _).mp minus]
      exact ⟨.minus, tail, .minus tail, .inr rfl, rfl⟩

theorem readGroup_sound (limit room : Nat) (operand : List Char → Reading Expr)
    (sound : ∀ input expr rest, operand input = .found expr rest →
      Parsed .operand room input expr rest)
    (body : List Char) (expr : Expr) (rest : List Char)
    (read : readGroup (readQuery limit operand) body = .found expr rest) :
    Parsed .operand (room + 1) ('(' :: body) expr rest := by
  rw [readGroup] at read
  split at read
  · next expr middle found =>
      split at read
      · next tail closing =>
          cases read
          rcases readQuery_sound limit room operand sound body _ middle found with
            ⟨words, last, sentence, derives, rfl⟩
          rw [skipGaps_idem] at closing
          have closed := (sentence_cons_iff last .closing [] tail).mpr
            ⟨tail, closing ▸ .closing tail, .nil tail⟩
          refine ⟨.opening :: (words ++ [.closing]), tail, ?_, .group room words _ derives, rfl⟩
          exact .cons [] ('(' :: body) .opening body _ tail rfl (.opening body)
            (sentence_append body words [.closing] last tail sentence closed)
      · cases read
  · cases read
  · cases read

theorem readOperand_sound (limit room : Nat) (input : List Char) (expr : Expr) (rest : List Char)
    (read : readOperand limit room input = .found expr rest) :
    Parsed .operand room input expr rest := by
  induction room using Nat.strongRecOn generalizing input expr rest with
  | ind room ih =>
      revert read
      fun_cases readOperand limit room input with
      | case1 | case3 =>
          intro read
          cases read
      | case2 _ start room negated =>
          intro read
          rcases (Reading.map_found_iff _ _ _ _).mp read with ⟨value, found, rfl⟩
          rw [Reading.required_found_iff] at found
          rcases afterNegation_sound input start negated with ⟨word, middle, spelled, sign, rfl⟩
          have parsed := parsed_skipGaps _ _ _ _ _ (ih room (Nat.lt_succ_self room) _ _ _ found)
          rcases parsed with ⟨words, last, sentence, derives, same⟩
          have whole := (sentence_cons_iff input word words last).mpr ⟨middle, spelled, sentence⟩
          rcases sign with rfl | rfl
          · exact ⟨_, last, whole, .not room words value derives, same⟩
          · exact ⟨_, last, whole, .minus room words value derives, same⟩
      | case4 _ plain body room shape =>
          intro read
          have parsed := readGroup_sound limit room (readOperand limit room)
            (ih room (Nat.lt_succ_self room)) body expr rest read
          exact parsed_skipGaps _ _ _ _ _ (shape ▸ parsed)
      | case5 =>
          intro read
          rcases readLeaf_sound _ _ _ read with ⟨word, middle, spelled, derives, same⟩
          exact ⟨[word], middle, (sentence_cons_iff input word [] middle).mpr
            ⟨middle, spelled, .nil middle⟩, derives room, same⟩

/-! What derives is read. -/

/-- Where a chain of operands that stand side by side ends. -/
def Stop (input : List Char) : Prop :=
  Text.isBlankText input = true ∨
    ∃ word rest, Spells (skipGaps input) word rest ∧ (word = .closing ∨ word = .or)

/-- Where a whole query ends. -/
def Final (input : List Char) : Prop :=
  Text.isBlankText input = true ∨ ∃ rest, Spells (skipGaps input) .closing rest

theorem stop_of_final (input : List Char) (final : Final input) : Stop input := by
  rcases final with blank | ⟨rest, spelled⟩
  · exact .inl blank
  · exact .inr ⟨.closing, rest, spelled, .inl rfl⟩

theorem isBlankText_skipGaps (input : List Char) :
    Text.isBlankText (skipGaps input) = Text.isBlankText input := by
  rcases exists_gap input with ⟨gap, separators, split⟩
  have blank : gap.all Text.isBlank = true :=
    List.all_eq_true.mpr fun c member => blank_of_gap c (List.all_eq_true.mp separators c member)
  calc Text.isBlankText (skipGaps input)
      = Text.isBlankText (gap ++ skipGaps input) := by
        rw [Text.isBlankText, Text.isBlankText, List.all_append, blank, Bool.true_and]
    _ = Text.isBlankText input := by rw [← split]

theorem blank_keyword (input : List Char) (blank : Text.isBlankText input = true)
    (keyword : List Char) (known : isKeyword (String.ofList keyword) = true) :
    afterKeyword? keyword input = none := by
  rw [← isBlankText_skipGaps] at blank
  cases after : afterKeyword? keyword input with
  | none => rfl
  | some start =>
      rcases (afterKeyword_iff _ _ _).mp after with ⟨rest, shape, _⟩
      rw [shape, Text.isBlankText, List.all_append, Bool.and_eq_true] at blank
      rcases (isKeyword_iff keyword).mp known with rfl | rfl | rfl <;>
        exact absurd blank.1 (by decide)

theorem stop_keyword (input : List Char) (stop : Stop input) (keyword : List Char)
    (known : isKeyword (String.ofList keyword) = true) (other : keyword ≠ ['O', 'R']) :
    afterKeyword? keyword input = none := by
  rcases stop with blank | ⟨word, rest, spelled, rfl | rfl⟩
  · exact blank_keyword input blank keyword known
  · exact afterKeyword_spells input .closing rest spelled keyword known
  · rw [afterKeyword_spells input .or rest spelled keyword known]
    simp [Word.keyword?, other.symm]

theorem final_or (input : List Char) (final : Final input) :
    afterKeyword? ['O', 'R'] input = none := by
  rcases final with blank | ⟨rest, spelled⟩
  · exact blank_keyword input blank ['O', 'R'] (by decide)
  · exact afterKeyword_spells input .closing rest spelled ['O', 'R'] (by decide)

theorem stop_negation (input : List Char) (stop : Stop input) : afterNegation? input = none := by
  rcases stop with blank | ⟨word, rest, spelled, rfl | rfl⟩
  · rw [afterNegation?, blank_keyword input blank ['N', 'O', 'T'] (by decide)]
    rw [← isBlankText_skipGaps] at blank
    cases shape : skipGaps input with
    | nil => rfl
    | cons c rest =>
        rw [shape, Text.isBlankText, List.all_cons, Bool.and_eq_true] at blank
        have unsigned : c ≠ '-' := fun same => absurd (same ▸ blank.1) (by decide)
        simp [afterWord?, unsigned]
  · exact afterNegation_spells input .closing rest spelled
  · exact afterNegation_spells input .or rest spelled

theorem readReference_absent (c : Char) (rest : List Char) (unmarked : isTypeSymbol c = false)
    (outside : isLabelChar c = false) :
    readReference (c :: rest) = .absent (.missing (c :: rest)) := by
  simp [readReference, unmarked, readLabel, readRun, outside, Reading.map, Reading.andThen]

/-- At the start of the rest of a chain that has ended stands neither a group nor a leaf. -/
theorem stop_leaf (input : List Char) (stop : Stop input) :
    (∃ error, readLeaf (skipGaps input) = .absent error) ∧
      ∀ body, skipGaps input ≠ '(' :: body := by
  rcases stop with blank | ⟨word, rest, spelled, sort⟩
  · rw [← isBlankText_skipGaps] at blank
    cases shape : skipGaps input with
    | nil => exact ⟨⟨_, rfl⟩, by simp⟩
    | cons c rest =>
        rw [shape, Text.isBlankText, List.all_cons, Bool.and_eq_true] at blank
        have unmarked : isTypeSymbol c = false := by simp [isTypeSymbol, blank.1]
        have plain : c ≠ '#' ∧ c ≠ '(' := by
          constructor <;> exact fun same => absurd (same ▸ blank.1) (by decide)
        constructor
        · rw [readLeaf.eq_2 _ fun tail same => plain.1 (List.cons.inj same).1,
            readReference_absent c rest unmarked (not_label_of_blank c blank.1)]
          exact ⟨_, rfl⟩
        · exact fun body same => plain.2 (List.cons.inj same).1
  · generalize skipGaps input = start at spelled
    rcases sort with rfl | rfl
    · cases spelled
      exact ⟨⟨_, rfl⟩, by simp⟩
    · cases spelled with
      | or _ ends =>
          have run := (readRun_iff isLabelChar ('O' :: 'R' :: rest) ['O', 'R'] rest).mpr
            ⟨by decide, rfl, by decide, ends⟩
          have keyword : isKeyword (String.ofList ['O', 'R']) = true := by decide
          have unmarked : isTypeSymbol 'O' = false := by decide
          refine ⟨⟨.missing ('O' :: 'R' :: rest), ?_⟩, by simp⟩
          rw [readLeaf.eq_2 _ fun tail same => by simp at same]
          simp [readReference, unmarked, readLabel, run, keyword, Reading.map, Reading.andThen]

theorem stop_absent (limit room : Nat) (input : List Char) (stop : Stop input) :
    ∃ error, readOperand limit room input = .absent error := by
  rcases stop_leaf input stop with ⟨absent, plain⟩
  rw [readOperand.eq_5 limit input room (stop_negation input stop)
    (fun body same => absurd same (plain body)) (fun body _ same => absurd same (plain body))]
  exact absent

/-- The keyword `AND`, which may be left out, between two operands. -/
def afterJoint (input : List Char) : Option (List Char) :=
  some ((afterKeyword? ['A', 'N', 'D'] input).getD input)

/-- `Reads limit category room input expr rest`: the reader of the category builds the expression
and, when the category is a chain, goes on from the rest with room for all that is left. -/
def Reads (limit : Nat) (category : Category) (room : Nat) (input : List Char) (expr : Expr)
    (rest : List Char) : Prop :=
  match category with
  | .operand => readOperand limit room input = .found expr rest
  | .all => ∃ more, rest.length ≤ more ∧
      readAll limit (readOperand limit room) input =
        readChain afterJoint (readOperand limit room) .and more expr rest
  | .query => ∃ more, rest.length ≤ more ∧
      readQuery limit (readOperand limit room) input =
        readChain (afterKeyword? ['O', 'R']) (readAll limit (readOperand limit room)) .or more
          expr rest

/-- What may follow a category for its reader to stop there. -/
def Follows (category : Category) (rest : List Char) : Prop :=
  match category with
  | .operand | .all => rest.head? ≠ some ':'
  | .query => Stop rest

theorem readChain_none (separator : List Char → Option (List Char))
    (item : List Char → Reading Expr) (join : Expr → Expr → Expr) (limit : Nat) (expr : Expr)
    (rest : List Char) (ends : separator rest = none) :
    readChain separator item join limit expr rest = .found expr rest := by
  cases limit with
  | zero => rfl
  | succ limit => rw [readChain, ends]

/-- A chain of operands ends where no operand starts. -/
theorem readAll_stop (limit room : Nat) (input : List Char) (expr : Expr) (rest : List Char)
    (reads : Reads limit .all room input expr (skipGaps rest)) (stop : Stop rest) :
    readAll limit (readOperand limit room) input = .found expr (skipGaps rest) := by
  rcases reads with ⟨more, _, read⟩
  rw [read]
  cases more with
  | zero => rfl
  | succ more =>
      have stopped : Stop (skipGaps rest) := by
        rw [Stop, isBlankText_skipGaps, skipGaps_idem]
        exact stop
      rcases stop_absent limit room (skipGaps rest) stopped with ⟨error, absent⟩
      rw [readChain, afterJoint, stop_keyword _ stopped _ (by decide) (by decide)]
      simp only [Option.getD_none, absent]

theorem readQuery_final (limit room : Nat) (input : List Char) (expr : Expr) (rest : List Char)
    (reads : Reads limit .query room input expr (skipGaps rest)) (final : Final rest) :
    readQuery limit (readOperand limit room) input = .found expr (skipGaps rest) := by
  rcases reads with ⟨more, _, read⟩
  have ended : Final (skipGaps rest) := by
    rw [Final, isBlankText_skipGaps, skipGaps_idem]
    exact final
  rw [read, readChain_none _ _ _ more expr _ (final_or _ ended)]

theorem head_of_spells (input : List Char) (word : Word) (rest : List Char)
    (spelled : Spells (skipGaps input) word rest) : input.head? ≠ some ':' := by
  intro colon
  rcases spells_head _ word rest spelled with ⟨c, tail, shape, _, other⟩
  cases input with
  | nil => cases colon
  | cons first tail =>
      cases colon
      have kept : skipGaps (':' :: tail) = ':' :: tail := skipGaps_self _ rfl
      rw [kept] at shape
      exact other (List.cons.inj shape).1.symm

theorem head_of_stop (rest : List Char) (stop : Stop rest) : rest.head? ≠ some ':' := by
  rcases stop with blank | ⟨word, after, spelled, _⟩
  · intro colon
    cases rest with
    | nil => cases colon
    | cons c tail =>
        cases colon
        rw [Text.isBlankText, List.all_cons, Bool.and_eq_true] at blank
        exact absurd blank.1 (by decide)
  · exact head_of_spells rest word after spelled

theorem spells_after_shorter (input : List Char) (word : Word) (rest : List Char)
    (spelled : Spells (skipGaps input) word rest) :
    (skipGaps rest).length < (skipGaps input).length :=
  Nat.lt_of_le_of_lt (skipGaps_length rest) (spells_shorter _ word rest spelled)

theorem sentence_after_shorter (input : List Char) (words : List Word) (rest : List Char)
    (sentence : Sentence (skipGaps input) words rest) (nonempty : words ≠ []) :
    (skipGaps rest).length < (skipGaps input).length := by
  have := sentence_shorter _ words rest sentence
  have := List.length_pos_iff.mpr nonempty
  have := skipGaps_length rest
  omega

/-- A further operand is read into the chain, which has room for the rest again. -/
theorem readChain_grows (separator : List Char → Option (List Char))
    (item : List Char → Reading Expr) (join : Expr → Expr → Expr) (more : Nat) (left : Expr)
    (middle start : List Char) (right : Expr) (rest : List Char)
    (separated : separator middle = some start) (found : item start = .found right rest)
    (enough : middle.length ≤ more) (shorter : rest.length < middle.length) :
    ∃ fewer, rest.length ≤ fewer ∧
      readChain separator item join more left middle =
        readChain separator item join fewer (join left right) rest := by
  cases more with
  | zero => omega
  | succ fewer =>
      refine ⟨fewer, by omega, ?_⟩
      rw [readChain, separated]
      simp only [found]

theorem reads_joined (limit room : Nat) (input : List Char) (left : Expr)
    (middle start : List Char) (right : Expr) (rest : List Char)
    (reads : Reads limit .all room input left middle)
    (separated : afterJoint middle = some start)
    (found : readOperand limit room start = .found right rest)
    (shorter : rest.length < middle.length) :
    Reads limit .all room input (.and left right) rest := by
  rcases reads with ⟨more, enough, read⟩
  rcases readChain_grows _ _ .and more left middle start right rest separated found enough shorter
    with ⟨fewer, room, grown⟩
  exact ⟨fewer, room, read.trans grown⟩

theorem reads_either (limit room : Nat) (input : List Char) (left : Expr)
    (middle start : List Char) (right : Expr) (rest : List Char)
    (reads : Reads limit .query room input left middle)
    (separated : afterKeyword? ['O', 'R'] middle = some start)
    (found : readAll limit (readOperand limit room) start = .found right rest)
    (shorter : rest.length < middle.length) :
    Reads limit .query room input (.or left right) rest := by
  rcases reads with ⟨more, enough, read⟩
  rcases readChain_grows _ _ .or more left middle start right rest separated found enough shorter
    with ⟨fewer, room, grown⟩
  exact ⟨fewer, room, read.trans grown⟩

theorem reads_negation (limit room : Nat) (input : List Char) (word : Word) (start : List Char)
    (expr : Expr) (rest : List Char) (spelled : Spells (skipGaps input) word start)
    (sign : word = .not ∨ word = .minus)
    (reads : Reads limit .operand room (skipGaps start) expr rest) :
    Reads limit .operand (room + 1) input (.not expr) rest := by
  have negated := afterNegation_spells input word start spelled
  rw [if_pos sign] at negated
  have read : readOperand limit room (skipGaps start) = .found expr rest := reads
  rw [Reads, readOperand.eq_2 limit input (skipGaps start) room negated, read]
  rfl

theorem reads_leaf (limit room : Nat) (input : List Char) (word : Word) (start : List Char)
    (expr : Expr) (rest : List Char) (spelled : Spells (skipGaps input) word start)
    (signless : ¬(word = .not ∨ word = .minus)) (ungrouped : word ≠ .opening)
    (read : readLeaf (skipGaps input) = .found expr rest) :
    Reads limit .operand room input expr rest := by
  have plain := afterNegation_spells input word start spelled
  rw [if_neg signless] at plain
  have noGroup (body : List Char) (shape : skipGaps input = '(' :: body) : False :=
    ungrouped (opening_of_spells body word start (shape ▸ spelled))
  rw [Reads, readOperand.eq_5 limit input room plain (fun body same _ => noGroup body same)
    (fun body _ same _ => noGroup body same), read]

theorem reads_group (limit room : Nat) (input body : List Char) (expr : Expr)
    (middle rest : List Char) (opening : Spells (skipGaps input) .opening body)
    (closing : Spells (skipGaps middle) .closing rest)
    (reads : Reads limit .query room body expr (skipGaps middle)) :
    Reads limit .operand (room + 1) input expr (skipGaps rest) := by
  have plain := afterNegation_spells input .opening body opening
  have read := readQuery_final limit room body expr middle reads (.inr ⟨rest, closing⟩)
  have opened : skipGaps input = '(' :: body := by
    generalize skipGaps input = start at opening
    cases opening
    rfl
  have closed : skipGaps (skipGaps middle) = ')' :: rest := by
    rw [skipGaps_idem]
    generalize skipGaps middle = start at closing
    cases closing
    rfl
  rw [Reads, readOperand.eq_4 limit input body room plain opened, readGroup, read]
  simp only [closed]

theorem rest_short (limit : Nat) (input : List Char) (words : List Word) (rest : List Char)
    (sentence : Sentence input words rest) (short : input.length ≤ limit) :
    (skipGaps rest).length ≤ limit := by
  have := sentence_shorter input words rest sentence
  have := skipGaps_length rest
  omega

/-- Wherever the words are spelled and the reader of the category stops after them, it finds the
expression. -/
def Completes (limit : Nat) (category : Category) (room : Nat) (words : List Word) (expr : Expr) :
    Prop :=
  ∀ input rest : List Char, input.length ≤ limit → Sentence input words rest →
    Follows category rest → Reads limit category room input expr (skipGaps rest)

section Productions

variable (limit room : Nat) (words others : List Word) (left right expr : Expr)

theorem completes_alone (part : Completes limit .all room words expr) :
    Completes limit .query room words expr := by
  intro input rest short sentence follows
  have reads := part input rest short sentence (head_of_stop rest follows)
  refine ⟨limit, rest_short limit input words rest sentence short, ?_⟩
  rw [readQuery, readAll_stop limit room input expr rest reads follows]
  rfl

theorem completes_single (part : Completes limit .operand room words expr) :
    Completes limit .all room words expr := by
  intro input rest short sentence follows
  have read : readOperand limit room input = .found expr (skipGaps rest) :=
    part input rest short sentence follows
  refine ⟨limit, rest_short limit input words rest sentence short, ?_⟩
  rw [readAll, read]
  rfl

theorem completes_either (nonempty : others ≠ [])
    (first : Completes limit .query room words left)
    (second : Completes limit .all room others right) :
    Completes limit .query room (words ++ .or :: others) (.or left right) := by
  intro input rest short sentence follows
  rcases sentence_split input words (.or :: others) rest sentence with ⟨middle, before, after⟩
  rcases (sentence_cons_iff _ _ _ _).mp after with ⟨start, spelled, following⟩
  rw [← sentence_skipGaps start others rest nonempty] at following
  have middleShort := rest_short limit input words middle before short
  have startShort := spells_after_shorter middle .or start spelled
  have restShort := sentence_after_shorter start others rest following nonempty
  have found := first input middle short before (.inr ⟨.or, start, spelled, .inr rfl⟩)
  have further := second (skipGaps start) rest (by omega) following (head_of_stop rest follows)
  have separated := afterKeyword_spells (skipGaps middle) .or start (by rwa [skipGaps_idem])
    ['O', 'R'] (by decide)
  exact reads_either limit room input left _ _ right _ found separated
    (readAll_stop limit room (skipGaps start) right rest further follows) (by omega)

/-- Between operands that stand beside each other nothing is skipped but gaps. -/
theorem afterJoint_beside (middle : List Char) (word : Word) (start : List Char)
    (spelled : Spells (skipGaps middle) word start) (opens : word ≠ .and) :
    afterJoint (skipGaps middle) = some (skipGaps middle) := by
  have other : word.keyword? ≠ some ['A', 'N', 'D'] := by
    intro same
    cases word with
    | and => exact opens rfl
    | or | not | minus | opening | closing | pseudo | reference => simp [Word.keyword?] at same
  rw [afterJoint, afterKeyword_spells (skipGaps middle) word start (by rwa [skipGaps_idem])
    ['A', 'N', 'D'] (by decide), if_neg other]
  rfl

theorem completes_beside (word : Word) (further : List Word) (shape : others = word :: further)
    (opens : word ≠ .and) (first : Completes limit .all room words left)
    (second : Completes limit .operand room others right) :
    Completes limit .all room (words ++ others) (.and left right) := by
  intro input rest short sentence follows
  have nonempty : others ≠ [] := by simp [shape]
  rcases sentence_split input words others rest sentence with ⟨middle, before, following⟩
  rw [shape] at following
  rcases (sentence_cons_iff _ _ _ _).mp following with ⟨start, spelled, _⟩
  rw [← shape, ← sentence_skipGaps middle others rest nonempty] at following
  have middleShort := rest_short limit input words middle before short
  have restShort := sentence_after_shorter middle others rest following nonempty
  have found := first input middle short before (head_of_spells middle word start spelled)
  have further := second (skipGaps middle) rest middleShort following follows
  have separated := afterJoint_beside middle word start spelled opens
  exact reads_joined limit room input left _ _ right _ found separated further restShort

theorem completes_joined (nonempty : others ≠ []) (first : Completes limit .all room words left)
    (second : Completes limit .operand room others right) :
    Completes limit .all room (words ++ .and :: others) (.and left right) := by
  intro input rest short sentence follows
  rcases sentence_split input words (.and :: others) rest sentence with ⟨middle, before, after⟩
  rcases (sentence_cons_iff _ _ _ _).mp after with ⟨start, spelled, following⟩
  rw [← sentence_skipGaps start others rest nonempty] at following
  have middleShort := rest_short limit input words middle before short
  have startShort := spells_after_shorter middle .and start spelled
  have restShort := sentence_after_shorter start others rest following nonempty
  have found := first input middle short before (head_of_spells middle .and start spelled)
  have further := second (skipGaps start) rest (by omega) following follows
  have separated : afterJoint (skipGaps middle) = some (skipGaps start) := by
    rw [afterJoint, afterKeyword_spells (skipGaps middle) .and start (by rwa [skipGaps_idem])
      ['A', 'N', 'D'] (by decide)]
    rfl
  exact reads_joined limit room input left _ _ right _ found separated further (by omega)

theorem completes_negation (word : Word) (sign : word = .not ∨ word = .minus)
    (nonempty : words ≠ []) (part : Completes limit .operand room words expr) :
    Completes limit .operand (room + 1) (word :: words) (.not expr) := by
  intro input rest short sentence follows
  rcases (sentence_cons_iff _ _ _ _).mp sentence with ⟨start, spelled, following⟩
  rw [← sentence_skipGaps start words rest nonempty] at following
  have startShort := spells_after_shorter input word start spelled
  have inputShort := skipGaps_length input
  exact reads_negation limit room input word start expr _ spelled sign
    (part (skipGaps start) rest (by omega) following follows)

theorem completes_group (part : Completes limit .query room words expr) :
    Completes limit .operand (room + 1) (.opening :: (words ++ [.closing])) expr := by
  intro input rest short sentence _
  rcases (sentence_cons_iff _ _ _ _).mp sentence with ⟨body, spelled, following⟩
  rcases sentence_split body words [.closing] rest following with ⟨middle, before, after⟩
  rcases (sentence_cons_iff _ _ _ _).mp after with ⟨tail, closing, last⟩
  cases last
  have bodyShort := spells_shorter _ .opening body spelled
  have inputShort := skipGaps_length input
  exact reads_group limit room input body expr middle rest spelled closing
    (part body middle (by omega) before (stop_of_final middle (.inr ⟨rest, closing⟩)))

theorem completes_pseudo (name : String) (argument : Option Argument) :
    Completes limit .operand room [.pseudo name argument] (.pseudo name argument) := by
  intro input rest _ sentence follows
  rcases (sentence_cons_iff _ _ _ _).mp sentence with ⟨tail, spelled, last⟩
  cases last
  exact reads_leaf limit room input _ rest _ _ spelled (by simp) (by simp)
    (readLeaf_pseudo _ name argument rest spelled follows)

theorem completes_reference (label : String) (symbol : Option Char) :
    Completes limit .operand room [.reference label symbol] (.tag label symbol) := by
  intro input rest _ sentence _
  rcases (sentence_cons_iff _ _ _ _).mp sentence with ⟨tail, spelled, last⟩
  cases last
  exact reads_leaf limit room input _ rest _ _ spelled (by simp) (by simp)
    (readLeaf_reference _ label symbol rest spelled)

end Productions

/-- Whatever the grammar derives is read, in every context in which its reader stops. -/
theorem derives_complete (limit : Nat) (category : Category) (room : Nat) (words : List Word)
    (expr : Expr) (derives : Derives category room words expr) :
    Completes limit category room words expr := by
  induction derives with
  | alone room words expr part ih => exact completes_alone limit room words expr ih
  | single room words expr part ih => exact completes_single limit room words expr ih
  | either room words others left right first second ihFirst ihSecond =>
      have nonempty := derives_nonempty _ _ _ _ second
      exact completes_either limit room words others left right nonempty ihFirst ihSecond
  | beside room words others left right first second ihFirst ihSecond =>
      rcases derives_first _ _ _ _ second with ⟨word, further, shape, opens⟩
      exact completes_beside limit room words others left right word further shape opens.2.1 ihFirst
        ihSecond
  | joined room words others left right first second ihFirst ihSecond =>
      have nonempty := derives_nonempty _ _ _ _ second
      exact completes_joined limit room words others left right nonempty ihFirst ihSecond
  | not room words expr part ih =>
      have nonempty := derives_nonempty _ _ _ _ part
      exact completes_negation limit room words expr .not (.inl rfl) nonempty ih
  | minus room words expr part ih =>
      have nonempty := derives_nonempty _ _ _ _ part
      exact completes_negation limit room words expr .minus (.inr rfl) nonempty ih
  | group room words expr part ih => exact completes_group limit room words expr ih
  | pseudo room name argument => exact completes_pseudo limit room name argument
  | reference room label symbol => exact completes_reference limit room label symbol

theorem trimStart_eq_nil_iff (input : List Char) :
    Text.trimStart input = [] ↔ Text.isBlankText input = true := by
  induction input with
  | nil => simp [Text.trimStart, Text.isBlankText]
  | cons c input ih =>
      rw [Text.trimStart, Text.isBlankText] at ih ⊢
      cases blank : Text.isBlank c <;> simp [blank, ih]

theorem parse_sound (text : String) (expr : Expr) (parsed : parse text = .ok expr) :
    ∃ words rest, Sentence text.toList words rest ∧ Text.isBlankText rest = true ∧
      Derives .query maxNesting words expr := by
  rw [parse] at parsed
  split at parsed
  · next value left read =>
      split at parsed
      · next trimmed =>
          cases parsed
          rcases readQuery_sound _ maxNesting _ (readOperand_sound _ maxNesting) _ _ _ read with
            ⟨words, rest, sentence, derives, rfl⟩
          refine ⟨words, rest, sentence, ?_, derives⟩
          rwa [← isBlankText_skipGaps, ← trimStart_eq_nil_iff]
      · cases parsed
      · cases parsed
  · cases parsed
  · cases parsed

theorem parse_complete (text : String) (words : List Word) (rest : List Char) (expr : Expr)
    (sentence : Sentence text.toList words rest) (blank : Text.isBlankText rest = true)
    (derives : Derives .query maxNesting words expr) : parse text = .ok expr := by
  have final : Final rest := .inl blank
  have reads := derives_complete text.toList.length .query maxNesting words expr derives
    text.toList rest (Nat.le_refl _) sentence (stop_of_final rest final)
  rw [← isBlankText_skipGaps, ← trimStart_eq_nil_iff] at blank
  rw [parse]
  simp only [readQuery_final _ _ _ expr rest reads final, blank]

/-- The reader accepts exactly the sentences of the grammar, with white space after them, and builds
the tree the grammar gives them. -/
theorem parse_ok_iff_derives (text : String) (expr : Expr) :
    parse text = .ok expr ↔
      ∃ words rest, Sentence text.toList words rest ∧ Text.isBlankText rest = true ∧
        Derives .query maxNesting words expr := by
  constructor
  · exact parse_sound text expr
  · rintro ⟨words, rest, sentence, blank, derives⟩
    exact parse_complete text words rest expr sentence blank derives

end Gallery.Query
