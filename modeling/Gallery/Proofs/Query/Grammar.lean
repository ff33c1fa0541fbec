import Gallery.Proofs.Query.Lexeme

/-!
The grammar of queries, said without a reader. A text is first cut into words: `Spells` says which
word stands at the start of an input, and every word is as long as it can be. `Derives` then says
which trees a sequence of words stands for.

    query   ::= all { OR all }
    all     ::= operand { [AND] operand }
    operand ::= (NOT | '-') operand | '(' query ')' | '#' name [':' argument] | [symbol] label
-/

namespace Gallery.Query

/-- The words of the query language. -/
inductive Word where
  | opening
  | closing
  | minus
  | not
  | and
  | or
  | pseudo (name : String) (argument : Option Argument)
  | reference (label : String) (symbol : Option Char)
  deriving DecidableEq, Repr

/-- `Quoted body pattern`: the characters between two quotes stand for the pattern. A backslash
stands before a quote or a backslash that is meant; before any other character it is kept. -/
inductive Quoted : List Char → List Char → Prop where
  | nil : Quoted [] []
  | escaped (c : Char) (body pattern : List Char) (special : c = '"' ∨ c = '\\')
      (rest : Quoted body pattern) : Quoted ('\\' :: c :: body) (c :: pattern)
  | kept (c : Char) (body pattern : List Char) (ordinary : ¬(c = '"' ∨ c = '\\'))
      (rest : Quoted body pattern) : Quoted ('\\' :: c :: body) ('\\' :: c :: pattern)
  | plain (c : Char) (body pattern : List Char) (ordinary : ¬(c = '"' ∨ c = '\\'))
      (rest : Quoted body pattern) : Quoted (c :: body) (c :: pattern)

/-- `SpellsArgument input argument rest`: the argument stands at the start of the input and leaves
the rest. -/
inductive SpellsArgument : List Char → Argument → List Char → Prop where
  | quoted (body pattern rest : List Char) (flag : Option Bool) (decoded : Quoted body pattern)
      (ends : startsInLabel rest = false) :
      SpellsArgument ('"' :: (body ++ '"' :: (Expr.caseFlag flag ++ rest)))
        ⟨String.ofList pattern, flag⟩ rest
  | bare (pattern rest : List Char) (nonempty : pattern ≠ [])
      (inside : pattern.all isBareChar = true) (ends : rest.head?.any isBareChar = false) :
      SpellsArgument (pattern ++ rest) ⟨String.ofList pattern, none⟩ rest

/-- The colon and the argument of a pseudo-tag, which may be left out. -/
inductive SpellsArgumentPart : List Char → Option Argument → List Char → Prop where
  | none (rest : List Char) : SpellsArgumentPart rest none rest
  | some (input : List Char) (argument : Argument) (rest : List Char)
      (spelled : SpellsArgument input argument rest) :
      SpellsArgumentPart (':' :: input) (some argument) rest

/-- `Spells input word rest`: the word stands at the start of the input and leaves the rest. No
label character follows a keyword, a label or a name. -/
inductive Spells : List Char → Word → List Char → Prop where
  | opening (rest : List Char) : Spells ('(' :: rest) .opening rest
  | closing (rest : List Char) : Spells (')' :: rest) .closing rest
  | minus (rest : List Char) : Spells ('-' :: rest) .minus rest
  | not (rest : List Char) (ends : startsInLabel rest = false) :
      Spells ('N' :: 'O' :: 'T' :: rest) .not rest
  | and (rest : List Char) (ends : startsInLabel rest = false) :
      Spells ('A' :: 'N' :: 'D' :: rest) .and rest
  | or (rest : List Char) (ends : startsInLabel rest = false) : Spells ('O' :: 'R' :: rest) .or rest
  | pseudo (name input : List Char) (argument : Option Argument) (rest : List Char)
      (nonempty : name ≠ []) (inside : name.all isLabelChar = true)
      (ends : startsInLabel input = false) (spelled : SpellsArgumentPart input argument rest) :
      Spells (pseudoMark :: (name ++ input)) (.pseudo (String.ofList name) argument) rest
  | reference (label : String) (symbol : Option Char) (rest : List Char)
      (valid : isLabel label = true) (marked : symbol.all isTypeSymbol = true)
      (ends : startsInLabel rest = false) :
      Spells (symbol.toList ++ (label.toList ++ rest)) (.reference label symbol) rest

/-- `Sentence input words rest`: the words stand at the start of the input, with any number of
separators before each, and leave the rest. -/
inductive Sentence : List Char → List Word → List Char → Prop where
  | nil (rest : List Char) : Sentence rest [] rest
  | cons (gap input : List Char) (word : Word) (middle : List Char) (words : List Word)
      (rest : List Char) (separators : gap.all isGap = true) (spelled : Spells input word middle)
      (following : Sentence middle words rest) : Sentence (gap ++ input) (word :: words) rest

/-- The syntactic categories. -/
inductive Category where
  | query
  | all
  | operand
  deriving DecidableEq, Repr

/-- `Derives category room words expr`: the words form the category, at most `room` groups and
negations enclose an operand of it, and it stands for the expression. Chains associate to the
left. -/
inductive Derives : Category → Nat → List Word → Expr → Prop where
  | alone (room : Nat) (words : List Word) (expr : Expr)
      (part : Derives .all room words expr) : Derives .query room words expr
  | either (room : Nat) (words others : List Word) (left right : Expr)
      (first : Derives .query room words left) (second : Derives .all room others right) :
      Derives .query room (words ++ .or :: others) (.or left right)
  | single (room : Nat) (words : List Word) (expr : Expr)
      (part : Derives .operand room words expr) : Derives .all room words expr
  | beside (room : Nat) (words others : List Word) (left right : Expr)
      (first : Derives .all room words left) (second : Derives .operand room others right) :
      Derives .all room (words ++ others) (.and left right)
  | joined (room : Nat) (words others : List Word) (left right : Expr)
      (first : Derives .all room words left) (second : Derives .operand room others right) :
      Derives .all room (words ++ .and :: others) (.and left right)
  | not (room : Nat) (words : List Word) (expr : Expr)
      (part : Derives .operand room words expr) :
      Derives .operand (room + 1) (.not :: words) (.not expr)
  | minus (room : Nat) (words : List Word) (expr : Expr)
      (part : Derives .operand room words expr) :
      Derives .operand (room + 1) (.minus :: words) (.not expr)
  | group (room : Nat) (words : List Word) (expr : Expr) (part : Derives .query room words expr) :
      Derives .operand (room + 1) (.opening :: (words ++ [.closing])) expr
  | pseudo (room : Nat) (name : String) (argument : Option Argument) :
      Derives .operand room [.pseudo name argument] (.pseudo name argument)
  | reference (room : Nat) (label : String) (symbol : Option Char) :
      Derives .operand room [.reference label symbol] (.tag label symbol)

/-! Sentences are put together and taken apart. -/

theorem sentence_append (input : List Char) (words others : List Word) (middle rest : List Char)
    (first : Sentence input words middle) (second : Sentence middle others rest) :
    Sentence input (words ++ others) rest := by
  induction first with
  | nil rest => exact second
  | cons gap input word after words middle separators spelled following ih =>
      exact .cons gap input word after (words ++ others) rest separators spelled (ih second)

theorem sentence_split (input : List Char) (words others : List Word) (rest : List Char)
    (sentence : Sentence input (words ++ others) rest) :
    ∃ middle, Sentence input words middle ∧ Sentence middle others rest := by
  induction words generalizing input with
  | nil => exact ⟨input, .nil input, sentence⟩
  | cons word words ih =>
      cases sentence with
      | cons gap input _ after _ _ separators spelled following =>
          rcases ih after following with ⟨middle, first, second⟩
          exact ⟨middle, .cons gap input word after words middle separators spelled first, second⟩

theorem reference_head (input : List Char) (label : String) (symbol : Option Char)
    (rest : List Char) (spelled : Spells input (.reference label symbol) rest) :
    ∃ c tail, input = c :: tail ∧ isGap c = false ∧ c ∉ reserved := by
  cases spelled with
  | reference _ _ _ valid marked ends =>
      cases symbol with
      | some c =>
          exact ⟨c, _, rfl, not_gap_of_symbol c marked, ((type_symbol_iff c).mp marked).2.2⟩
      | none =>
          rcases label_head label valid with ⟨c, tail, shape, part⟩
          refine ⟨c, tail ++ rest, by rw [shape]; rfl, not_gap_of_label c part, fun special => ?_⟩
          rw [reserved_not_label c special] at part
          cases part

theorem spells_head (input : List Char) (word : Word) (rest : List Char)
    (spelled : Spells input word rest) :
    ∃ c tail, input = c :: tail ∧ isGap c = false ∧ c ≠ ':' := by
  cases word with
  | reference label symbol =>
      rcases reference_head input label symbol rest spelled with ⟨c, tail, shape, visible, free⟩
      exact ⟨c, tail, shape, visible, fun same => free (by simp [same, reserved])⟩
  | _ => cases spelled; exact ⟨_, _, rfl, by decide, by decide⟩

theorem opening_of_spells (body : List Char) (word : Word) (rest : List Char)
    (spelled : Spells ('(' :: body) word rest) : word = .opening := by
  cases word with
  | opening => rfl
  | reference label symbol =>
      rcases reference_head _ label symbol rest spelled with ⟨c, tail, same, _, free⟩
      cases same
      exact absurd (by decide) free
  | _ => generalize same : '(' :: body = input at spelled; cases spelled; cases same

theorem spells_argument_shorter (input : List Char) (argument : Argument) (rest : List Char)
    (spelled : SpellsArgument input argument rest) : rest.length ≤ input.length := by
  cases spelled with
  | quoted body pattern rest flag =>
      simp only [List.length_cons, List.length_append]
      omega
  | bare pattern rest =>
      rw [List.length_append]
      exact Nat.le_add_left _ _

theorem spells_shorter (input : List Char) (word : Word) (rest : List Char)
    (spelled : Spells input word rest) : rest.length < input.length := by
  cases spelled with
  | opening | closing | minus | not _ ends | and _ ends | or _ ends => simp; try omega
  | pseudo name input argument _ nonempty inside ends spelled =>
      have step : rest.length ≤ input.length := by
        cases spelled with
        | none => exact Nat.le_refl _
        | some input argument _ spelled =>
            have := spells_argument_shorter input argument rest spelled
            simpa using Nat.le_succ_of_le this
      simp
      omega
  | reference label symbol _ valid marked ends =>
      have nonempty := List.length_pos_iff.mpr ((isLabel_iff label).mp valid).1
      simp only [List.length_append]
      omega

theorem sentence_shorter (input : List Char) (words : List Word) (rest : List Char)
    (sentence : Sentence input words rest) : words.length + rest.length ≤ input.length := by
  induction sentence with
  | nil rest => simp
  | cons gap input word middle words rest separators spelled following ih =>
      have step := spells_shorter input word middle spelled
      simp only [List.length_cons, List.length_append]
      omega

theorem skipGaps_spells (input : List Char) (word : Word) (rest : List Char)
    (spelled : Spells input word rest) : skipGaps input = input := by
  rcases spells_head input word rest spelled with ⟨c, tail, rfl, visible, _⟩
  exact skipGaps_self (c :: tail) visible

/-- The separators before the first word may be taken to be all there are. -/
theorem sentence_cons_iff (input : List Char) (word : Word) (words : List Word) (rest : List Char) :
    Sentence input (word :: words) rest ↔
      ∃ middle, Spells (skipGaps input) word middle ∧ Sentence middle words rest := by
  constructor
  · intro sentence
    cases sentence with
    | cons gap text _ middle _ _ separators spelled following =>
        refine ⟨middle, ?_, following⟩
        rwa [skipGaps_append gap text separators, skipGaps_spells text word middle spelled]
  · rintro ⟨middle, spelled, following⟩
    rcases exists_gap input with ⟨gap, separators, split⟩
    rw [split]
    exact .cons gap (skipGaps input) word middle words rest separators spelled following

theorem sentence_skipGaps (input : List Char) (words : List Word) (rest : List Char)
    (nonempty : words ≠ []) :
    Sentence (skipGaps input) words rest ↔ Sentence input words rest := by
  cases words with
  | nil => exact absurd rfl nonempty
  | cons word words => simp only [sentence_cons_iff, skipGaps_idem]

/-- Whether a word can be the first of an operand. -/
def Word.Opens (word : Word) : Prop :=
  word ≠ .closing ∧ word ≠ .and ∧ word ≠ .or

theorem derives_first (category : Category) (room : Nat) (words : List Word) (expr : Expr)
    (derives : Derives category room words expr) :
    ∃ word others, words = word :: others ∧ word.Opens := by
  induction derives with
  | alone | single => assumption
  | either _ _ _ _ _ _ _ first | beside _ _ _ _ _ _ _ first | joined _ _ _ _ _ _ _ first =>
      rcases first with ⟨word, others, rfl, opens⟩
      exact ⟨word, _, rfl, opens⟩
  | not | minus | group | pseudo | reference =>
      exact ⟨_, _, rfl, by simp [Word.Opens]⟩

theorem derives_nonempty (category : Category) (room : Nat) (words : List Word) (expr : Expr)
    (derives : Derives category room words expr) : words ≠ [] := by
  rcases derives_first category room words expr derives with ⟨word, others, rfl, _⟩
  exact List.cons_ne_nil word others

end Gallery.Query
