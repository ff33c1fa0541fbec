import Gallery.Proofs.Query.Recognition

/-!
The written form of an expression is a sentence of the grammar, so it is read back as long as it
does not nest too deeply. An expression that does is broken where the deepest operand on the left
begins, and its reader says so.
-/

namespace Gallery.Query

/-- Whether the parts of a leaf have the form of the words they are written as. -/
def Word.WellFormed : Word → Prop
  | .reference label symbol => isLabel label = true ∧ symbol.all isTypeSymbol = true
  | .pseudo name _ => name.toList ≠ [] ∧ name.toList.all isLabelChar = true
  | _ => True

/-- Labels and symbols are valid, and names of pseudo-tags are runs of label characters. -/
def Expr.WellFormed : Expr → Prop
  | tag label symbol => (Word.reference label symbol).WellFormed
  | pseudo name argument => (Word.pseudo name argument).WellFormed
  | and left right | or left right => left.WellFormed ∧ right.WellFormed
  | not operand => operand.WellFormed

/-! Every tree of the grammar is well formed. -/

theorem spells_wellFormed (input : List Char) (word : Word) (rest : List Char)
    (spelled : Spells input word rest) : word.WellFormed := by
  cases spelled with
  | pseudo name input argument _ nonempty inside ends spelled =>
      exact ⟨by simpa using nonempty, by simpa using inside⟩
  | reference label symbol _ valid marked ends => exact ⟨valid, marked⟩
  | _ => trivial

theorem sentence_wellFormed (input : List Char) (words : List Word) (rest : List Char)
    (sentence : Sentence input words rest) : ∀ word ∈ words, word.WellFormed := by
  induction sentence with
  | nil rest => simp
  | cons gap input word middle words rest separators spelled following ih =>
      rw [List.forall_mem_cons]
      exact ⟨spells_wellFormed input word middle spelled, ih⟩

theorem derives_wellFormed (category : Category) (room : Nat) (words : List Word) (expr : Expr)
    (derives : Derives category room words expr) (proper : ∀ word ∈ words, word.WellFormed) :
    expr.WellFormed := by
  induction derives with
  | alone room words expr part ih | single room words expr part ih => exact ih proper
  | either room words others left right first second ihFirst ihSecond
  | joined room words others left right first second ihFirst ihSecond =>
      rw [List.forall_mem_append, List.forall_mem_cons] at proper
      exact ⟨ihFirst proper.1, ihSecond proper.2.2⟩
  | beside room words others left right first second ihFirst ihSecond =>
      rw [List.forall_mem_append] at proper
      exact ⟨ihFirst proper.1, ihSecond proper.2⟩
  | not room words expr part ih | minus room words expr part ih =>
      rw [List.forall_mem_cons] at proper
      exact ih proper.2
  | group room words expr part ih =>
      rw [List.forall_mem_cons, List.forall_mem_append] at proper
      exact ih proper.2.1
  | pseudo room name argument => exact proper _ (List.mem_singleton.mpr rfl)
  | reference room label symbol => exact proper _ (List.mem_singleton.mpr rfl)

theorem parse_wellFormed (text : String) (expr : Expr) (parsed : parse text = .ok expr) :
    expr.WellFormed := by
  rcases parse_sound text expr parsed with ⟨words, rest, sentence, _, derives⟩
  exact derives_wellFormed .query maxNesting words expr derives
    (sentence_wellFormed text.toList words rest sentence)

/-! The written form is a sentence. -/

/-- The words of the written form. -/
def Expr.words : Expr → List Word
  | tag label symbol => [.reference label symbol]
  | pseudo name argument => [.pseudo name argument]
  | and left right => .opening :: ((left.words ++ .and :: right.words) ++ [.closing])
  | or left right => .opening :: ((left.words ++ .or :: right.words) ++ [.closing])
  | not operand => .not :: operand.words

theorem words_derive (expr : Expr) (room : Nat) (shallow : expr.height ≤ room) :
    Derives .operand room expr.words expr := by
  induction expr generalizing room with
  | tag label symbol => exact .reference room label symbol
  | pseudo name argument => exact .pseudo room name argument
  | and left right ihLeft ihRight =>
      cases room with
      | zero => simp [Expr.height] at shallow
      | succ room =>
          have below : left.height ≤ room ∧ right.height ≤ room := by
            simp only [Expr.height] at shallow
            omega
          exact .group room _ _ (.alone room _ _ (.joined room _ _ left right
            (.single room _ left (ihLeft room below.1)) (ihRight room below.2)))
  | or left right ihLeft ihRight =>
      cases room with
      | zero => simp [Expr.height] at shallow
      | succ room =>
          have below : left.height ≤ room ∧ right.height ≤ room := by
            simp only [Expr.height] at shallow
            omega
          exact .group room _ _ (.either room _ _ left right
            (.alone room _ left (.single room _ left (ihLeft room below.1)))
            (.single room _ right (ihRight room below.2)))
  | not operand ih =>
      cases room with
      | zero => simp [Expr.height] at shallow
      | succ room =>
          have below : operand.height ≤ room := by
            simp only [Expr.height] at shallow
            omega
          exact .not room _ operand (ih room below)

theorem escape_quoted (pattern : List Char) : Quoted (Expr.escape pattern) pattern := by
  induction pattern with
  | nil => exact .nil
  | cons c pattern ih =>
      by_cases special : c = '"' ∨ c = '\\'
      · rw [Expr.escape, if_pos special.symm]
        exact .escaped c _ pattern special ih
      · rw [Expr.escape, if_neg fun swapped => special swapped.symm]
        exact .plain c _ pattern special ih

theorem writeArgument_spelled (argument : Option Argument) (rest : List Char)
    (ends : startsInLabel rest = false) :
    SpellsArgumentPart (Expr.writeArgument argument ++ rest) argument rest ∧
      startsInLabel (Expr.writeArgument argument ++ rest) = false := by
  cases argument with
  | none => exact ⟨.none rest, ends⟩
  | some argument =>
      have spelled := SpellsArgument.quoted _ _ rest argument.caseSensitive
        (escape_quoted argument.pattern.toList) ends
      rw [String.ofList_toList] at spelled
      simp only [Expr.writeArgument, List.cons_append, List.append_assoc]
      exact ⟨.some _ argument rest spelled, rfl⟩

theorem sentence_gap (input : List Char) (words : List Word) (rest : List Char)
    (nonempty : words ≠ []) (sentence : Sentence input words rest) :
    Sentence (' ' :: input) words rest := by
  rw [← sentence_skipGaps _ words rest nonempty] at sentence ⊢
  exact sentence

theorem words_nonempty (expr : Expr) : expr.words ≠ [] := by
  cases expr <;> simp [Expr.words]

theorem sentence_group (input : List Char) (words : List Word) (rest : List Char)
    (sentence : Sentence input words (')' :: rest)) :
    Sentence ('(' :: input) (.opening :: (words ++ [.closing])) rest :=
  .cons [] _ .opening input _ rest rfl (.opening input)
    (sentence_append input words [.closing] (')' :: rest) rest sentence
      (.cons [] _ .closing rest [] rest rfl (.closing rest) (.nil rest)))

theorem write_sentence (expr : Expr) (wellFormed : expr.WellFormed) (rest : List Char)
    (ends : startsInLabel rest = false) : Sentence (expr.write rest) expr.words rest := by
  induction expr generalizing rest with
  | tag label symbol =>
      have spelled := Spells.reference label symbol rest wellFormed.1 wellFormed.2 ends
      exact .cons [] _ _ rest [] rest rfl spelled (.nil rest)
  | pseudo name argument =>
      have part := writeArgument_spelled argument rest ends
      have spelled := Spells.pseudo name.toList _ argument rest wellFormed.1 wellFormed.2 part.2
        part.1
      rw [String.ofList_toList] at spelled
      exact .cons [] _ _ rest [] rest rfl spelled (.nil rest)
  | and left right ihLeft ihRight =>
      have second := sentence_gap _ _ _ (words_nonempty right)
        (ihRight wellFormed.2 (')' :: rest) rfl)
      have joint := Sentence.cons [' '] _ .and _ _ _ rfl (.and _ rfl) second
      exact sentence_group _ _ rest
        (sentence_append _ _ _ _ _ (ihLeft wellFormed.1 _ rfl) joint)
  | or left right ihLeft ihRight =>
      have second := sentence_gap _ _ _ (words_nonempty right)
        (ihRight wellFormed.2 (')' :: rest) rfl)
      have joint := Sentence.cons [' '] _ .or _ _ _ rfl (.or _ rfl) second
      exact sentence_group _ _ rest
        (sentence_append _ _ _ _ _ (ihLeft wellFormed.1 _ rfl) joint)
  | not operand ih =>
      have following := sentence_gap _ _ _ (words_nonempty operand) (ih wellFormed rest ends)
      exact .cons [] _ .not _ _ rest rfl (.not _ rfl) following

/-! Reading the written form. -/

/-- Reading has stopped because an operand nests too deeply. -/
def TooDeep (reading : Reading Expr) : Prop :=
  ∃ rest, reading = .broken ⟨.tooDeep, rest⟩

theorem write_found (limit room : Nat) (expr : Expr) (wellFormed : expr.WellFormed)
    (rest : List Char) (ends : startsInLabel rest = false) (follows : rest.head? ≠ some ':')
    (short : (expr.write rest).length ≤ limit) (shallow : expr.height ≤ room) :
    readOperand limit room (expr.write rest) = .found expr (skipGaps rest) :=
  derives_complete limit .operand room expr.words expr (words_derive expr room shallow) _ rest short
    (write_sentence expr wellFormed rest ends) follows

theorem readOperand_skipGaps (limit room : Nat) (input : List Char) :
    readOperand limit room (skipGaps input) = readOperand limit room input := by
  have negation : afterNegation? (skipGaps input) = afterNegation? input := by
    simp only [afterNegation?, afterKeyword?, skipGaps_idem]
  rw [readOperand.eq_def, readOperand.eq_def limit room input]
  dsimp only
  rw [negation, skipGaps_idem]

theorem readAll_deep (limit : Nat) (operand : List Char → Reading Expr) (input : List Char)
    (deep : TooDeep (operand input)) : TooDeep (readAll limit operand input) := by
  rcases deep with ⟨rest, deep⟩
  exact ⟨rest, by rw [readAll, deep]; rfl⟩

theorem readQuery_deep (limit : Nat) (operand : List Char → Reading Expr) (input : List Char)
    (deep : TooDeep (readAll limit operand input)) : TooDeep (readQuery limit operand input) := by
  rcases deep with ⟨rest, deep⟩
  exact ⟨rest, by rw [readQuery, deep]; rfl⟩

theorem readGroup_deep (query : List Char → Reading Expr) (body : List Char)
    (deep : TooDeep (query body)) : TooDeep (readGroup query body) := by
  rcases deep with ⟨rest, deep⟩
  exact ⟨rest, by rw [readGroup, deep]⟩

theorem readChain_deep (separator : List Char → Option (List Char))
    (item : List Char → Reading Expr) (join : Expr → Expr → Expr) (limit : Nat) (left : Expr)
    (middle start : List Char) (room : 0 < limit) (separated : separator middle = some start)
    (deep : TooDeep (item start)) : TooDeep (readChain separator item join limit left middle) := by
  rcases deep with ⟨rest, deep⟩
  cases limit with
  | zero => cases room
  | succ limit => exact ⟨rest, by simp only [readChain, separated, deep]⟩

theorem group_deep (limit room : Nat) (body : List Char)
    (deep : ∀ inner, room = inner + 1 →
      TooDeep (readQuery limit (readOperand limit inner) body)) :
    TooDeep (readOperand limit room ('(' :: body)) := by
  cases room with
  | zero => exact ⟨body, readOperand.eq_3 limit ('(' :: body) body rfl rfl⟩
  | succ inner =>
      rw [readOperand.eq_4 limit ('(' :: body) body inner rfl rfl]
      exact readGroup_deep _ body (deep inner rfl)

/-- After a left operand that fits, the operand after the joint is read. -/
theorem and_deep (limit room : Nat) (input : List Char) (left : Expr) (start : List Char)
    (found : readOperand limit room input = .found left ('A' :: 'N' :: 'D' :: ' ' :: start))
    (positive : 0 < limit) (deep : TooDeep (readOperand limit room start)) :
    TooDeep (readAll limit (readOperand limit room) input) := by
  rw [← readOperand_skipGaps] at deep
  rw [readAll, found]
  exact readChain_deep afterJoint _ .and limit left _ (skipGaps start) positive rfl deep

theorem or_deep (limit room : Nat) (input : List Char) (left : Expr) (start : List Char)
    (found : readAll limit (readOperand limit room) input =
      .found left ('O' :: 'R' :: ' ' :: start))
    (positive : 0 < limit) (deep : TooDeep (readOperand limit room start)) :
    TooDeep (readQuery limit (readOperand limit room) input) := by
  rw [← readOperand_skipGaps] at deep
  rw [readQuery, found]
  exact readChain_deep (afterKeyword? ['O', 'R']) _ .or limit left _ (skipGaps start) positive rfl
    (readAll_deep limit _ _ deep)

/-- An expression that is higher than the room that is left is too deep, wherever it stands. Of two
operands the left one is read first; the right one is reached when the left one fits. -/
theorem write_deep (limit room : Nat) (expr : Expr) (wellFormed : expr.WellFormed)
    (rest : List Char) (ends : startsInLabel rest = false) (follows : rest.head? ≠ some ':')
    (short : (expr.write rest).length ≤ limit) (high : room < expr.height) :
    TooDeep (readOperand limit room (expr.write rest)) := by
  induction expr generalizing room rest with
  | tag | pseudo => simp [Expr.height] at high
  | and left right ihLeft ihRight =>
      refine group_deep limit room _ fun inner same => readQuery_deep limit _ _ ?_
      have sentence := write_sentence left wellFormed.1
        (' ' :: 'A' :: 'N' :: 'D' :: ' ' :: right.write (')' :: rest)) rfl
      have lengths := sentence_shorter _ _ _ sentence
      simp only [Expr.height] at high
      simp only [Expr.write, List.length_cons] at short lengths
      by_cases leftHigh : inner < left.height
      · exact readAll_deep limit _ _
          (ihLeft inner wellFormed.1 _ rfl (by simp) (by omega) leftHigh)
      · have found := write_found limit inner left wellFormed.1
          (' ' :: 'A' :: 'N' :: 'D' :: ' ' :: right.write (')' :: rest)) rfl (by simp) (by omega)
          (by omega)
        exact and_deep limit inner _ left _ found (by omega)
          (ihRight inner wellFormed.2 _ rfl (by simp) (by omega) (by omega))
  | or left right ihLeft ihRight =>
      refine group_deep limit room _ fun inner same => ?_
      have sentence := write_sentence left wellFormed.1
        (' ' :: 'O' :: 'R' :: ' ' :: right.write (')' :: rest)) rfl
      have lengths := sentence_shorter _ _ _ sentence
      simp only [Expr.height] at high
      simp only [Expr.write, List.length_cons] at short lengths
      by_cases leftHigh : inner < left.height
      · exact readQuery_deep limit _ _ (readAll_deep limit _ _
          (ihLeft inner wellFormed.1 _ rfl (by simp) (by omega) leftHigh))
      · have reads := derives_complete limit .all inner left.words left
          (.single inner _ left (words_derive left inner (by omega))) _ _ (by omega) sentence
          (by simp [Follows])
        have stop : Stop (' ' :: 'O' :: 'R' :: ' ' :: right.write (')' :: rest)) :=
          .inr ⟨.or, _, .or _ rfl, .inr rfl⟩
        exact or_deep limit inner _ left _ (readAll_stop limit inner _ left _ reads stop) (by omega)
          (ihRight inner wellFormed.2 _ rfl (by simp) (by omega) (by omega))
  | not operand ih =>
      simp only [Expr.height] at high
      simp only [Expr.write, List.length_cons] at short
      have negated : afterNegation? ((Expr.not operand).write rest) =
          some (skipGaps (operand.write rest)) := rfl
      cases room with
      | zero => exact ⟨_, readOperand.eq_1 limit _ _ negated⟩
      | succ room =>
          rcases ih room wellFormed rest ends follows (by omega) (by omega) with ⟨left, deep⟩
          rw [readOperand.eq_2 limit _ _ room negated, readOperand_skipGaps, deep]
          exact ⟨left, rfl⟩

/-- A well-formed expression that is not too high is read back from its written form. -/
theorem parse_text (expr : Expr) (wellFormed : expr.WellFormed)
    (shallow : expr.height ≤ maxNesting) : parse expr.text = .ok expr := by
  have same : expr.text.toList = expr.write [] := String.toList_ofList
  have derives := words_derive expr maxNesting shallow
  exact parse_complete expr.text expr.words [] expr (same ▸ write_sentence expr wellFormed [] rfl)
    rfl (.alone maxNesting _ expr (.single maxNesting _ expr derives))

theorem parse_label (label : String) (valid : isLabel label = true) :
    parse label = .ok (.tag label none) := by
  have text : (Expr.tag label none).text = label := by
    simp [Expr.text, Expr.write]
  have parsed := parse_text (.tag label none) ⟨valid, rfl⟩ (Nat.zero_le _)
  rwa [text] at parsed

/-- What the reader returns is well formed; a well-formed expression is read back from its written
form when it nests at most `maxNesting` deep, and is refused as too deep otherwise. -/
theorem written_form_exact :
    (∀ text expr, parse text = .ok expr → expr.WellFormed) ∧
      ∀ expr : Expr, expr.WellFormed →
        (parse expr.text).mapError SyntaxError.fault =
          if expr.height ≤ maxNesting then .ok expr else .error .tooDeep := by
  refine ⟨parse_wellFormed, fun expr wellFormed => ?_⟩
  have same : expr.text.toList = expr.write [] := String.toList_ofList
  split
  · next shallow =>
      have derives := words_derive expr maxNesting shallow
      rw [parse_complete expr.text expr.words [] expr
        (same ▸ write_sentence expr wellFormed [] rfl) rfl
        (.alone maxNesting _ expr (.single maxNesting _ expr derives))]
      rfl
  · next high =>
      have deep := readQuery_deep _ _ _ (readAll_deep (expr.write []).length _ _
        (write_deep (expr.write []).length maxNesting expr wellFormed [] rfl (by simp)
          (Nat.le_refl _) (Nat.lt_of_not_le high)))
      rcases deep with ⟨rest, deep⟩
      rw [parse, same]
      simp only [deep]
      rfl

theorem written_form_quoted :
    (Expr.not (.and (.tag "beach" (some '@'))
      (.pseudo "name" (some ⟨"\"\\", some true⟩)))).WellFormed ∧
    (parse (Expr.not (.and (.tag "beach" (some '@'))
      (.pseudo "name" (some ⟨"\"\\", some true⟩)))).text).mapError SyntaxError.fault =
      .ok (.not (.and (.tag "beach" (some '@')) (.pseudo "name" (some ⟨"\"\\", some true⟩)))) := by
  have wellFormed : (Expr.not (.and (.tag "beach" (some '@'))
      (.pseudo "name" (some ⟨"\"\\", some true⟩)))).WellFormed :=
    ⟨⟨by decide, by decide⟩, ⟨by decide, by decide⟩⟩
  exact ⟨wellFormed, written_form_exact.2 _ wellFormed⟩

end Gallery.Query
