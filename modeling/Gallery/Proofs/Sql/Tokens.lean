import Mathlib.Data.List.TakeWhile
import Gallery.Sql.Reading

/-!
Tokens of texts that are put together. A token ends at a space or a parenthesis, so what is written
before one is cut into the same tokens whatever comes behind it.
-/

namespace Gallery.Sql

/-- A text before which every token ends: it is empty, or it goes on with a space or a closing
parenthesis. -/
def Boundary (more : List Char) : Prop :=
  ∀ c ∈ more.head?, c = ' ' ∨ c = ')'

theorem boundary_space (rest : List Char) : Boundary (' ' :: rest) := by
  simp [Boundary]

theorem boundary_closing (rest : List Char) : Boundary (')' :: rest) := by
  simp [Boundary]

/-- A boundary does not start with a character of a kind to which neither a space nor a closing
parenthesis belongs. -/
theorem Boundary.excludes {more : List Char} (boundary : Boundary more) (p : Char → Bool)
    (space : p ' ' = false) (closing : p ')' = false) : more.head?.any p = false := by
  cases more with
  | nil => rfl
  | cons c rest => rcases boundary c rfl with rfl | rfl <;> assumption

theorem takeWhile_boundary (p : Char → Bool) (text more : List Char)
    (excluded : more.head?.any p = false) :
    (text ++ more).takeWhile p = text.takeWhile p ∧
      (text ++ more).dropWhile p = text.dropWhile p ++ more := by
  induction text with
  | nil => cases more with
    | nil => exact ⟨rfl, rfl⟩
    | cons c rest =>
        have other : p c = false := excluded
        simp [List.takeWhile, List.dropWhile, other]
  | cons c rest ih =>
      rw [List.cons_append, List.takeWhile_cons, List.takeWhile_cons, List.dropWhile_cons,
        List.dropWhile_cons, ih.1, ih.2]
      split <;> exact ⟨rfl, rfl⟩

/-! One token. -/

theorem readQuoted_append (quote : Char) (text read after more : List Char)
    (found : readQuoted quote text = some (read, after)) (other : more.head? ≠ some quote) :
    readQuoted quote (text ++ more) = some (read, after ++ more) := by
  fun_induction readQuoted quote text generalizing read after with
  | case1 => cases found
  | case2 =>
      cases found
      cases more with
      | nil => simp [readQuoted]
      | cons d rest =>
          have different : d ≠ quote := fun same => other (by rw [same]; rfl)
          simp [readQuoted, different]
  | case3 => cases found
  | case4 rest ih =>
      rcases Option.map_eq_some_iff.mp found with ⟨⟨inner, behind⟩, first, same⟩
      cases same
      simp [readQuoted, ih inner after first]
  | case5 d rest different =>
      cases found
      simp [readQuoted, different]
  | case6 c d rest different ih =>
      rcases Option.map_eq_some_iff.mp found with ⟨⟨inner, behind⟩, first, same⟩
      cases same
      have later := ih inner after first
      simp only [List.cons_append] at later
      simp [readQuoted, different, later]

theorem readPower_append (text more : List Char) (boundary : Boundary more) :
    Numeral.readPower? (text ++ more) =
      (Numeral.readPower? text).map fun found => (found.1, found.2 ++ more) := by
  have plain := boundary.excludes Char.isDigit (by decide) (by decide)
  have digits (start : List Char) := takeWhile_boundary Char.isDigit start more plain
  cases text with
  | nil =>
      cases more with
      | nil => rfl
      | cons c rest => rcases boundary c rfl with rfl | rfl <;> simp [Numeral.readPower?]
  | cons c rest =>
      -- The sign stands at the start of what follows the letter, if it stands in `text` at all.
      cases rest with
      | nil =>
          cases more with
          | nil => simp [Numeral.readPower?]
          | cons d rest => rcases boundary d rfl with rfl | rfl <;> simp [Numeral.readPower?]
      | cons d start =>
          by_cases minus : d = '-'
          · subst minus
            simp only [Numeral.readPower?, List.cons_append, (digits start).1, (digits start).2]
            split <;> rfl
          · by_cases plus : d = '+'
            · subst plus
              simp only [Numeral.readPower?, List.cons_append, (digits start).1, (digits start).2]
              split <;> rfl
            · have whole := digits (d :: start)
              rw [List.cons_append] at whole
              simp [Numeral.readPower?, minus, plus, whole.1, whole.2]
              split <;> rfl

theorem readNumeral_append (text more : List Char) (boundary : Boundary more) :
    Numeral.read? (text ++ more) =
      (Numeral.read? text).map fun found => (found.1, found.2 ++ more) := by
  have plain := boundary.excludes Char.isDigit (by decide) (by decide)
  have digits (start : List Char) := takeWhile_boundary Char.isDigit start more plain
  have power (rest : List Char) := readPower_append rest more boundary
  have pointless : more.head?.any (· == '.') = false := boundary.excludes _ (by decide) (by decide)
  simp only [Numeral.read?, (digits text).1, (digits text).2]
  cases text.dropWhile Char.isDigit with
  | nil =>
      cases more with
      | nil => simp
      | cons c rest =>
          rcases boundary c rfl with rfl | rfl
          · simp [Numeral.readPower?, apply_ite]
          · simp [Numeral.readPower?, apply_ite]
  | cons c rest =>
      by_cases point : c = '.'
      · subst point
        simp only [List.cons_append, (digits rest).1, (digits rest).2, power, ↓reduceIte]
        split
        · rfl
        · cases Numeral.readPower? (rest.dropWhile Char.isDigit) <;> rfl
      · have whole := power (c :: rest)
        rw [List.cons_append] at whole
        cases read : Numeral.readPower? (c :: rest) <;> simp [point, whole, read, apply_ite]

theorem readNumber_append (text more after : List Char) (token : Token) (boundary : Boundary more)
    (found : readNumber text = some (token, after)) :
    readNumber (text ++ more) = some (token, after ++ more) := by
  have ends : more.head?.any isWordPart = false := boundary.excludes _ (by decide) (by decide)
  rw [readNumber] at found ⊢
  rw [readNumeral_append text more boundary]
  cases read : Numeral.read? text with
  | none => simp [read] at found
  | some result =>
      rcases result with ⟨numeral, rest⟩
      have head : (rest ++ more).head?.any isWordPart = rest.head?.any isWordPart := by
        cases rest with
        | nil => exact ends
        | cons c rest => rfl
      simp only [read, Option.map_some, head] at found ⊢
      by_cases whole : rest.head?.any isWordPart = true
      · simp [whole] at found
      · rw [if_neg whole] at found ⊢
        cases found
        rfl

theorem readQuotedToken_append (quote : Char) (build : String → Token)
    (rest more after : List Char) (token : Token) (boundary : Boundary more)
    (apart : quote ∉ [' ', ')'])
    (found : ((readQuoted quote rest).map fun (text, after) =>
      (build (String.ofList text), after)) = some (token, after)) :
    ((readQuoted quote (rest ++ more)).map fun (text, after) =>
      (build (String.ofList text), after)) = some (token, after ++ more) := by
  have unquoted : more.head? ≠ some quote := by
    intro same
    rcases boundary quote same with rfl | rfl <;> simp at apart
  rcases Option.map_eq_some_iff.mp found with ⟨⟨text, behind⟩, read, same⟩
  cases same
  rw [readQuoted_append _ rest _ _ more read unquoted]
  rfl

-- Nothing that stands at a boundary makes a sign longer.
theorem readSign_append (c : Char) (rest more after : List Char) (token : Token)
    (boundary : Boundary more)
    (found : (match rest with
      | d :: after =>
          if longSigns.contains (c, d) then some (Token.sign (String.ofList [c, d]), after)
          else some (.sign c.toString, rest)
      | [] => some (.sign c.toString, rest)) = some (token, after)) :
    (match rest ++ more with
      | d :: after =>
          if longSigns.contains (c, d) then some (Token.sign (String.ofList [c, d]), after)
          else some (.sign c.toString, rest ++ more)
      | [] => some (.sign c.toString, rest ++ more)) = some (token, after ++ more) := by
  cases rest with
  | nil =>
      cases found
      cases more with
      | nil => rfl
      | cons d more =>
          have short : (c, d) ∉ longSigns := by
            rcases boundary d rfl with rfl | rfl <;> simp [longSigns]
          simp [short]
  | cons d rest =>
      simp only [List.cons_append] at found ⊢
      split at found
      · next long =>
          cases found
          rw [if_pos long]
      · next short =>
          cases found
          rw [if_neg short]
          rfl

theorem readToken_append (c : Char) (rest more after : List Char) (token : Token)
    (boundary : Boundary more) (found : readToken c rest = some (token, after)) :
    readToken c (rest ++ more) = some (token, after ++ more) := by
  have plain := boundary.excludes Char.isDigit (by decide) (by decide)
  have head : (rest ++ more).head?.any Char.isDigit = rest.head?.any Char.isDigit := by
    cases rest with
    | nil => exact plain
    | cons d rest => rfl
  simp only [readToken, head] at found ⊢
  split at found
  · next single =>
      rw [if_pos single]
      exact readQuotedToken_append _ .text rest more after token boundary (by decide) found
  · next notSingle =>
    rw [if_neg notSingle]
    split at found
    · next double =>
        rw [if_pos double]
        exact readQuotedToken_append _ .name rest more after token boundary (by decide) found
    · next notDouble =>
      rw [if_neg notDouble]
      split at found
      · next mark =>
          cases found
          rw [if_pos mark]
      · next notMark =>
        rw [if_neg notMark]
        split at found
        · next number =>
            rw [if_pos number, ← List.cons_append]
            exact readNumber_append (c :: rest) more after token boundary found
        · next notNumber =>
          rw [if_neg notNumber]
          split at found
          · next word =>
              have parts := takeWhile_boundary isWordPart rest more
                (boundary.excludes _ (by decide) (by decide))
              cases found
              rw [if_pos word, parts.1, parts.2]
          · next notWord =>
              rw [if_neg notWord]
              exact readSign_append c rest more after token boundary found

/-! All tokens. -/

theorem tokensWithin_more (steps more : Nat) (text : List Char) (found : List Token)
    (cut : tokensWithin steps text = some found) :
    tokensWithin (steps + more) text = some found := by
  fun_induction tokensWithin steps text generalizing found with
  | case1 =>
      cases cut
      simp [tokensWithin]
  | case2 => cases cut
  | case3 steps c rest space ih =>
      rw [Nat.succ_add, tokensWithin, if_pos space]
      exact ih found cut
  | case4 => cases cut
  | case5 steps c rest solid token after read ih =>
      rcases Option.map_eq_some_iff.mp cut with ⟨others, behind, same⟩
      rw [Nat.succ_add, tokensWithin, if_neg solid, read, ← same]
      simp only [ih others behind, Option.map_some]

theorem tokensWithin_append (steps : Nat) (text more : List Char) (found others : List Token)
    (boundary : Boundary more) (cut : tokensWithin steps text = some found)
    (cutMore : tokens more = some others) :
    tokensWithin (steps + more.length) (text ++ more) = some (found ++ others) := by
  fun_induction tokensWithin steps text generalizing found with
  | case1 steps =>
      cases cut
      rw [Nat.add_comm]
      exact tokensWithin_more _ steps more others cutMore
  | case2 => cases cut
  | case3 steps c rest space ih =>
      rw [Nat.succ_add, List.cons_append, tokensWithin, if_pos space]
      exact ih found cut
  | case4 => cases cut
  | case5 steps c rest solid token after read ih =>
      rcases Option.map_eq_some_iff.mp cut with ⟨later, behind, same⟩
      have extended := readToken_append c rest more after token boundary read
      rw [Nat.succ_add, List.cons_append, tokensWithin, if_neg solid, extended, ← same]
      simp only [ih later behind, Option.map_some, List.cons_append]

/-- What stands before a boundary is cut into tokens on its own. -/
theorem tokens_append (text more : List Char) (found others : List Token)
    (boundary : Boundary more) (cut : tokens text = some found)
    (cutMore : tokens more = some others) : tokens (text ++ more) = some (found ++ others) := by
  rw [tokens, List.length_append]
  exact tokensWithin_append _ text more found others boundary cut cutMore

/-- A sign that begins no sign of two characters is a token whatever follows. -/
theorem tokens_sign (c : Char) (rest : List Char) (found : List Token)
    (alone : c ∈ ['(', ')', '-']) (cut : tokens rest = some found) :
    tokens (c :: rest) = some (.sign c.toString :: found) := by
  have solid : isSpace c = false := by
    simp only [List.mem_cons, List.not_mem_nil, or_false] at alone
    rcases alone with rfl | rfl | rfl <;> decide
  have read : readToken c rest = some (.sign c.toString, rest) := by
    simp only [List.mem_cons, List.not_mem_nil, or_false] at alone
    cases rest with
    | nil => rcases alone with rfl | rfl | rfl <;> rfl
    | cons d rest =>
        rcases alone with rfl | rfl | rfl <;> simp [readToken, isWordStart, longSigns]
  rw [tokens, List.length_cons, tokensWithin, if_neg (by simp [solid]), read]
  simp only [show tokensWithin rest.length rest = some found from cut, Option.map_some]

theorem tokens_digits (n : Nat) :
    tokens (Nat.toDigits 10 n) = some [.number ⟨n, 0, true⟩] := by
  have digits : ∀ c ∈ Nat.toDigits 10 n, c.isDigit = true := fun c member =>
    Nat.isDigit_of_mem_toDigits (by omega) (by omega) member
  have value : Text.decimalValue (Nat.toDigits 10 n) = n :=
    Nat.ofDigitChars_toDigits (by omega) (by omega)
  generalize shape : Nat.toDigits 10 n = text at digits value
  cases text with
  | nil => exact absurd shape Nat.toDigits_ne_nil
  | cons c rest =>
      have first : c.isDigit = true := digits c List.mem_cons_self
      have numeral : Numeral.read? (c :: rest) = some (⟨n, 0, true⟩, []) := by
        simp only [Numeral.read?, List.takeWhile_eq_self_iff.mpr digits,
          List.dropWhile_eq_nil_iff.mpr digits]
        simp [Numeral.readPower?, value]
      have apart (d : Char) (other : d.isDigit = false) : c ≠ d := by
        rintro rfl
        rw [first] at other
        cases other
      have solid : isSpace c = false := by
        simp [isSpace, apart ' ' rfl, apart '\t' rfl, apart '\n' rfl, apart '\x0c' rfl,
          apart '\r' rfl]
      have read : readToken c rest = some (.number ⟨n, 0, true⟩, []) := by
        simp [readToken, apart '\x27' rfl, apart '"' rfl, apart '?' rfl, first, readNumber, numeral]
      simp [tokens, tokensWithin, solid, read]

end Gallery.Sql
