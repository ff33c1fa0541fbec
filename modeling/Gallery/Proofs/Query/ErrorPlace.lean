import Mathlib.Data.List.Infix
import Gallery.Proofs.Query.WordReading

/-!
Where a syntax error points. The unread input that it carries is the end of the text, and what
stands there goes with the kind of the error (`SyntaxError.PointsInto`). Errors arise in every
reader and are handed on, dropped or replaced by others, so each reader is shown to raise none but
such errors, and to leave nothing but an end of the text (`Reading.Within`).
-/

namespace Gallery.Query

/-- Whether what follows `before` is escaped: right before it stands a backslash that is not escaped
itself. -/
def escapesNext (before : List Char) : Bool :=
  before.foldl (fun escaped c => !escaped && c == '\\') false

/-- An error on reading the text: its rest is an end of the text. An unexpected token shows; an
unterminated string begins with a quote, and every other quote in it is escaped; where an expression
is missing there is only white space left, or a parenthesis has just been opened. -/
structure SyntaxError.PointsInto (text : List Char) (error : SyntaxError) : Prop where
  unread : error.rest <:+ text
  token : error.fault = .unexpectedToken → Text.isBlankText error.rest = false
  string : error.fault = .unterminatedString → ∃ body, error.rest = '"' :: body ∧
    ∀ before after, body = before ++ '"' :: after → escapesNext before = true
  expression : error.fault = .expectedExpression →
    Text.isBlankText error.rest = true ∨ ∃ before, text = before ++ '(' :: error.rest

/-- A reading that stays within the text: it leaves an end of it, or raises an error that points into
it. -/
inductive Reading.Within {α : Type} (text : List Char) : Reading α → Prop where
  | found (value : α) (rest : List Char) (left : rest <:+ text) : Within text (.found value rest)
  | absent (error : SyntaxError) (points : error.PointsInto text) : Within text (.absent error)
  | broken (error : SyntaxError) (points : error.PointsInto text) : Within text (.broken error)

namespace Reading

variable {α β : Type} {text : List Char} {reading : Reading α}

theorem Within.andThen {next : α → List Char → Reading β} (within : reading.Within text)
    (later : ∀ value rest, rest <:+ text → (next value rest).Within text) :
    (reading.andThen next).Within text := by
  cases within with
  | found value rest left => exact later value rest left
  | absent error points => exact .absent error points
  | broken error points => exact .broken error points

theorem Within.map (f : α → β) (within : reading.Within text) : (reading.map f).Within text :=
  within.andThen fun value rest left => .found (f value) rest left

theorem Within.required (within : reading.Within text) : reading.required.Within text := by
  cases within with
  | found value rest left => exact .found value rest left
  | absent error points | broken error points => exact .broken error points

end Reading

section Readers

variable (text : List Char)

/-! Words. -/

theorem missing_pointsInto (input : List Char) (inside : input <:+ text) :
    (SyntaxError.missing input).PointsInto text := by
  cases blank : Text.isBlankText input <;> constructor <;> simp [SyntaxError.missing, blank, inside]

theorem skipGaps_inside (input : List Char) (inside : input <:+ text) : skipGaps input <:+ text :=
  (List.dropWhile_suffix isGap).trans inside

theorem afterWord_inside (word input rest : List Char) (inside : input <:+ text)
    (found : afterWord? word input = some rest) : rest <:+ text := by
  rw [(afterWord_iff word input rest).mp found] at inside
  exact (List.suffix_append word rest).trans inside

theorem afterKeyword_inside (word input rest : List Char) (inside : input <:+ text)
    (found : afterKeyword? word input = some rest) : rest <:+ text := by
  unfold afterKeyword? at found
  split at found
  · next after behind =>
      split at found
      · cases found
      · cases found
        exact skipGaps_inside text after
          (afterWord_inside text word _ after (skipGaps_inside text input inside) behind)
  · cases found

theorem afterNegation_inside (input rest : List Char) (inside : input <:+ text)
    (found : afterNegation? input = some rest) : rest <:+ text := by
  unfold afterNegation? at found
  split at found
  · next after behind =>
      cases found
      exact afterKeyword_inside text _ input rest inside behind
  · obtain ⟨after, behind, rfl⟩ := Option.map_eq_some_iff.mp found
    exact skipGaps_inside text after
      (afterWord_inside text _ _ after (skipGaps_inside text input inside) behind)

theorem readRun_within (p : Char → Bool) (input : List Char) (inside : input <:+ text) :
    (readRun p input).Within text := by
  unfold readRun
  split
  · exact .absent _ (missing_pointsInto text input inside)
  · exact .found _ _ ((List.dropWhile_suffix p).trans inside)

theorem readLabel_within (input : List Char) (inside : input <:+ text) :
    (readLabel input).Within text := by
  refine (readRun_within text isLabelChar input inside).andThen fun run rest left => ?_
  split
  · exact .absent _ (missing_pointsInto text input inside)
  · exact .found _ rest left

theorem readReference_within (input : List Char) (inside : input <:+ text) :
    (readReference input).Within text := by
  cases input with
  | nil => exact .absent _ (missing_pointsInto text [] inside)
  | cons c rest =>
      rw [readReference]
      split
      · exact (readLabel_within text rest ((List.suffix_cons c rest).trans inside)).map _
      · exact (readLabel_within text (c :: rest) inside).map _

/-! Arguments. -/

/-- A string that does not end has no closing quote: the reader passes every quote in it as the
second character of an escape. -/
theorem readQuoted_open (body : List Char) (unread : readQuoted? body = none)
    (before after : List Char) (split : body = before ++ '"' :: after) :
    escapesNext before = true := by
  fun_induction readQuoted? body generalizing before with
  | case1 => simp at split
  | case2 => cases unread
  | case3 =>
      rcases List.cons_eq_append_iff.mp split with ⟨_, same⟩ | ⟨inner, _, same⟩
      · cases same
      · simp at same
  | case4 c rest ih =>
      rw [Option.map_eq_none_iff] at unread
      -- A quote is the escaped character itself or stands behind it.
      cases before with
      | nil => cases split
      | cons _ before =>
          cases before with
          | nil =>
              cases split
              rfl
          | cons _ inner =>
              cases split
              exact ih unread inner rfl
  | case5 c rest notQuote notLast notEscape ih =>
      rw [Option.map_eq_none_iff] at unread
      cases before with
      | nil =>
          cases split
          exact absurd rfl notQuote
      | cons _ inner =>
          cases split
          have plain : (c == '\\') = false := by
            rw [beq_eq_false_iff_ne]
            rintro rfl
            cases shape : inner ++ '"' :: after with
            | nil => simp at shape
            | cons d tail => exact notEscape d tail rfl shape
          rw [escapesNext, List.foldl_cons, plain]
          exact ih unread inner rfl

theorem readArgument_within (input : List Char) (inside : input <:+ text) :
    (readArgument input).Within text := by
  unfold readArgument
  split
  · next body =>
      split
      · next unread =>
          refine .broken _ ⟨inside, ?_, fun _ => ⟨body, rfl, readQuoted_open body unread⟩, ?_⟩
          · rintro ⟨⟩
          · rintro ⟨⟩
      · next pattern after read =>
          obtain ⟨inner, _, rfl⟩ := readQuoted_sound body pattern after read
          have flagged : (readCaseFlag after).2 <:+ after :=
            ⟨_, (readCaseFlag_sound after).symm⟩
          split
          · exact .absent _ (missing_pointsInto text _ inside)
          · refine .found _ _ ((flagged.trans ?_).trans inside)
            exact ⟨'"' :: (inner ++ ['"']), by simp⟩
  · exact (readRun_within text isBareChar _ inside).map _

theorem readArgumentPart_within (input : List Char) (inside : input <:+ text) :
    (readArgumentPart input).Within text := by
  unfold readArgumentPart
  split
  · next rest =>
      exact ((readArgument_within text rest ((List.suffix_cons ':' rest).trans inside)).required).map _
  · exact .found none input inside

theorem readInvocation_within (input : List Char) (inside : input <:+ text) :
    (readInvocation input).Within text :=
  (readRun_within text isLabelChar input inside).required.andThen fun _ rest left =>
    (readArgumentPart_within text rest left).map _

theorem readLeaf_within (input : List Char) (inside : input <:+ text) :
    (readLeaf input).Within text := by
  refine Reading.Within.andThen ?_ fun expr rest left => .found expr _ (skipGaps_inside text rest left)
  split
  · next rest => exact readInvocation_within text rest ((List.suffix_cons '#' rest).trans inside)
  · exact readReference_within text input inside

/-! Chains, groups and operands. -/

/-- A chain that an absent operand ends leaves what was there before the separator. -/
theorem readChain_within (separator : List Char → Option (List Char))
    (item : List Char → Reading Expr) (join : Expr → Expr → Expr) (limit : Nat) (left : Expr)
    (input : List Char) (inside : input <:+ text)
    (separates : ∀ middle start, middle <:+ text → separator middle = some start → start <:+ text)
    (items : ∀ start, start <:+ text → (item start).Within text) :
    (readChain separator item join limit left input).Within text := by
  induction limit generalizing left input with
  | zero => exact .found left input inside
  | succ limit ih =>
      rw [readChain]
      split
      · exact .found left input inside
      · next start separated =>
          have within := items start (separates input start inside separated)
          split
          · next right rest read =>
              rw [read] at within
              cases within with
              | found _ _ behind => exact ih (join left right) rest behind
          · exact .found left input inside
          · next error read =>
              rw [read] at within
              cases within with
              | broken _ points => exact .broken error points

section Operands

variable (limit : Nat) (operand : List Char → Reading Expr)
  (operands : ∀ start, start <:+ text → (operand start).Within text)

include operands

theorem readAll_within (input : List Char) (inside : input <:+ text) :
    (readAll limit operand input).Within text := by
  refine (operands input inside).andThen fun left rest behind => ?_
  refine readChain_within text _ operand .and limit left rest behind ?_ operands
  rintro middle _ within ⟨⟩
  cases joined : afterKeyword? ['A', 'N', 'D'] middle with
  | none => exact within
  | some start => exact afterKeyword_inside text _ middle start within joined

theorem readQuery_within (input : List Char) (inside : input <:+ text) :
    (readQuery limit operand input).Within text := by
  refine (readAll_within text limit operand operands input inside).andThen fun left rest behind => ?_
  exact readChain_within text _ _ .or limit left rest behind
    (fun middle start within => afterKeyword_inside text _ middle start within)
    (readAll_within text limit operand operands)

end Operands

/-- What is wrong behind an opening parenthesis is replaced by an error that points right behind
it. -/
theorem readGroup_within (query : List Char → Reading Expr) (body : List Char)
    (inside : '(' :: body <:+ text) (within : (query body).Within text) :
    (readGroup query body).Within text := by
  unfold readGroup
  have behind : body <:+ text := (List.suffix_cons '(' body).trans inside
  cases read : query body with
  | found expr rest =>
      rw [read] at within
      cases within with
      | found _ _ left =>
          have closing := skipGaps_inside text rest left
          simp only
          split
          · next after same =>
              rw [same] at closing
              exact .found expr _ (skipGaps_inside text after ((List.suffix_cons _ _).trans closing))
          · refine .broken _ ⟨left, ?_, ?_, ?_⟩ <;> rintro ⟨⟩
  | absent error =>
      obtain ⟨before, same⟩ := inside
      refine .broken _ ⟨behind, ?_, ?_, fun _ => .inr ⟨before, same.symm⟩⟩ <;> rintro ⟨⟩
  | broken error =>
      rw [read] at within
      cases within with
      | broken _ points => exact .broken error points

theorem tooDeep_within (rest : List Char) (left : rest <:+ text) :
    (Reading.broken ⟨.tooDeep, rest⟩ : Reading Expr).Within text := by
  refine .broken _ ⟨left, ?_, ?_, ?_⟩ <;> rintro ⟨⟩

/-- A negation or a parenthesis takes one from the room for the operand behind it. -/
theorem readOperand_step (limit room : Nat) (input : List Char) (inside : input <:+ text)
    (inner : ∀ less, room = less + 1 → ∀ start, start <:+ text →
      (readOperand limit less start).Within text) :
    (readOperand limit room input).Within text := by
  cases negated : afterNegation? input with
  | some rest =>
      have behind := afterNegation_inside text input rest inside negated
      cases room with
      | zero =>
          rw [readOperand.eq_1 limit input rest negated]
          exact tooDeep_within text rest behind
      | succ room =>
          rw [readOperand.eq_2 limit input rest room negated]
          exact (inner room rfl rest behind).required.map _
  | none =>
      have start := skipGaps_inside text input inside
      by_cases group : ∃ body, skipGaps input = '(' :: body
      · obtain ⟨body, opened⟩ := group
        rw [opened] at start
        have behind := (List.suffix_cons '(' body).trans start
        cases room with
        | zero =>
            rw [readOperand.eq_3 limit input body negated opened]
            exact tooDeep_within text body behind
        | succ room =>
            rw [readOperand.eq_4 limit input body room negated opened]
            exact readGroup_within text _ body start
              (readQuery_within text limit _ (inner room rfl) body behind)
      · rw [readOperand.eq_5 limit input room negated (fun body opened _ => group ⟨body, opened⟩)
          (fun body _ opened _ => group ⟨body, opened⟩)]
        exact readLeaf_within text _ start

theorem readOperand_within (limit room : Nat) (input : List Char) (inside : input <:+ text) :
    (readOperand limit room input).Within text := by
  induction room generalizing input with
  | zero => exact readOperand_step text limit 0 input inside (by simp)
  | succ room ih =>
      refine readOperand_step text limit (room + 1) input inside ?_
      rintro less ⟨⟩
      exact ih

end Readers

/-- Behind the query there is white space only, or what shows there is an error. -/
theorem parse_pointsInto (text : String) (error : SyntaxError) (failed : parse text = .error error) :
    error.PointsInto text.toList := by
  have within := readQuery_within text.toList text.toList.length _
    (readOperand_within text.toList text.toList.length maxNesting) text.toList (List.suffix_refl _)
  rw [parse] at failed
  split at failed
  · next expr rest read =>
      rw [read] at within
      cases within with
      | found _ _ left =>
          have trimmed : Text.trimStart rest <:+ text.toList :=
            (List.dropWhile_suffix Text.isBlank).trans left
          have shown := dropWhile_outside Text.isBlank rest
          split at failed
          · cases failed
          · next after same =>
              cases failed
              refine ⟨same ▸ trimmed, ?_, ?_, ?_⟩ <;> rintro ⟨⟩
          · next c after _ same =>
              cases failed
              refine ⟨same ▸ trimmed, fun _ => ?_, ?_, ?_⟩
              · rw [Text.trimStart] at same
                rw [same] at shown
                simpa [Text.isBlankText] using fun blank => absurd (shown.symm.trans blank) (by simp)
              · rintro ⟨⟩
              · rintro ⟨⟩
  · next read =>
      cases failed
      rw [read] at within
      cases within with
      | absent _ points => exact points
  · next read =>
      cases failed
      rw [read] at within
      cases within with
      | broken _ points => exact points

/-- A text that is no query is refused with an end of it as the place of the error. What shows there
is what an unexpected token is; an unterminated string begins there with a quote, behind which every
quote is escaped; a missing expression is missed at the end of the text or right behind an opening
parenthesis. -/
theorem error_place_exact (text : String) (error : SyntaxError) (failed : parse text = .error error) :
    ∃ before, text = before ++ error.location ∧
      (error.fault = .unexpectedToken → Text.isBlankText error.location.toList = false) ∧
      (error.fault = .unterminatedString → ∃ body, error.location.toList = '"' :: body ∧
        ∀ inner after, body = inner ++ '"' :: after → escapesNext inner = true) ∧
      (error.fault = .expectedExpression → Text.isBlankText error.location.toList = true ∨
        before.toList.getLast? = some '(') := by
  have points := parse_pointsInto text error failed
  have place : error.location.toList = error.rest := String.toList_ofList
  obtain ⟨before, split⟩ := points.unread
  refine ⟨String.ofList before, ?_, ?_, ?_, ?_⟩
  · rw [SyntaxError.location, ← String.ofList_append, split, String.ofList_toList]
  · rw [place]
    exact points.token
  · rw [place]
    exact points.string
  · rw [place]
    intro missed
    refine (points.expression missed).imp_right ?_
    rintro ⟨front, opened⟩
    -- Both front parts come before the same end of the text.
    have joined : before ++ error.rest = (front ++ ['(']) ++ error.rest := by
      rw [split, opened, List.append_assoc]
      rfl
    have same := List.append_cancel_right joined
    rw [String.toList_ofList, same, List.getLast?_concat]

/-- An open string with an escaped quote in it, and a group with nothing in it. -/
theorem error_place_exact_album :
    (∃ before, "(cat) #name:\"a\\\"b" = before ++ "\"a\\\"b" ∧
      ∀ inner after, ['a', '\\', '"', 'b'] = inner ++ '"' :: after → escapesNext inner = true) ∧
    ∃ before, "NOT (cat ( ) OR" = before ++ " ) OR" ∧ before.toList.getLast? = some '(' := by
  have openString : parse "(cat) #name:\"a\\\"b" =
      .error ⟨.unterminatedString, ['"', 'a', '\\', '"', 'b']⟩ := by decide +kernel
  have emptyGroup : parse "NOT (cat ( ) OR" =
      .error ⟨.expectedExpression, [' ', ')', ' ', 'O', 'R']⟩ := by decide +kernel
  obtain ⟨before, split, _, string, _⟩ := error_place_exact _ _ openString
  obtain ⟨front, splitToo, _, _, expression⟩ := error_place_exact _ _ emptyGroup
  obtain ⟨body, starts, escaped⟩ := string rfl
  refine ⟨⟨before, split, ?_⟩, front, splitToo, (expression rfl).resolve_left (by decide)⟩
  cases starts
  exact escaped

end Gallery.Query
