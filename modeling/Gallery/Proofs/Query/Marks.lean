import Gallery.Proofs.Query.Emission
import Gallery.Proofs.Query.StandardTemplates

/-!
Parameter marks. The marks of a statement are bound by position, so the values must be listed in the
order in which the marks stand. Each mark stands for a placeholder in the template of a leaf, and
the value with its number is the one that this leaf gives to this placeholder (`marks_line_up`).
-/

namespace Gallery.Query

namespace Template

/-- A placeholder as it is written in a template. -/
def slotText (name : String) : List Char :=
  '\x7b' :: (name.toList ++ ['\x7d'])

/-- The text of a template with marks. -/
def rendered (values : List (String × String)) (template : List Char) : List Char :=
  (renderAfter values 0 template).1

/-- The values of the marks of a template, in their order. -/
def listed (values : List (String × String)) (template : List Char) : List String :=
  (renderAfter values 0 template).2

variable (values : List (String × String))

theorem renderAfter_drop (skip : Nat) (text : List Char) :
    renderAfter values skip text = renderAfter values 0 (text.drop skip) := by
  induction text generalizing skip with
  | nil => cases skip <;> rfl
  | cons c rest ih =>
      cases skip with
      | zero => rfl
      | succ skip => exact ih skip

/-! A placeholder is found by what stands up to its closing brace. -/

theorem placeholder_some (text : List Char) (value : String) (length : Nat)
    (found : placeholder? values text = some (value, length)) :
    ∃ name trail, (name, value) ∈ values ∧ length = name.length + 1 ∧
      text = name.toList ++ '\x7d' :: trail := by
  rcases Option.map_eq_some_iff.mp found with ⟨entry, first, same⟩
  cases same
  have starts := List.find?_some first
  rcases List.isPrefixOf_iff_prefix.mp starts with ⟨trail, rfl⟩
  exact ⟨entry.1, trail, List.mem_of_find?_eq_some first, rfl, by simp⟩

theorem placeholder_none_of_prefix (text more : List Char)
    (absent : placeholder? values (text ++ more) = none) : placeholder? values text = none := by
  simp only [placeholder?, Option.map_eq_none_iff, List.find?_eq_none] at absent ⊢
  intro entry member starts
  rw [List.isPrefixOf_iff_prefix] at starts
  exact absent entry member (List.isPrefixOf_iff_prefix.mpr (starts.trans (List.prefix_append _ _)))

theorem placeholder_some_of_prefix (text more : List Char) (value : String) (length : Nat)
    (found : placeholder? values (text ++ more) = some (value, length))
    (whole : length ≤ text.length) : placeholder? values text = some (value, length) := by
  rcases Option.map_eq_some_iff.mp found with ⟨chosen, first, same⟩
  cases same
  rcases List.find?_eq_some_iff_append.mp first with ⟨starts, before, after, split, others⟩
  refine Option.map_eq_some_iff.mpr ⟨chosen, ?_, rfl⟩
  refine List.find?_eq_some_iff_append.mpr ⟨?_, before, after, split, fun entry member => ?_⟩
  · rw [List.isPrefixOf_iff_prefix] at starts ⊢
    exact List.prefix_of_prefix_length_le starts (List.prefix_append _ _)
      (by simpa [← String.length_toList] using whole)
  · have other := others entry member
    rw [Bool.not_eq_true', ← Bool.not_eq_true, List.isPrefixOf_iff_prefix] at other ⊢
    exact fun starts => other (starts.trans (List.prefix_append _ _))

/-! One step of rendering. -/

/-- The placeholder that starts with `c`, which `rest` follows. -/
def starts? (c : Char) (rest : List Char) : Option (String × Nat) :=
  if c = '\x7b' then placeholder? values rest else none

theorem render_character (c : Char) (rest : List Char) (plain : starts? values c rest = none) :
    rendered values (c :: rest) = c :: rendered values rest ∧
      listed values (c :: rest) = listed values rest := by
  rw [starts?] at plain
  simp only [rendered, listed, renderAfter, plain, and_self]

theorem render_slot (name value : String) (rest : List Char)
    (found : placeholder? values (name.toList ++ '\x7d' :: rest) = some (value, name.length + 1)) :
    rendered values (slotText name ++ rest) = parameterMark :: rendered values rest ∧
      listed values (slotText name ++ rest) = value :: listed values rest := by
  have shape : slotText name ++ rest = '\x7b' :: (name.toList ++ '\x7d' :: rest) := by
    simp [slotText]
  have behind : (name.toList ++ '\x7d' :: rest).drop (name.length + 1) = rest := by
    rw [← String.length_toList, List.drop_length_add_append]
    rfl
  have later : renderAfter values (name.length + 1) (name.toList ++ '\x7d' :: rest) =
      renderAfter values 0 rest := by
    rw [renderAfter_drop, behind]
  simp only [rendered, listed, shape, renderAfter, ↓reduceIte, found, later, and_self]

/-- Induction along the rendering of a template. -/
theorem render_induction {motive : List Char → Prop} (nil : motive [])
    (character : ∀ c rest, starts? values c rest = none → motive rest → motive (c :: rest))
    (slot : ∀ name value rest, (name, value) ∈ values →
      placeholder? values (name.toList ++ '\x7d' :: rest) = some (value, name.length + 1) →
        motive rest → motive (slotText name ++ rest))
    (template : List Char) : motive template := by
  induction size : template.length using Nat.strong_induction_on generalizing template with
  | _ size ih =>
      cases template with
      | nil => exact nil
      | cons c rest =>
          cases start : starts? values c rest with
          | none => exact character c rest start (ih rest.length (by simp [← size]) rest rfl)
          | some found =>
              rw [starts?] at start
              split at start
              · next brace =>
                  subst brace
                  rcases placeholder_some values rest found.1 found.2 start with
                    ⟨name, trail, member, length, rfl⟩
                  have later := ih trail.length (by simp [← size]; omega) trail rfl
                  have whole := slot name found.1 trail member (by rw [start, ← length]) later
                  simpa [slotText] using whole
              · cases start

/-- `Marked values template before value after`: before the text `after`, a mark stands behind the
text `before` in place of a placeholder of the template that has the value. -/
def Marked (template before : List Char) (value : String) (after : List Char) : Prop :=
  ∃ lead name trail, template = lead ++ (slotText name ++ trail) ∧ (name, value) ∈ values ∧
    before = rendered values lead ∧ after = rendered values trail

theorem count_rendered (template : List Char) (plain : parameterMark ∉ template) :
    (rendered values template).count parameterMark = (listed values template).length := by
  induction template using render_induction values with
  | nil => rfl
  | character c rest start ih =>
      rw [List.mem_cons, not_or] at plain
      rcases render_character values c rest start with ⟨text, list⟩
      rw [text, list, List.count_cons_of_ne (Ne.symm plain.1), ih plain.2]
  | slot name value rest member found ih =>
      rcases render_slot values name value rest found with ⟨text, list⟩
      rw [List.mem_append, not_or] at plain
      rw [text, list, List.count_cons_self, List.length_cons, ih plain.2]

theorem marked_of_rendered (template : List Char) (plain : parameterMark ∉ template)
    (before after : List Char)
    (split : rendered values template = before ++ parameterMark :: after) :
    ∃ value, (listed values template)[before.count parameterMark]? = some value ∧
      Marked values template before value after := by
  induction template using render_induction values generalizing before with
  | nil => simp [rendered, renderAfter] at split
  | character c rest start ih =>
      rw [List.mem_cons, not_or] at plain
      rcases render_character values c rest start with ⟨text, list⟩
      rw [text] at split
      cases before with
      | nil => exact absurd (List.cons.inj split).1.symm plain.1
      | cons first before =>
          rcases List.cons.inj split with ⟨rfl, later⟩
          rcases ih plain.2 before later with
            ⟨value, bound, lead, name, trail, rfl, member, rfl, same⟩
          refine ⟨value, ?_, c :: lead, name, trail, rfl, member, ?_, same⟩
          · rwa [list, List.count_cons_of_ne (Ne.symm plain.1)]
          · have startLead : starts? values c lead = none := by
              rw [starts?] at start ⊢
              split at start
              · next brace =>
                  rw [if_pos brace]
                  exact placeholder_none_of_prefix values lead _ start
              · next brace => rw [if_neg brace]
            exact (render_character values c lead startLead).1.symm
  | slot name value rest member found ih =>
      rcases render_slot values name value rest found with ⟨text, list⟩
      rw [List.mem_append, not_or] at plain
      rw [text] at split
      cases before with
      | nil =>
          refine ⟨value, by rw [list]; rfl, [], name, rest, rfl, member, rfl, ?_⟩
          exact (List.cons.inj split).2.symm
      | cons first before =>
          rcases List.cons.inj split with ⟨rfl, later⟩
          rcases ih plain.2 before later with
            ⟨other, bound, lead, otherName, trail, rfl, otherMember, rfl, same⟩
          refine ⟨other, ?_, slotText name ++ lead, otherName, trail, ?_, otherMember, ?_, same⟩
          · rw [list, List.count_cons_self, List.getElem?_cons_succ, bound]
          · rw [List.append_assoc]
          · have foundLead := placeholder_some_of_prefix values (name.toList ++ '\x7d' :: lead)
              (slotText otherName ++ trail) value (name.length + 1) (by simpa using found)
              (by simp [← String.length_toList])
            exact (render_slot values name value lead foundLead).1.symm

end Template

/-- Conjunction and disjunction, with the texts of their operators. -/
inductive Connective : (Expr → Expr → Expr) → List Char → Prop where
  | and : Connective .and " AND ".toList
  | or : Connective .or " OR ".toList

section Leaves

variable (lookup : TagLookup) (registry : Registry) (caseDefault : Bool)

/-- The condition of the expression has the text. -/
def HasText (expr : Expr) (text : List Char) : Prop :=
  ∃ condition, Condition.ofExpr lookup registry caseDefault expr = .ok condition ∧
    condition.write [] = text

/-- `LeafAt … leaf expr before after`: the leaf stands in the expression where, in the text of the
expression, its own text stands between `before` and `after`. -/
inductive LeafAt (leaf : Expr) : Expr → List Char → List Char → Prop where
  | self : LeafAt leaf leaf [] []
  | left (join : Expr → Expr → Expr) (operator : List Char) (left right : Expr)
      (before after other : List Char) (connective : Connective join operator)
      (inside : LeafAt leaf left before after)
      (text : HasText lookup registry caseDefault right other) :
      LeafAt leaf (join left right) ('(' :: before) (after ++ (operator ++ (other ++ [')'])))
  | right (join : Expr → Expr → Expr) (operator : List Char) (left right : Expr)
      (before after other : List Char) (connective : Connective join operator)
      (text : HasText lookup registry caseDefault left other)
      (inside : LeafAt leaf right before after) :
      LeafAt leaf (join left right) ('(' :: (other ++ (operator ++ before))) (after ++ [')'])
  | not (operand : Expr) (before after : List Char) (inside : LeafAt leaf operand before after) :
      LeafAt leaf (.not operand) ("NOT ".toList ++ before) after

/-- `Bound … expr before value after`: in the text of the expression a mark stands between `before`
and `after`. It stands in the text of a pattern, for a placeholder of its template, and the value is
the one that the pattern gives to this placeholder. -/
def Bound (expr : Expr) (before : List Char) (value : String) (after : List Char) : Prop :=
  ∃ name argument template outer start stop rest,
    LeafAt lookup registry caseDefault (.pseudo name (some argument)) expr outer rest ∧
    registry.find? name = some ⟨.pattern, template⟩ ∧
    HasText lookup registry caseDefault (.pseudo name (some argument))
      (start ++ Template.parameterMark :: stop) ∧
    Template.Marked
      (Condition.placeholders argument.pattern (Condition.flagsOf caseDefault argument))
      template.toList start value stop ∧
    before = outer ++ start ∧ after = stop ++ rest

/-- There is a parameter for every mark of the text, the one that the mark stands for. -/
structure LinesUp (expr : Expr) (text : List Char) (parameters : List String) : Prop where
  count : text.count Template.parameterMark = parameters.length
  bound : ∀ before after, text = before ++ Template.parameterMark :: after →
    ∃ value, parameters[before.count Template.parameterMark]? = some value ∧
      Bound lookup registry caseDefault expr before value after

theorem mark_in_append (first second before after : List Char) (c : Char)
    (split : first ++ second = before ++ c :: after) :
    (∃ rest, first = before ++ c :: rest ∧ after = rest ++ second) ∨
      ∃ more, before = first ++ more ∧ second = more ++ c :: after := by
  rcases List.append_eq_append_iff.mp split with ⟨more, rfl, same⟩ | ⟨more, rfl, same⟩
  · exact .inr ⟨more, rfl, same⟩
  · cases more with
    | nil => exact .inr ⟨[], by simp, same.symm⟩
    | cons first rest =>
        rcases List.cons.inj same with ⟨rfl, rfl⟩
        exact .inl ⟨rest, rfl, rfl⟩

variable {lookup registry caseDefault}

theorem Bound.inLeft {expr : Expr} {before : List Char} {value : String} {after : List Char}
    (bound : Bound lookup registry caseDefault expr before value after)
    (join : Expr → Expr → Expr) (operator : List Char) (connective : Connective join operator)
    (right : Expr) (other : List Char) (text : HasText lookup registry caseDefault right other) :
    Bound lookup registry caseDefault (join expr right) ('(' :: before) value
      (after ++ (operator ++ (other ++ [')']))) := by
  rcases bound with ⟨name, argument, template, outer, start, stop, rest, leaf, found, own, marked,
    rfl, rfl⟩
  exact ⟨name, argument, template, _, start, stop, _,
    .left join operator expr right outer rest other connective leaf text, found, own, marked, rfl,
    by simp⟩

theorem Bound.inRight {expr : Expr} {before : List Char} {value : String} {after : List Char}
    (bound : Bound lookup registry caseDefault expr before value after)
    (join : Expr → Expr → Expr) (operator : List Char) (connective : Connective join operator)
    (left : Expr) (other : List Char) (text : HasText lookup registry caseDefault left other) :
    Bound lookup registry caseDefault (join left expr) ('(' :: (other ++ (operator ++ before)))
      value (after ++ [')']) := by
  rcases bound with ⟨name, argument, template, outer, start, stop, rest, leaf, found, own, marked,
    rfl, rfl⟩
  exact ⟨name, argument, template, _, start, stop, _,
    .right join operator left expr outer rest other connective text leaf, found, own, marked,
    by simp, by simp⟩

theorem Bound.inNot {expr : Expr} {before : List Char} {value : String} {after : List Char}
    (bound : Bound lookup registry caseDefault expr before value after) :
    Bound lookup registry caseDefault (.not expr) ("NOT ".toList ++ before) value after := by
  rcases bound with ⟨name, argument, template, outer, start, stop, rest, leaf, found, own, marked,
    rfl, rfl⟩
  exact ⟨name, argument, template, _, start, stop, _, .not expr outer rest leaf, found, own, marked,
    by simp, rfl⟩

theorem Connective.unmarked {join : Expr → Expr → Expr} {operator : List Char}
    (connective : Connective join operator) : Template.parameterMark ∉ operator := by
  cases connective <;> decide

-- The marks of the left side come first, and so do its parameters.
theorem linesUp_junction (join : Expr → Expr → Expr) (operator : List Char)
    (connective : Connective join operator) (left right : Expr) (first second : List Char)
    (inFirst inSecond : List String) (textLeft : HasText lookup registry caseDefault left first)
    (textRight : HasText lookup registry caseDefault right second)
    (linesLeft : LinesUp lookup registry caseDefault left first inFirst)
    (linesRight : LinesUp lookup registry caseDefault right second inSecond) :
    LinesUp lookup registry caseDefault (join left right) (junctionText operator first second)
      (inFirst ++ inSecond) := by
  have none : operator.count Template.parameterMark = 0 :=
    List.count_eq_zero.mpr connective.unmarked
  have opening : '(' ≠ Template.parameterMark := by decide
  have closing : [')'].count Template.parameterMark = 0 := by decide
  refine ⟨?_, fun before after split => ?_⟩
  · simp only [junctionText, List.count_cons_of_ne opening, List.count_append, none, closing,
      linesLeft.count, linesRight.count, List.length_append]
    omega
  · cases before with
    | nil => exact absurd (List.cons.inj split).1 opening
    | cons c before =>
        rcases List.cons.inj split with ⟨rfl, later⟩
        rw [List.count_cons_of_ne opening]
        rcases mark_in_append _ _ _ _ _ later with ⟨rest, inside, rfl⟩ | ⟨more, rfl, behind⟩
        · rcases linesLeft.bound before rest inside with ⟨value, found, bound⟩
          have within := (List.getElem?_eq_some_iff.mp found).1
          exact ⟨value, by rw [List.getElem?_append_left within, found],
            bound.inLeft join operator connective right second textRight⟩
        · rcases mark_in_append _ _ _ _ _ behind with ⟨rest, inside, _⟩ | ⟨more, rfl, last⟩
          · exact absurd (by rw [inside]; simp) connective.unmarked
          · rcases mark_in_append _ _ _ _ _ last with ⟨rest, inside, rfl⟩ | ⟨more, _, outside⟩
            · rcases linesRight.bound more rest inside with ⟨value, found, bound⟩
              refine ⟨value, ?_, bound.inRight join operator connective left first textLeft⟩
              rw [List.count_append, List.count_append, none, linesLeft.count, Nat.zero_add,
                List.getElem?_append_right (Nat.le_add_right _ _), Nat.add_sub_cancel_left, found]
            · have member : Template.parameterMark ∈ [')'] := by
                rw [outside]
                simp
              exact absurd member (by decide)

theorem linesUp_unmarked (expr : Expr) (text : List Char)
    (unmarked : Template.parameterMark ∉ text) :
    LinesUp lookup registry caseDefault expr text [] := by
  refine ⟨List.count_eq_zero.mpr unmarked, ?_⟩
  rintro before after rfl
  exact absurd (by simp) unmarked

theorem unmarked_carries (tag : Int) :
    Template.parameterMark ∉ (Condition.carries tag).write [] := by
  have words : Template.parameterMark ∉ "EXISTS (SELECT 1 FROM picture_tag AS pt ".toList ∧
      Template.parameterMark ∉ "WHERE pt.picture_id = p.id AND pt.tag_id = ".toList := by
    decide +kernel
  have digits : Template.parameterMark ∉ Nat.toDigits 10 tag.natAbs := fun member =>
    absurd (Nat.isDigit_of_mem_toDigits (by omega) (by omega) member) (by decide)
  have sign : Template.parameterMark ∉ if tag < 0 then ['-'] else [] := by
    split <;> decide
  rw [Condition.write_carries, toString_digits]
  simp only [List.mem_append, List.mem_cons, List.not_mem_nil, words, digits, sign, or_false,
    false_or]
  decide

theorem linesUp_pattern (name template : String) (argument : Argument)
    (found : registry.find? name = some ⟨.pattern, template⟩)
    (plain : Template.parameterMark ∉ template.toList) :
    LinesUp lookup registry caseDefault (.pseudo name (some argument))
      ((Condition.pattern template argument.pattern
        (Condition.flagsOf caseDefault argument)).write [])
      (Condition.pattern template argument.pattern
        (Condition.flagsOf caseDefault argument)).parameters := by
  have built : HasText lookup registry caseDefault (.pseudo name (some argument))
      ((Condition.pattern template argument.pattern
        (Condition.flagsOf caseDefault argument)).write []) :=
    ⟨_, by unfold Condition.ofExpr; simp only [found], rfl⟩
  have text : (Condition.pattern template argument.pattern
      (Condition.flagsOf caseDefault argument)).write [] = Template.rendered
        (Condition.placeholders argument.pattern (Condition.flagsOf caseDefault argument))
          template.toList := by
    rw [Condition.write_pattern, List.append_nil]
    rfl
  have list : (Condition.pattern template argument.pattern
      (Condition.flagsOf caseDefault argument)).parameters = Template.listed
        (Condition.placeholders argument.pattern (Condition.flagsOf caseDefault argument))
          template.toList := List.append_nil _
  rw [text] at built ⊢
  rw [list]
  refine ⟨Template.count_rendered _ _ plain, fun before after split => ?_⟩
  rcases Template.marked_of_rendered _ _ plain before after split with ⟨value, listed, marked⟩
  exact ⟨value, listed, name, argument, template, [], before, after, [], .self, found,
    split ▸ built, marked, rfl, by simp⟩

/-- The parameters of a condition are those of its parts, from left to right. -/
theorem parametersBefore_append (condition : Condition) (rest : List String) :
    condition.parametersBefore rest = condition.parameters ++ rest := by
  induction condition generalizing rest with
  | never | carries | flag => rfl
  | pattern template value flags =>
      rw [Condition.parameters, Condition.parametersBefore, Condition.parametersBefore,
        List.append_nil]
  | and left right ihLeft ihRight | or left right ihLeft ihRight =>
      rw [Condition.parameters, Condition.parametersBefore, Condition.parametersBefore, ihLeft,
        ihRight, ihLeft, ihRight []]
      simp
  | not operand ih => exact ih rest

theorem parameters_and (first second : Condition) :
    (Condition.and first second).parameters = first.parameters ++ second.parameters :=
  parametersBefore_append first _

theorem parameters_or (first second : Condition) :
    (Condition.or first second).parameters = first.parameters ++ second.parameters :=
  parametersBefore_append first _

theorem linesUp_not (operand : Expr) (text : List Char) (parameters : List String)
    (lines : LinesUp lookup registry caseDefault operand text parameters) :
    LinesUp lookup registry caseDefault (.not operand) ("NOT ".toList ++ text) parameters := by
  have unmarked : Template.parameterMark ∉ "NOT ".toList := by decide
  have none : "NOT ".toList.count Template.parameterMark = 0 := List.count_eq_zero.mpr unmarked
  refine ⟨?_, fun before after split => ?_⟩
  · rw [List.count_append, none, Nat.zero_add]
    exact lines.count
  · rcases mark_in_append _ _ _ _ _ split with ⟨rest, inside, _⟩ | ⟨more, rfl, later⟩
    · exact absurd (by rw [inside]; simp) unmarked
    · rcases lines.bound more after later with ⟨value, found, bound⟩
      refine ⟨value, ?_, bound.inNot⟩
      rw [List.count_append, none, Nat.zero_add]
      exact found

theorem linesUp_condition
    (plain : ∀ entry ∈ registry.entries, Template.parameterMark ∉ entry.2.template.toList)
    (expr : Expr) (condition : Condition)
    (built : Condition.Built lookup registry caseDefault expr condition) :
    LinesUp lookup registry caseDefault expr (condition.write []) condition.parameters := by
  have text (expr : Expr) (condition : Condition)
      (built : Condition.Built lookup registry caseDefault expr condition) :
      HasText lookup registry caseDefault expr (condition.write []) :=
    ⟨condition, ofExpr_of_built _ _ _ expr condition built, rfl⟩
  induction built with
  | reference label symbol =>
      rcases ofReference_cases lookup label symbol with never | ⟨tag, carries⟩
      · rw [never]
        exact linesUp_unmarked _ _ (by decide +kernel)
      · rw [carries]
        exact linesUp_unmarked _ _ (unmarked_carries tag)
  | flag name template found =>
      rw [Condition.write_flag, List.append_nil]
      exact linesUp_unmarked _ _ (plain _ (mem_of_find registry name _ found))
  | pattern name template argument found =>
      exact linesUp_pattern name template argument found
        (plain _ (mem_of_find registry name _ found))
  | and left right first second inLeft inRight ihLeft ihRight =>
      rw [Condition.write_and_alone, parameters_and]
      exact linesUp_junction .and _ .and left right _ _ _ _ (text left first inLeft)
        (text right second inRight) ihLeft ihRight
  | or left right first second inLeft inRight ihLeft ihRight =>
      rw [Condition.write_or_alone, parameters_or]
      exact linesUp_junction .or _ .or left right _ _ _ _ (text left first inLeft)
        (text right second inRight) ihLeft ihRight
  | not operand inner _ ih =>
      rw [Condition.write_not]
      exact linesUp_not operand _ _ ih

end Leaves

theorem statement_toList (condition : Condition) :
    condition.statement.toList =
      "SELECT p.id, p.path, p.hash FROM pictures AS p WHERE ".toList ++
        (condition.write [] ++ " ORDER BY p.id".toList) := by
  unfold Condition.statement Condition.text
  simp only [String.toList_append, String.toList_ofList, List.append_assoc]

/-- The marks of a statement and its parameters line up: there are as many of the ones as of the
others, and the mark with the number `k` stands in the text of a pattern, for a placeholder of its
template, to which the pattern gives the parameter with the number `k`. -/
theorem marks_line_up (lookup : TagLookup) (registry : Registry) (caseDefault : Bool)
    (plain : ∀ entry ∈ registry.entries, Template.parameterMark ∉ entry.2.template.toList)
    (expr : Expr) (condition : Condition)
    (built : Condition.ofExpr lookup registry caseDefault expr = .ok condition) :
    condition.statement.toList.count Template.parameterMark = condition.parameters.length ∧
    ∀ before after, condition.statement.toList = before ++ Template.parameterMark :: after →
      ∃ start value stop,
        condition.parameters[before.count Template.parameterMark]? = some value ∧
        before = "SELECT p.id, p.path, p.hash FROM pictures AS p WHERE ".toList ++ start ∧
        after = stop ++ " ORDER BY p.id".toList ∧
        Bound lookup registry caseDefault expr start value stop := by
  have lines := linesUp_condition plain expr condition (built_of_ofExpr _ _ _ _ _ built)
  have head : Template.parameterMark ∉
      "SELECT p.id, p.path, p.hash FROM pictures AS p WHERE ".toList := by decide +kernel
  have tail : Template.parameterMark ∉ " ORDER BY p.id".toList := by decide +kernel
  refine ⟨?_, fun before after split => ?_⟩
  · rw [statement_toList, List.count_append, List.count_append, List.count_eq_zero.mpr head,
      List.count_eq_zero.mpr tail, lines.count]
    omega
  · rw [statement_toList] at split
    rcases mark_in_append _ _ _ _ _ split with ⟨rest, inside, _⟩ | ⟨start, rfl, later⟩
    · exact absurd (by rw [inside]; simp) head
    · rcases mark_in_append _ _ _ _ _ later with ⟨stop, inside, rfl⟩ | ⟨more, _, outside⟩
      · rcases lines.bound start stop inside with ⟨value, found, bound⟩
        refine ⟨start, value, stop, ?_, rfl, rfl, bound⟩
        rw [List.count_append, List.count_eq_zero.mpr head, Nat.zero_add]
        exact found
      · exact absurd (by rw [outside]; simp) tail

/-- A pattern whose template has its placeholders in another order, one of them twice, and a brace
that belongs to none. -/
def twofold : Registry :=
  ⟨[("twofold", ⟨.pattern, "f(\x7bflags\x7d, \x7b\x7bpattern\x7d, \x7bpattern\x7d)"⟩)]⟩

theorem marks_line_up_twofold :
    ∃ condition, Condition.ofExpr zoo.lookup twofold false
        (.and (.not (.pseudo "twofold" (some ⟨"?", some true⟩)))
          (.pseudo "twofold" (some ⟨"a", none⟩))) = .ok condition ∧
      condition.parameters = ["s", "?", "?", "i", "a", "a"] ∧
      condition.statement.toList.count Template.parameterMark = 6 := by
  have plain : ∀ entry ∈ twofold.entries,
      Template.parameterMark ∉ entry.2.template.toList := by decide +kernel
  have lines := marks_line_up zoo.lookup twofold false plain
    (.and (.not (.pseudo "twofold" (some ⟨"?", some true⟩)))
      (.pseudo "twofold" (some ⟨"a", none⟩))) _ rfl
  have values : (Condition.and
      (.not (.pattern "f(\x7bflags\x7d, \x7b\x7bpattern\x7d, \x7bpattern\x7d)" "?" "s"))
      (.pattern "f(\x7bflags\x7d, \x7b\x7bpattern\x7d, \x7bpattern\x7d)" "a" "i")).parameters =
        ["s", "?", "?", "i", "a", "a"] := by decide +kernel
  exact ⟨_, rfl, values, lines.1.trans (congrArg List.length values)⟩

end Gallery.Query
