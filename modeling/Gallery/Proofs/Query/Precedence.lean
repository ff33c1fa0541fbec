import Gallery.Proofs.Query.Contradiction
import Gallery.Proofs.Query.Selection
import Gallery.Proofs.Query.Validation
import Gallery.Proofs.Sql.Evaluation
import Gallery.Proofs.Sql.Tokens

/-!
What a reader makes of the text of a condition. Only conjunctions and disjunctions are put between
parentheses, so everything else must hold together by the strength of its operators: the text of
every condition stands as one operand of `NOT`. Hence the tree that is read has the connectives of
the expression in their places (`text_keeps_structure`).
-/

namespace Gallery

namespace Sql

/-! The texts of negations and junctions. -/

theorem StandsFor.negated {text : List Char} {parameters : List String} {operand : Expression}
    (stands : StandsFor text parameters operand) :
    StandsFor ("NOT ".toList ++ text) parameters (.not operand) := by
  rcases stands with ⟨found, cut, written⟩
  have spelled : "NOT ".toList ++ text = "NOT".toList ++ ' ' :: text := by
    rw [show "NOT ".toList = "NOT".toList ++ [' '] by decide, List.append_assoc]
    rfl
  refine ⟨.word "NOT" :: found, ?_, Query.written_not found parameters operand written⟩
  rw [spelled]
  exact tokens_append _ _ [.word "NOT"] found (boundary_space text) (by decide +kernel) cut

/-- A word with the text that puts it between two operands, which are read at the strength of `NOT`
or at a weaker one. -/
structure Joins (strength : Strength) (word : String) (operator : List Char)
    (build : Expression → Expression → Expression) : Prop where
  spelled : operator = ' ' :: (word.toList ++ [' '])
  weak : strength.next.rank ≤ Strength.not.rank
  between : strength.IsInfix
  cut : tokens word.toList = some [.word word]
  found : ∀ rest, operator? strength (.word word :: rest) = some (build, rest)
  stops : ∀ rest, Stops strength.next (.word word :: rest)

theorem joins_and : Joins .and "AND" " AND ".toList .and where
  spelled := by decide
  weak := by decide
  between := by simp [Strength.IsInfix]
  cut := by decide +kernel
  found rest := by simp [operator?, Query.keyword_word "AND" (by decide)]
  stops rest := Query.stops_and rest

theorem joins_or : Joins .or "OR" " OR ".toList .or where
  spelled := by decide
  weak := by decide
  between := by simp [Strength.IsInfix]
  cut := by decide +kernel
  found rest := by simp [operator?, Query.keyword_word "OR" (by decide)]
  stops rest := by
    have keyword := Query.keyword_word "OR" (by decide)
    refine ⟨fun other bound => ?_, by simp, by simp⟩
    cases other with
    | or => simp [Strength.rank, Strength.next] at bound
    | _ => simp [operator?, keyword]

theorem StandsFor.joined {strength : Strength} {word : String} {operator : List Char}
    {build : Expression → Expression → Expression} {first second : List Char}
    {parameters values : List String} {left right : Expression}
    (joins : Joins strength word operator build) (standsLeft : StandsFor first parameters left)
    (standsRight : StandsFor second values right) :
    StandsFor (Query.junctionText operator first second) (parameters ++ values)
      (build left right) := by
  rcases standsLeft with ⟨found, cut, written⟩
  rcases standsRight with ⟨others, cutOthers, writtenOthers⟩
  have weak : strength.rank ≤ Strength.not.rank :=
    Nat.le_trans (by cases strength <;> decide) joins.weak
  have unsigned : Strength.not.rank < Strength.minus.rank := by decide
  have inside : Written (.expression .or) (found ++ .word word :: others) (parameters ++ values)
      [build left right] :=
    written_raise strength .or (by simp [Strength.rank]) _ _ _
      (fun strong => absurd weak (by omega)) (fun strong => absurd weak (by omega))
      (.binary strength (.word word) [] build found others parameters values left right
        joins.between joins.found joins.stops
        (written_raise .not strength.next joins.weak _ _ _ (by simp) (by simp [Strength.rank])
          written)
        (written_raise .not strength.next joins.weak _ _ _ (by simp) (by simp [Strength.rank])
          writtenOthers))
  refine ⟨.sign "(" :: ((found ++ .word word :: others) ++ [.sign ")"]), ?_, ?_⟩
  · have closed := tokens_append second [')'] others [.sign ")"] (boundary_closing [])
      cutOthers (by decide +kernel)
    have joined := tokens_append word.toList (' ' :: (second ++ [')'])) _ _ (boundary_space _)
      joins.cut closed
    have whole := tokens_append first (' ' :: (word.toList ++ ' ' :: (second ++ [')']))) _ _
      (boundary_space _) cut joined
    have opened := tokens_sign '(' _ _ (by decide) whole
    simpa [Query.junctionText, joins.spelled] using opened
  · rcases written_head _ _ _ _ inside with ⟨token, rest, shape, _, plain⟩
    exact Query.written_weak .not _ _ _ _ ⟨by decide, by decide⟩
      (.group _ _ _ (by rw [shape]; rintro _ ⟨⟩; exact plain) inside)

end Sql

namespace Query

section Leaves

open Sql

/-! The texts of the leaves. -/

theorem leads_number (numeral : Numeral) : Leads (.number numeral) :=
  ⟨by simp [Token.keyword?], by simp⟩

theorem never_standsFor :
    StandsFor "1 = 0".toList [] (equalExpression (.value (.integer 1)) (.value (.integer 0))) :=
  ⟨[.number ⟨1, 0, true⟩, .sign "=", .number ⟨0, 0, true⟩], by decide +kernel,
    written_equal .not (by decide) _ [] _ [] [] _ _ (leads_number _)
      (written_weak .order _ _ _ _ (leads_number _) (.number ⟨1, 0, true⟩))
      (written_weak .order _ _ _ _ (leads_number _) (.number ⟨0, 0, true⟩))⟩

/-- The identity can be stored, and so can its opposite. -/
def Storable (tag : Int) : Prop :=
  tag.natAbs ≤ 0x7FFFFFFFFFFFFFFF

/-- An identity is written as one number, perhaps with a minus. The number that is read is the
identity when it can be stored. -/
theorem written_identity (tag : Int) :
    ∃ found number, tokens (toString tag).toList = some found ∧
      Written (.expression .order) found [] [number] ∧
      (Storable tag → number = numberExpression tag) := by
  have digits := tokens_digits tag.natAbs
  have numeral := Written.number ⟨tag.natAbs, 0, true⟩
  have whole (storable : Storable tag) :
      (⟨tag.natAbs, 0, true⟩ : Numeral).value false = .integer tag.natAbs := by
    rw [Storable] at storable
    simp only [Numeral.value, storable?, Bool.false_eq_true, ↓reduceIte]
    rw [if_pos (by omega)]
    rfl
  rw [toString_digits, numberExpression]
  split
  · have signed := Written.negative _ _ _ (written_weak .minus _ _ _ _ (leads_number _) numeral)
    refine ⟨_, _, tokens_sign '-' _ _ (by decide) digits,
      written_raise .minus .order (by decide) _ _ _ (by simp [Token.keyword?]) (by simp) signed,
      fun storable => ?_⟩
    rw [whole storable]
  · refine ⟨_, _, digits, written_weak .order _ _ _ _ (leads_number _) numeral, fun storable => ?_⟩
    rw [whole storable, Int.natAbs_of_nonneg (by omega)]

theorem carriesText_tokens (tag : Int) (found : List Token)
    (cut : tokens (toString tag).toList = some found) :
    tokens (carriesText tag) = some (attachmentTokens ++ ((attachedTokens ++
      .word "AND" :: (.word "pt" :: ([.sign ".", .word "tag_id"] ++ .sign "=" :: found))) ++
        [.sign ")"])) := by
  have head : tokens ("EXISTS (SELECT 1 FROM picture_tag AS pt ".toList ++
      "WHERE pt.picture_id = p.id AND pt.tag_id =".toList) =
        some (attachmentTokens ++ (attachedTokens ++
          [.word "AND", .word "pt", .sign ".", .word "tag_id", .sign "="])) := by
    decide +kernel
  have closed := tokens_append _ [')'] _ [.sign ")"] (boundary_closing []) cut (by decide +kernel)
  have whole := tokens_append _ (' ' :: ((toString tag).toList ++ [')'])) _ _ (boundary_space _)
    head closed
  have spaced : "WHERE pt.picture_id = p.id AND pt.tag_id = ".toList =
      "WHERE pt.picture_id = p.id AND pt.tag_id =".toList ++ [' '] := by decide +kernel
  unfold carriesText
  simp only [spaced, List.append_assoc, List.cons_append, List.nil_append] at whole ⊢
  exact whole

theorem carries_standsFor (tag : Int) :
    ∃ expression, StandsFor (carriesText tag) [] expression ∧
      (Storable tag → expression = carriesExpression tag) := by
  rcases written_identity tag with ⟨found, number, cut, written, whole⟩
  have same := written_equal .not (by decide) (.word "pt") _ _ _ _ _ _
    (leads_word "pt" (by decide))
    (written_weak .order _ _ _ _ (leads_word "pt" (by decide))
      (written_column "pt" "tag_id" (by decide) (by decide))) written
  have both := Written.binary .and (.word "AND") [] .and _ _ _ _ _ _ joins_and.between
    joins_and.found joins_and.stops (written_attached .not (by decide)) same
  have body := written_raise .and .or (by decide) _ _ _ (by simp [Strength.rank])
    (by simp [Strength.rank]) both
  refine ⟨_, ⟨_, ?_, written_attachment _ _ body⟩, fun storable => ?_⟩
  · exact carriesText_tokens tag found cut
  · rw [whole storable]
    rfl
end Leaves

/-! The texts of conditions. -/

/-- The text of the condition stands for the expression, with the parameters of the condition. -/
def Condition.StandsFor (condition : Condition) (expression : Sql.Expression) : Prop :=
  Sql.StandsFor (condition.write []) condition.parameters expression

theorem flag_stands (caseDefault : Bool) (name template : String)
    (found : Registry.standard.find? name = some ⟨.flag, template⟩) :
    ∃ expression, standardExpression? caseDefault name none = some expression ∧
      (Condition.flag template).StandsFor expression := by
  rcases flag_standsFor caseDefault name template found with ⟨expression, standard, stands⟩
  refine ⟨expression, standard, ?_⟩
  rwa [Condition.StandsFor, Condition.write_flag, List.append_nil]

theorem pattern_stands (caseDefault : Bool) (name template : String) (argument : Argument)
    (found : Registry.standard.find? name = some ⟨.pattern, template⟩) :
    ∃ expression, standardExpression? caseDefault name (some argument) = some expression ∧
      (Condition.pattern template argument.pattern
        (Condition.flagsOf caseDefault argument)).StandsFor expression := by
  rcases pattern_standsFor caseDefault name template argument found with
    ⟨expression, standard, stands⟩
  refine ⟨expression, standard, ?_⟩
  rwa [Condition.StandsFor, Condition.write_pattern, Condition.parameters,
    Condition.parametersBefore, List.append_nil, List.append_nil]

theorem Condition.StandsFor.and {first second : Condition} {a b : Sql.Expression}
    (left : first.StandsFor a) (right : second.StandsFor b) :
    (Condition.and first second).StandsFor (.and a b) := by
  rw [Condition.StandsFor, Condition.write_and_alone, parameters_and]
  exact Sql.StandsFor.joined Sql.joins_and left right

theorem Condition.StandsFor.or {first second : Condition} {a b : Sql.Expression}
    (left : first.StandsFor a) (right : second.StandsFor b) :
    (Condition.or first second).StandsFor (.or a b) := by
  rw [Condition.StandsFor, Condition.write_or_alone, parameters_or]
  exact Sql.StandsFor.joined Sql.joins_or left right

theorem Condition.StandsFor.not {operand : Condition} {a : Sql.Expression}
    (inside : operand.StandsFor a) : (Condition.not operand).StandsFor (.not a) := by
  rw [Condition.StandsFor, Condition.write_not]
  exact inside.negated

/-! The tree that is read from the text of an expression. -/

/-- The expression has the value in a world, and the value is the truth value. -/
def HasTruth (world : Sql.World) (scope : Sql.Scope) (expression : Sql.Expression) (value : Bool) :
    Prop :=
  ∃ found, expression.evaluate world scope = .ok found ∧ found.truth? = some value

theorem settles_of_hasTruth (world : Sql.World) (scope : Sql.Scope) (expression : Sql.Expression)
    (value : Bool) (known : HasTruth world scope expression value) :
    Sql.Settles world scope expression value True := by
  rcases known with ⟨found, evaluated, same⟩
  refine ⟨fun other again => ?_, fun _ => ⟨found, evaluated⟩⟩
  rw [evaluated] at again
  cases again
  exact same

theorem hasTruth_of_settles (world : Sql.World) (scope : Sql.Scope) (expression : Sql.Expression)
    (value : Bool) (safe : Prop) (settled : Sql.Settles world scope expression value safe)
    (fine : safe) : HasTruth world scope expression value := by
  rcases settled.answers fine with ⟨found, evaluated⟩
  exact ⟨found, evaluated, settled.gives found evaluated⟩

section Structure

variable (lookup : TagLookup) (caseDefault : Bool)

/-- What is read from the text of the expression alone, with its own parameters. -/
def ReadsAlone (expr : Expr) (unit : Sql.Expression) : Prop :=
  ∃ condition, Condition.ofExpr lookup .standard caseDefault expr = .ok condition ∧
    Sql.Expression.read (condition.write []) condition.parameters = some unit

/-- `SameStructure … expr tree`: the tree has the connectives of the expression in the same places,
and what is read from the text of a leaf alone in the place of the leaf. -/
inductive SameStructure : Expr → Sql.Expression → Prop where
  | leaf (atom : Atom) (unit : Sql.Expression)
      (alone : ReadsAlone lookup caseDefault atom.leaf unit) : SameStructure atom.leaf unit
  | and (left right : Expr) (first second : Sql.Expression) (inLeft : SameStructure left first)
      (inRight : SameStructure right second) : SameStructure (.and left right) (.and first second)
  | or (left right : Expr) (first second : Sql.Expression) (inLeft : SameStructure left first)
      (inRight : SameStructure right second) : SameStructure (.or left right) (.or first second)
  | not (operand : Expr) (inner : Sql.Expression) (inside : SameStructure operand inner) :
      SameStructure (.not operand) (.not inner)

variable {lookup caseDefault}

/-- The tree has the truth value of the expression, whatever the leaves say. -/
theorem SameStructure.value {expr : Expr} {tree : Sql.Expression}
    (same : SameStructure lookup caseDefault expr tree) (world : Sql.World) (scope : Sql.Scope)
    (truth : Atom → Bool)
    (leaves : ∀ atom ∈ expr.leaves, ∀ unit, ReadsAlone lookup caseDefault atom.leaf unit →
      HasTruth world scope unit (truth atom)) :
    HasTruth world scope tree (expr.eval truth) := by
  induction same with
  | leaf atom unit alone =>
      cases atom with
      | tag label symbol | pseudo name argument =>
          exact leaves _ (List.mem_singleton_self _) unit alone
  | and left right first second _ _ ihLeft ihRight =>
      have known := ihLeft fun atom member => leaves atom (List.mem_append_left _ member)
      have others := ihRight fun atom member => leaves atom (List.mem_append_right _ member)
      exact hasTruth_of_settles _ _ _ _ _ (Sql.settles_and _ _ _ _ _ _ _ _
        (settles_of_hasTruth _ _ _ _ known) (settles_of_hasTruth _ _ _ _ others))
        ⟨trivial, trivial⟩
  | or left right first second _ _ ihLeft ihRight =>
      have known := ihLeft fun atom member => leaves atom (List.mem_append_left _ member)
      have others := ihRight fun atom member => leaves atom (List.mem_append_right _ member)
      exact hasTruth_of_settles _ _ _ _ _ (Sql.settles_or _ _ _ _ _ _ _ _
        (settles_of_hasTruth _ _ _ _ known) (settles_of_hasTruth _ _ _ _ others))
        ⟨trivial, trivial⟩
  | not operand inner _ ih =>
      exact hasTruth_of_settles _ _ _ _ _ (Sql.settles_not _ _ _ _ _
        (settles_of_hasTruth _ _ _ _ (ih leaves))) trivial

variable (lookup caseDefault)

theorem leaf_standsFor (atom : Atom) (condition : Condition) (unit : Sql.Expression)
    (built : Condition.Built lookup .standard caseDefault atom.leaf condition)
    (stands : condition.StandsFor unit) :
    ∃ tree, condition.StandsFor tree ∧ SameStructure lookup caseDefault atom.leaf tree :=
  ⟨unit, stands, .leaf atom unit ⟨condition, ofExpr_of_built _ _ _ _ _ built, stands.read⟩⟩

theorem condition_standsFor (expr : Expr) (condition : Condition)
    (built : Condition.Built lookup .standard caseDefault expr condition) :
    ∃ tree, condition.StandsFor tree ∧ SameStructure lookup caseDefault expr tree := by
  induction built with
  | reference label symbol =>
      have leaf : Condition.Built lookup .standard caseDefault (.tag label symbol)
          (.ofReference lookup label symbol) := .reference label symbol
      rcases ofReference_cases lookup label symbol with never | ⟨tag, carries⟩
      · rw [never] at leaf ⊢
        exact leaf_standsFor lookup caseDefault (.tag label symbol) _ _ leaf never_standsFor
      · rcases carries_standsFor tag with ⟨unit, stands, _⟩
        rw [carries] at leaf ⊢
        exact leaf_standsFor lookup caseDefault (.tag label symbol) _ unit leaf stands
  | flag name template found =>
      rcases flag_stands caseDefault name template found with ⟨unit, _, stands⟩
      exact leaf_standsFor lookup caseDefault (.pseudo name none) _ unit (.flag name template found)
        stands
  | pattern name template argument found =>
      rcases pattern_stands caseDefault name template argument found with ⟨unit, _, stands⟩
      exact leaf_standsFor lookup caseDefault (.pseudo name (some argument)) _ unit
        (.pattern name template argument found) stands
  | and left right first second _ _ ihLeft ihRight =>
      rcases ihLeft with ⟨a, standsLeft, inLeft⟩
      rcases ihRight with ⟨b, standsRight, inRight⟩
      exact ⟨.and a b, standsLeft.and standsRight, .and left right a b inLeft inRight⟩
  | or left right first second _ _ ihLeft ihRight =>
      rcases ihLeft with ⟨a, standsLeft, inLeft⟩
      rcases ihRight with ⟨b, standsRight, inRight⟩
      exact ⟨.or a b, standsLeft.or standsRight, .or left right a b inLeft inRight⟩
  | not operand inner _ ih =>
      rcases ih with ⟨tree, stands, inside⟩
      exact ⟨.not tree, stands.not, .not operand tree inside⟩

end Structure

/-! The tree that a condition stands for. -/

/-- The tags that the condition asks for have identities that can be stored. -/
def Condition.Storable : Condition → Prop
  | .never | .flag _ | .pattern .. => True
  | .carries tag => Query.Storable tag
  | .and left right | .or left right => left.Storable ∧ right.Storable
  | .not operand => operand.Storable

theorem expression_standsFor (lookup : TagLookup) (caseDefault : Bool) (expr : Expr)
    (condition : Condition) (expression : Sql.Expression)
    (selects : Selects lookup caseDefault expr condition expression)
    (storable : condition.Storable) : condition.StandsFor expression := by
  induction selects with
  | never label symbol => exact never_standsFor
  | carries label symbol tag =>
      obtain ⟨expression, stands, same⟩ := carries_standsFor tag
      rw [← same storable]
      exact stands
  | flag name template expression found standard =>
      obtain ⟨unit, same, stands⟩ := flag_stands caseDefault name template found
      cases standard.symm.trans same
      exact stands
  | pattern name template argument expression found standard =>
      obtain ⟨unit, same, stands⟩ := pattern_stands caseDefault name template argument found
      cases standard.symm.trans same
      exact stands
  | and left right first second a b _ _ ihLeft ihRight =>
      exact (ihLeft storable.1).and (ihRight storable.2)
  | or left right first second a b _ _ ihLeft ihRight =>
      exact (ihLeft storable.1).or (ihRight storable.2)
  | not operand inner a _ ih => exact (ih storable).not

/-- What a condition stands for is what its text is read as, with its parameters. -/
theorem read_text (lookup : TagLookup) (caseDefault : Bool) (expr : Expr) (condition : Condition)
    (built : Condition.ofExpr lookup .standard caseDefault expr = .ok condition)
    (storable : condition.Storable) :
    Sql.Expression.read condition.text.toList condition.parameters = condition.expression? := by
  obtain ⟨expression, known, selects⟩ := selects_of_ofExpr lookup caseDefault expr condition built
  rw [Condition.text, String.toList_ofList, known]
  exact (expression_standsFor lookup caseDefault expr condition expression selects storable).read

/-- The text of a condition keeps the structure of its expression, by the strength of the operators
and the parentheses that it has. What is read from it has the connectives of the expression in
their places and every leaf as one unit, and so the same truth value. -/
theorem text_keeps_structure (lookup : TagLookup) (caseDefault : Bool) (expr : Expr)
    (valid : Registry.standard.validate expr = .ok ()) :
    ∃ condition tree, Condition.ofExpr lookup .standard caseDefault expr = .ok condition ∧
      Sql.Expression.read condition.text.toList condition.parameters = some tree ∧
      SameStructure lookup caseDefault expr tree ∧
      ∀ world scope truth,
        (∀ atom ∈ expr.leaves, ∀ unit, ReadsAlone lookup caseDefault atom.leaf unit →
          HasTruth world scope unit (truth atom)) →
        HasTruth world scope tree (expr.eval truth) := by
  obtain ⟨condition, built⟩ := ofExpr_of_valid lookup .standard caseDefault expr valid
  obtain ⟨tree, stands, same⟩ := condition_standsFor lookup caseDefault expr condition
    (built_of_ofExpr _ _ _ _ _ built)
  refine ⟨condition, tree, built, ?_, same, fun world scope truth leaves =>
    same.value world scope truth leaves⟩
  rw [Condition.text, String.toList_ofList]
  exact stands.read

theorem text_keeps_structure_zoo :
    ∃ tree, Sql.Expression.read
        ("(NOT NOT 1 = 0 OR NOT NOT EXISTS (SELECT 1 FROM picture_tag AS pt " ++
          "WHERE pt.picture_id = p.id))").toList [] = some tree ∧
      SameStructure zoo.lookup false
        (.or (.not (.not (.tag "dog" none))) (.not (.pseudo "no_tags" none))) tree := by
  rcases text_keeps_structure zoo.lookup false
    (.or (.not (.not (.tag "dog" none))) (.not (.pseudo "no_tags" none))) (by decide +kernel) with
    ⟨condition, tree, built, read, same, _⟩
  have known : condition = .or (.not (.not .never)) (.not
      (.flag "NOT EXISTS (SELECT 1 FROM picture_tag AS pt WHERE pt.picture_id = p.id)")) :=
    (Except.ok.inj built).symm
  have text : condition.text =
      "(NOT NOT 1 = 0 OR NOT NOT EXISTS (SELECT 1 FROM picture_tag AS pt " ++
        "WHERE pt.picture_id = p.id))" := by
    rw [known]
    decide +kernel
  have parameters : condition.parameters = [] := by
    rw [known]
    rfl
  exact ⟨tree, by rw [← text, ← parameters]; exact read, same⟩

end Query

end Gallery
