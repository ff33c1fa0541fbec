import Gallery.Proofs.Query.Marks
import Gallery.Proofs.Query.StandardTemplates
import Gallery.Sql.Limit

/-!
The expression of a condition. It has the connectives of the query in their places, and in the place
of every leaf one of few expressions (`selects_of_ofExpr`). So the expression of a query with few
nodes is within the limits of a statement (`limit_of_few_nodes`).
-/

namespace Gallery.Query

/-- The condition of a query with its expression, leaf by leaf and with the same connectives. -/
inductive Selects (lookup : TagLookup) (caseDefault : Bool) :
    Expr → Condition → Sql.Expression → Prop where
  | never (label : String) (symbol : Option Char)
      (known : Condition.ofReference lookup label symbol = .never) :
      Selects lookup caseDefault (.tag label symbol) .never
        (equalExpression (.value (.integer 1)) (.value (.integer 0)))
  | carries (label : String) (symbol : Option Char) (tag : Int)
      (known : Condition.ofReference lookup label symbol = .carries tag) :
      Selects lookup caseDefault (.tag label symbol) (.carries tag) (carriesExpression tag)
  | flag (name template : String) (expression : Sql.Expression)
      (found : Registry.standard.find? name = some ⟨.flag, template⟩)
      (standard : standardExpression? caseDefault name none = some expression) :
      Selects lookup caseDefault (.pseudo name none) (.flag template) expression
  | pattern (name template : String) (argument : Argument) (expression : Sql.Expression)
      (found : Registry.standard.find? name = some ⟨.pattern, template⟩)
      (standard : standardExpression? caseDefault name (some argument) = some expression) :
      Selects lookup caseDefault (.pseudo name (some argument))
        (.pattern template argument.pattern (Condition.flagsOf caseDefault argument)) expression
  | and (left right : Expr) (first second : Condition) (a b : Sql.Expression)
      (inLeft : Selects lookup caseDefault left first a)
      (inRight : Selects lookup caseDefault right second b) :
      Selects lookup caseDefault (.and left right) (.and first second) (.and a b)
  | or (left right : Expr) (first second : Condition) (a b : Sql.Expression)
      (inLeft : Selects lookup caseDefault left first a)
      (inRight : Selects lookup caseDefault right second b) :
      Selects lookup caseDefault (.or left right) (.or first second) (.or a b)
  | not (operand : Expr) (inner : Condition) (a : Sql.Expression)
      (inside : Selects lookup caseDefault operand inner a) :
      Selects lookup caseDefault (.not operand) (.not inner) (.not a)

theorem selects_of_built (lookup : TagLookup) (caseDefault : Bool) (expr : Expr)
    (condition : Condition)
    (built : Condition.Built lookup .standard caseDefault expr condition) :
    ∃ expression, condition.expression? = some expression ∧
      Selects lookup caseDefault expr condition expression := by
  induction built with
  | reference label symbol =>
      rcases ofReference_cases lookup label symbol with known | ⟨tag, known⟩
      · rw [known]
        exact ⟨_, rfl, .never label symbol known⟩
      · rw [known]
        exact ⟨_, rfl, .carries label symbol tag known⟩
  | flag name template found =>
      rcases flag_expression caseDefault name template found with ⟨expression, standard, stands⟩
      exact ⟨expression, stands, .flag name template expression found standard⟩
  | pattern name template argument found =>
      rcases pattern_expression caseDefault name template argument found with
        ⟨expression, standard, stands⟩
      exact ⟨expression, stands, .pattern name template argument expression found standard⟩
  | and left right first second _ _ ihLeft ihRight =>
      rcases ihLeft with ⟨a, standsLeft, inLeft⟩
      rcases ihRight with ⟨b, standsRight, inRight⟩
      refine ⟨.and a b, ?_, .and left right first second a b inLeft inRight⟩
      rw [Condition.expression?, standsLeft, standsRight]
      rfl
  | or left right first second _ _ ihLeft ihRight =>
      rcases ihLeft with ⟨a, standsLeft, inLeft⟩
      rcases ihRight with ⟨b, standsRight, inRight⟩
      refine ⟨.or a b, ?_, .or left right first second a b inLeft inRight⟩
      rw [Condition.expression?, standsLeft, standsRight]
      rfl
  | not operand inner _ ih =>
      rcases ih with ⟨a, stands, inside⟩
      refine ⟨.not a, ?_, .not operand inner a inside⟩
      rw [Condition.expression?, stands]
      rfl

theorem selects_of_ofExpr (lookup : TagLookup) (caseDefault : Bool) (expr : Expr)
    (condition : Condition)
    (done : Condition.ofExpr lookup .standard caseDefault expr = .ok condition) :
    ∃ expression, condition.expression? = some expression ∧
      Selects lookup caseDefault expr condition expression :=
  selects_of_built lookup caseDefault expr condition (built_of_ofExpr _ _ _ _ _ done)

/-! Limits -/

/-- The limit that the statement of the condition exceeds, if it does. -/
def Condition.limit? (condition : Condition) : Option Sql.Limit :=
  condition.expression?.bind (Sql.exceeded? condition.parameters)

/-- How large the expression of a condition is, by the nodes of its query. -/
structure Levels (nodes : Nat) (condition : Condition) (expression : Sql.Expression) : Prop where
  depth : expression.depth ≤ nodes + 5
  nesting : expression.nesting ≤ 4
  parameters : condition.parameters.length ≤ 2 * nodes

theorem levels_carries (tag : Int) : Levels 1 (.carries tag) (carriesExpression tag) := by
  have number : (numberExpression tag).depth ≤ 2 ∧ (numberExpression tag).nesting = 0 := by
    rw [numberExpression]
    split <;> simp [Sql.Expression.depth, Sql.Expression.nesting]
  refine ⟨?_, ?_, Nat.zero_le _⟩
  · simp [carriesExpression, equalExpression, Sql.Expression.depth]
    omega
  · simp [carriesExpression, equalExpression, Sql.Expression.depth, Sql.Expression.nesting]
    omega

theorem levels_standard (caseDefault : Bool) (name : String) (argument : Option Argument)
    (expression : Sql.Expression)
    (standard : standardExpression? caseDefault name argument = some expression) :
    expression.depth ≤ 6 ∧ expression.nesting ≤ 4 := by
  unfold standardExpression? at standard
  split at standard <;> cases standard <;>
    simp [matchExpression, partExpression, pathExpression, similarExpression, noFileExpression,
      noTagsExpression, equalExpression, Sql.Expression.depth, Sql.Expression.depthOf,
      Sql.Expression.nesting, Sql.Expression.nestingOf]

/-- The template of a pattern has at most one mark for each of the two values. -/
theorem few_parameters (name template value flags : String)
    (found : Registry.standard.find? name = some ⟨.pattern, template⟩) :
    (Condition.pattern template value flags).parameters.length ≤ 2 := by
  rw [Condition.parameters, Condition.parametersBefore, List.append_nil, render_values,
    List.length_map]
  have member := mem_of_find _ _ _ found
  have few : ∀ entry ∈ Registry.standard.entries,
      (Template.render (Condition.placeholders "pattern" "flags") entry.2.template).2.length ≤ 2 := by
    decide +kernel
  exact few _ member

theorem levels_joined (nodes others : Nat) (first second joined : Condition)
    (a b both : Sql.Expression) (left : Levels nodes first a) (right : Levels others second b)
    (depth : both.depth = max a.depth b.depth + 1)
    (nesting : both.nesting = max a.nesting b.nesting)
    (parameters : joined.parameters = first.parameters ++ second.parameters) :
    Levels (1 + nodes + others) joined both := by
  obtain ⟨deep, nested, marks⟩ := left
  obtain ⟨deepToo, nestedToo, marksToo⟩ := right
  refine ⟨by omega, by omega, ?_⟩
  rw [parameters, List.length_append]
  omega

theorem levels_of_selects (lookup : TagLookup) (caseDefault : Bool) (expr : Expr)
    (condition : Condition) (expression : Sql.Expression)
    (selects : Selects lookup caseDefault expr condition expression) :
    Levels expr.nodeCount condition expression := by
  induction selects with
  | never label symbol =>
      exact ⟨by simp [equalExpression, Sql.Expression.depth],
        by simp [equalExpression, Sql.Expression.nesting], Nat.zero_le _⟩
  | carries label symbol tag => exact levels_carries tag
  | flag name template expression _ standard =>
      obtain ⟨deep, nested⟩ := levels_standard caseDefault name none expression standard
      exact ⟨deep, nested, Nat.zero_le _⟩
  | pattern name template argument expression found standard =>
      obtain ⟨deep, nested⟩ := levels_standard caseDefault name _ expression standard
      exact ⟨deep, nested, few_parameters name template _ _ found⟩
  | and left right first second a b _ _ ihLeft ihRight =>
      exact levels_joined _ _ first second _ a b _ ihLeft ihRight rfl rfl
        (parameters_and first second)
  | or left right first second a b _ _ ihLeft ihRight =>
      exact levels_joined _ _ first second _ a b _ ihLeft ihRight rfl rfl
        (parameters_or first second)
  | not operand inner a _ ih =>
      obtain ⟨deep, nested, marks⟩ := ih
      refine ⟨?_, nested, ?_⟩
      · rw [Sql.Expression.depth, Expr.nodeCount]
        omega
      · rw [Expr.nodeCount]
        exact Nat.le_trans marks (by omega)

/-- The condition of a query with few nodes is within the limits of a statement. -/
theorem limit_of_few_nodes (lookup : TagLookup) (caseDefault : Bool) (expr : Expr)
    (condition : Condition)
    (built : Condition.ofExpr lookup .standard caseDefault expr = .ok condition)
    (few : expr.nodeCount ≤ 991) : condition.limit? = none := by
  obtain ⟨expression, stands, selects⟩ := selects_of_ofExpr lookup caseDefault expr condition built
  obtain ⟨deep, nested, marks⟩ := levels_of_selects lookup caseDefault expr condition _ selects
  rw [Condition.limit?, stands, Option.bind_some, Sql.exceeded?, Sql.depthLimit,
    Sql.parameterLimit, if_neg (by omega), if_neg (by omega)]

end Gallery.Query
