import Gallery.Proofs.Query.Emission
import Gallery.Proofs.Query.StandardTemplates

/-!
What the text of a statement depends on. The user's labels are looked up and the user's patterns
become parameters, so that two expressions that differ in nothing else have the same statement
(`statement_independent`). A condition keeps its text when its patterns are left out; two runs are
compared through the conditions without patterns, which are the same.
-/

namespace Gallery.Query

/-- `Alike lookup first second`: the expressions have the same shape, their references have the same
conditions, and their pseudo-tags have the same names, with an argument in both or in neither. -/
inductive Alike (lookup : TagLookup) : Expr → Expr → Prop where
  | tag (label other : String) (symbol otherSymbol : Option Char)
      (same : Condition.ofReference lookup label symbol =
        Condition.ofReference lookup other otherSymbol) :
      Alike lookup (.tag label symbol) (.tag other otherSymbol)
  | pseudo (name : String) (argument other : Option Argument)
      (both : argument.isSome = other.isSome) :
      Alike lookup (.pseudo name argument) (.pseudo name other)
  | and (left right otherLeft otherRight : Expr) (alikeLeft : Alike lookup left otherLeft)
      (alikeRight : Alike lookup right otherRight) :
      Alike lookup (.and left right) (.and otherLeft otherRight)
  | or (left right otherLeft otherRight : Expr) (alikeLeft : Alike lookup left otherLeft)
      (alikeRight : Alike lookup right otherRight) :
      Alike lookup (.or left right) (.or otherLeft otherRight)
  | not (operand other : Expr) (alike : Alike lookup operand other) :
      Alike lookup (.not operand) (.not other)

namespace Condition

/-- The condition with its patterns and their flags left out. -/
def blank : Condition → Condition
  | .never => .never
  | .carries tag => .carries tag
  | .flag template => .flag template
  | .pattern template _ _ => .pattern template "" ""
  | .and left right => .and left.blank right.blank
  | .or left right => .or left.blank right.blank
  | .not operand => .not operand.blank

theorem write_blank (condition : Condition) (rest : List Char) :
    condition.blank.write rest = condition.write rest := by
  induction condition generalizing rest with
  | never => rfl
  | carries tag => rfl
  | flag template => rfl
  | pattern template value flags =>
      -- What is rendered for the names of the placeholders has the text of both.
      rw [blank, write_pattern, write_pattern, render_values, render_values value]
  | and left right ihLeft ihRight => simp only [blank, write_and, ihLeft, ihRight]
  | or left right ihLeft ihRight => simp only [blank, write_or, ihLeft, ihRight]
  | not operand ih => simp only [blank, write_not, ih]

theorem statement_blank (condition : Condition) :
    condition.blank.statement = condition.statement := by
  have same : condition.blank.text = condition.text :=
    congrArg String.ofList (condition.write_blank [])
  exact congrArg (fun text => "SELECT p.id, p.path, p.hash FROM pictures AS p WHERE " ++ text ++
    " ORDER BY p.id") same

theorem parametersBefore_blank (condition : Condition) (rest other : List String)
    (same : rest.length = other.length) :
    (condition.blank.parametersBefore rest).length =
      (condition.parametersBefore other).length := by
  induction condition generalizing rest other with
  | never => exact same
  | carries tag => exact same
  | flag template => exact same
  | pattern template value flags =>
      rw [blank, parametersBefore, parametersBefore, render_values, render_values value]
      simp only [List.length_append, List.length_map, same]
  | and left right ihLeft ihRight => exact ihLeft _ _ (ihRight _ _ same)
  | or left right ihLeft ihRight => exact ihLeft _ _ (ihRight _ _ same)
  | not operand ih => exact ih _ _ same

theorem parameters_blank (condition : Condition) :
    condition.blank.parameters.length = condition.parameters.length :=
  condition.parametersBefore_blank [] [] rfl

end Condition

section Runs

variable (lookup : TagLookup) (registry : Registry) (caseDefault other : Bool)

theorem blank_junction (left right : Except QueryError Condition)
    (join : Condition → Condition → Condition)
    (distributes : ∀ a b, (join a b).blank = join a.blank b.blank) :
    (do
      let a ← left
      let b ← right
      return join a b : Except QueryError Condition).map Condition.blank = (do
      let a ← left.map Condition.blank
      let b ← right.map Condition.blank
      return join a b) := by
  cases left with
  | error error => rfl
  | ok a =>
      cases right with
      | error error => rfl
      | ok b => exact congrArg Except.ok (distributes a b)

theorem blank_not (operand : Expr) :
    (Condition.ofExpr lookup registry caseDefault (.not operand)).map Condition.blank = do
      let operand ← (Condition.ofExpr lookup registry caseDefault operand).map Condition.blank
      return .not operand := by
  rw [Condition.ofExpr]
  cases Condition.ofExpr lookup registry caseDefault operand <;> rfl

theorem blank_pseudo (name : String) (argument otherArgument : Option Argument)
    (both : argument.isSome = otherArgument.isSome) :
    (Condition.ofExpr lookup registry caseDefault (.pseudo name argument)).map Condition.blank =
      (Condition.ofExpr lookup registry other (.pseudo name otherArgument)).map
        Condition.blank := by
  unfold Condition.ofExpr
  cases argument with
  | none =>
      have absent : otherArgument = none := by simpa using both.symm
      subst absent
      rcases registry.find? name with _ | ⟨_ | _, template⟩ <;> rfl
  | some given =>
      rcases Option.isSome_iff_exists.mp both.symm with ⟨otherGiven, rfl⟩
      rcases registry.find? name with _ | ⟨_ | _, template⟩ <;> rfl

theorem blank_alike (first second : Expr) (alike : Alike lookup first second) :
    (Condition.ofExpr lookup registry caseDefault first).map Condition.blank =
      (Condition.ofExpr lookup registry other second).map Condition.blank := by
  induction alike with
  | tag label otherLabel symbol otherSymbol same =>
      rw [Condition.ofExpr, Condition.ofExpr, same]
  | pseudo name argument otherArgument both =>
      exact blank_pseudo lookup registry caseDefault other name argument otherArgument both
  | and left right otherLeft otherRight _ _ ihLeft ihRight =>
      rw [Condition.ofExpr, Condition.ofExpr, blank_junction _ _ .and fun _ _ => rfl,
        blank_junction _ _ .and fun _ _ => rfl, ihLeft, ihRight]
  | or left right otherLeft otherRight _ _ ihLeft ihRight =>
      rw [Condition.ofExpr, Condition.ofExpr, blank_junction _ _ .or fun _ _ => rfl,
        blank_junction _ _ .or fun _ _ => rfl, ihLeft, ihRight]
  | not operand otherOperand _ ih => rw [blank_not, blank_not, ih]

/-- What a statement shows of its expression is seen without the patterns. -/
theorem shown_blank (expr : Expr) :
    (Condition.ofExpr lookup registry caseDefault expr).map
        (fun condition => (condition.statement, condition.parameters.length)) =
      ((Condition.ofExpr lookup registry caseDefault expr).map Condition.blank).map
        fun condition => (condition.statement, condition.parameters.length) := by
  cases Condition.ofExpr lookup registry caseDefault expr with
  | error error => rfl
  | ok condition =>
      simp only [Except.map, Condition.statement_blank, Condition.parameters_blank]

/-- Expressions that are alike are refused with the same error or have the same statement and the
same number of parameters, whatever their labels and patterns are, and whether letter case counts
or not. -/
theorem statement_independent (first second : Expr) (alike : Alike lookup first second) :
    (Condition.ofExpr lookup registry caseDefault first).map
        (fun condition => (condition.statement, condition.parameters.length)) =
      (Condition.ofExpr lookup registry other second).map
        fun condition => (condition.statement, condition.parameters.length) := by
  rw [shown_blank, blank_alike lookup registry caseDefault other first second alike, ← shown_blank]

end Runs

theorem statement_independent_of_injection :
    ∃ plain hostile,
      Condition.ofExpr zoo.lookup .standard true
        (.or (.tag "dog" none) (.not (.pseudo "name" (some ⟨"a", none⟩)))) = .ok plain ∧
      Condition.ofExpr zoo.lookup .standard false
        (.or (.tag "ann" (some '%'))
          (.not (.pseudo "name" (some ⟨"\x7bflags\x7d' OR 1 = 1 --?", some true⟩)))) =
          .ok hostile ∧
      plain.statement = hostile.statement ∧
      plain.parameters.length = hostile.parameters.length := by
  have same := statement_independent zoo.lookup .standard true false
    (.or (.tag "dog" none) (.not (.pseudo "name" (some ⟨"a", none⟩))))
    (.or (.tag "ann" (some '%'))
      (.not (.pseudo "name" (some ⟨"\x7bflags\x7d' OR 1 = 1 --?", some true⟩))))
    (.or _ _ _ _ (.tag _ _ _ _ rfl) (.not _ _ (.pseudo _ _ _ rfl)))
  exact ⟨_, _, rfl, rfl, Prod.mk.inj (Except.ok.inj same)⟩

end Gallery.Query
