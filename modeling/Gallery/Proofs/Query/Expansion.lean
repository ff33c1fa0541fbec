import Gallery.Query.Compile
import Gallery.Proofs.Outcome
import Gallery.Proofs.Query.Walk

/-!
Expansion as a relation. It says what replaces what, and leaves out the budget and the path of tags
that the computation keeps in order to stop.
-/

namespace Gallery

namespace Query

/-- The references of an expression, from left to right. -/
def Expr.references : Expr → List (String × Option Char)
  | .tag label symbol => [(label, symbol)]
  | .pseudo _ _ => []
  | .and left right | .or left right => left.references ++ right.references
  | .not operand => operand.references

theorem Expr.references_junction (join : Expr → Expr → Expr) (junction : IsJunction join)
    (left right : Expr) : (join left right).references = left.references ++ right.references := by
  rcases junction with rfl | rfl <;> rfl

theorem Expr.mem_labelsBefore (expr : Expr) (rest : List String) (label : String) :
    label ∈ expr.labelsBefore rest ↔
      (∃ symbol, (label, symbol) ∈ expr.references) ∨ label ∈ rest := by
  induction expr generalizing rest with
  | tag other symbol => simp [labelsBefore, references]
  | pseudo name argument => simp [labelsBefore, references]
  | and left right ihLeft ihRight | or left right ihLeft ihRight =>
      rw [labelsBefore, ihLeft, ihRight]
      simp only [references, List.mem_append, exists_or, or_assoc]
  | not operand ih => rw [labelsBefore, ih, references]

/-- The labels are those of the references, with a symbol or without. -/
theorem Expr.mem_labels_iff (expr : Expr) (label : String) :
    label ∈ expr.labels ↔ ∃ symbol, (label, symbol) ∈ expr.references := by
  rw [labels, mem_labelsBefore]
  simp

/-- A reference to a tag with a definition, and with the type of the symbol when there is one. -/
def Definitions.Expandable (definitions : Definitions) (label : String) (symbol : Option Char) :
    Prop :=
  (definitions.definition? label).isSome ∧ ∀ c ∈ symbol, definitions.hasType label c = true

theorem Definitions.replacement_eq_some (definitions : Definitions) (label : String)
    (symbol : Option Char) (definition : String) :
    definitions.replacement? label symbol = some definition ↔
      definitions.definition? label = some definition ∧
        ∀ c ∈ symbol, definitions.hasType label c = true := by
  cases symbol with
  | none => simp [replacement?]
  | some c =>
      by_cases typed : definitions.hasType label c = true
      · simp [replacement?, typed]
      · simp [replacement?, typed]

theorem Definitions.replacement_eq_none (definitions : Definitions) (label : String)
    (symbol : Option Char) :
    definitions.replacement? label symbol = none ↔
      definitions.definition? label = none ∨
        ∃ c, symbol = some c ∧ definitions.hasType label c = false := by
  cases symbol with
  | none => simp [replacement?]
  | some c =>
      by_cases typed : definitions.hasType label c = true
      · simp [replacement?, typed]
      · simp [replacement?, typed]

theorem Definitions.expandable_iff (definitions : Definitions) (label : String)
    (symbol : Option Char) :
    definitions.Expandable label symbol ↔
      ∃ definition, definitions.replacement? label symbol = some definition := by
  simp only [replacement_eq_some, Expandable, Option.isSome_iff_exists, exists_and_right]

theorem Definitions.expandable_of_replacement (definitions : Definitions) (label : String)
    (symbol : Option Char) (definition : String)
    (defined : definitions.replacement? label symbol = some definition) :
    definitions.Expandable label symbol :=
  (definitions.expandable_iff label symbol).mpr ⟨definition, defined⟩

theorem Definitions.definition_of_replacement (definitions : Definitions) (label : String)
    (symbol : Option Char) (definition : String)
    (defined : definitions.replacement? label symbol = some definition) :
    definitions.definition? label = some definition :=
  ((definitions.replacement_eq_some label symbol definition).mp defined).1

/-- `Expands definitions expr result`: the result is the expression with every reference to a
compound tag replaced by its expanded definition. -/
inductive Expands (definitions : Definitions) : Expr → Expr → Prop where
  | kept (label : String) (symbol : Option Char)
      (undefined_ : definitions.replacement? label symbol = none) :
      Expands definitions (.tag label symbol) (.tag label symbol)
  | replaced (label : String) (symbol : Option Char) (definition : String) (body result : Expr)
      (defined : definitions.replacement? label symbol = some definition)
      (parsed : parse definition = .ok body) (inside : Expands definitions body result) :
      Expands definitions (.tag label symbol) result
  | pseudo (name : String) (argument : Option Argument) :
      Expands definitions (.pseudo name argument) (.pseudo name argument)
  | and (left right first second : Expr) (expandsLeft : Expands definitions left first)
      (expandsRight : Expands definitions right second) :
      Expands definitions (.and left right) (.and first second)
  | or (left right first second : Expr) (expandsLeft : Expands definitions left first)
      (expandsRight : Expands definitions right second) :
      Expands definitions (.or left right) (.or first second)
  | not (operand result : Expr) (inside : Expands definitions operand result) :
      Expands definitions (.not operand) (.not result)

theorem expands_of_walks (definitions : Definitions) (path : List String) (expr result : Expr)
    (visits : Nat) (walks : Walks definitions path expr visits (.ok result)) :
    Expands definitions expr result := by
  induction walks using Walks.ok_induction with
  | kept path label symbol undefined_ => exact .kept label symbol undefined_
  | replaced path label symbol definition body visits result defined outside parsed walks ih =>
      exact .replaced label symbol definition body result defined parsed ih
  | pseudo path name argument => exact .pseudo name argument
  | joined path join left right first second inLeft inRight junction walksLeft walksRight ihLeft
      ihRight =>
      rcases junction with rfl | rfl
      · exact .and left right first second ihLeft ihRight
      · exact .or left right first second ihLeft ihRight
  | not path operand visits inner walks ih => exact .not operand inner ih

/-- What expansion returns is an expansion. -/
theorem expand_expands (definitions : Definitions) (budget : Nat) (expr result : Expr)
    (expanded : expand definitions budget expr = .ok result) :
    Expands definitions expr result := by
  rcases walks_of_expand definitions budget expr result expanded with ⟨visits, walks⟩
  exact expands_of_walks definitions [] expr result visits walks

theorem kept_of_expands (definitions : Definitions) (expr result : Expr)
    (expands : Expands definitions expr result) (label : String) (symbol : Option Char)
    (member : (label, symbol) ∈ result.references) :
    definitions.replacement? label symbol = none := by
  induction expands with
  | kept other otherSymbol undefined_ =>
      cases List.mem_singleton.mp member
      exact undefined_
  | replaced _ _ _ _ _ _ _ _ ih => exact ih member
  | pseudo name argument => cases member
  | and left right first second _ _ ihLeft ihRight
  | or left right first second _ _ ihLeft ihRight =>
      rcases List.mem_append.mp member with inLeft | inRight
      · exact ihLeft inLeft
      · exact ihRight inRight
  | not operand result _ ih => exact ih member

/-- What a compilation that succeeds has gone through. -/
theorem compile_ok (text : String) (catalogue : Catalogue) (registry : Registry)
    (settings : CompilerSettings) (query : Compiled)
    (compiled : compile text catalogue registry settings = .ok query) :
    ∃ expr, parse text = .ok expr ∧
      expand catalogue.definitions settings.maxNodes expr = .ok query.expanded ∧
      registry.validate query.expanded = .ok () ∧
      (isUnsatisfiable query.expanded = true ∧ query.condition = none ∨
        ∃ condition, query.condition = some condition ∧ Condition.ofExpr catalogue.lookup registry
          settings.caseSensitive query.expanded = .ok condition) := by
  rw [compile] at compiled
  split at compiled
  · cases compiled
  · next expr parsed =>
      rw [compileExpr] at compiled
      rcases (bind_ok_iff _ _ _).mp compiled with ⟨expanded, expands, compiled⟩
      rcases (bind_ok_iff _ _ _).mp compiled with ⟨_, valid, compiled⟩
      split at compiled
      · next pruned =>
          cases compiled
          exact ⟨expr, parsed, expands, valid, .inl ⟨pruned, rfl⟩⟩
      · rcases (bind_ok_iff _ _ _).mp compiled with ⟨condition, built, compiled⟩
        cases compiled
        exact ⟨expr, parsed, expands, valid, .inr ⟨condition, rfl, built⟩⟩

end Query

end Gallery
