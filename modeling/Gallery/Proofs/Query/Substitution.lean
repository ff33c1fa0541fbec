import Gallery.Proofs.Query.Budget
import Gallery.Proofs.Query.Contradiction

/-!
What an expansion leaves as it is. The result is the expression with expressions in place of its
references and nothing else changed, and these expressions are the expansions of the definitions
(`expand_substitutes`). So truth values that agree with the definitions give the result the value of
the expression.
-/

namespace Gallery.Query

/-- Puts expressions in place of the references. -/
def Expr.substitute (inPlace : String → Option Char → Expr) : Expr → Expr
  | .tag label symbol => inPlace label symbol
  | .pseudo name argument => .pseudo name argument
  | .and left right => .and (left.substitute inPlace) (right.substitute inPlace)
  | .or left right => .or (left.substitute inPlace) (right.substitute inPlace)
  | .not operand => .not (operand.substitute inPlace)

/-- Every reference that is expanded has the truth value of the definition of its tag. -/
def Agrees (definitions : Definitions) (truth : Atom → Bool) : Prop :=
  ∀ label symbol definition body, definitions.Expandable label symbol →
    definitions.definition? label = some definition → parse definition = .ok body →
      truth (.tag label symbol) = body.eval truth

theorem eval_of_expands (definitions : Definitions) (truth : Atom → Bool)
    (agrees : Agrees definitions truth) (expr result : Expr)
    (expands : Expands definitions expr result) : result.eval truth = expr.eval truth := by
  induction expands with
  | kept | pseudo => rfl
  | replaced label symbol definition body result defined parsed inside ih =>
      have expandable := definitions.expandable_of_replacement label symbol definition defined
      have known := definitions.definition_of_replacement label symbol definition defined
      rw [ih, Expr.eval, agrees label symbol definition body expandable known parsed]
  | and left right first second expandsLeft expandsRight ihLeft ihRight =>
      rw [Expr.eval, ihLeft, ihRight, Expr.eval]
  | or left right first second expandsLeft expandsRight ihLeft ihRight =>
      rw [Expr.eval, ihLeft, ihRight, Expr.eval]
  | not operand result inside ih => rw [Expr.eval, ih, Expr.eval]

/-- A walk that succeeds meets no tag of its path, so it does not need one. -/
theorem walks_shrink (definitions : Definitions) (path : List String) (expr result : Expr)
    (visits : Nat) (walks : Walks definitions path expr visits (.ok result))
    (smaller : List String) (within : smaller ⊆ path) :
    Walks definitions smaller expr visits (.ok result) := by
  induction walks using Walks.ok_induction generalizing smaller with
  | kept path label symbol undefined_ => exact .kept smaller label symbol undefined_
  | replaced path label symbol definition body visits result defined outside parsed walks ih =>
      have deeper := ih (label :: smaller) (List.cons_subset_cons label within)
      exact .replaced smaller label symbol definition body visits _ defined
        (fun inside => outside (within inside)) parsed deeper
  | pseudo path name argument => exact .pseudo smaller name argument
  | joined path join left right first second inLeft inRight junction walksLeft walksRight ihLeft
      ihRight =>
      exact .joined smaller join left right first inLeft inRight (.ok second) junction
        (ihLeft smaller within) (ihRight smaller within)
  | not path operand visits inner walks ih =>
      exact .not smaller operand visits (.ok inner) (ih smaller within)

/-- The walk of a reference that succeeds. -/
theorem walks_tag (definitions : Definitions) (path : List String) (label : String)
    (symbol : Option Char) (visits : Nat) (result : Expr)
    (walks : Walks definitions path (.tag label symbol) visits (.ok result)) :
    definitions.replacement? label symbol = none ∧ result = .tag label symbol ∨
      ∃ definition body count, definitions.replacement? label symbol = some definition ∧
        parse definition = .ok body ∧ visits = 1 + count ∧
        Walks definitions (label :: path) body count (.ok result) := by
  generalize reference : Expr.tag label symbol = expr at walks
  cases walks using Walks.ok_induction with
  | kept _ _ _ undefined_ =>
      cases reference
      exact .inl ⟨undefined_, rfl⟩
  | replaced _ _ _ definition body count _ defined outside parsed walks =>
      cases reference
      exact .inr ⟨definition, body, count, defined, parsed, rfl, walks⟩
  | pseudo | not => cases reference
  | joined _ join left right _ _ _ _ junction =>
      rcases junction with rfl | rfl
      · cases reference
      · cases reference

/-- The expansion of a reference on its own, where it has one. -/
def expansionOf (definitions : Definitions) (budget : Nat) (label : String)
    (symbol : Option Char) : Expr :=
  match expand definitions budget (.tag label symbol) with
  | .ok result => result
  | .error _ => .tag label symbol

theorem expansionOf_tag (definitions : Definitions) (budget : Nat) (label : String)
    (symbol : Option Char) (result : Expr)
    (expanded : expand definitions budget (.tag label symbol) = .ok result) :
    expansionOf definitions budget label symbol = result := by
  rw [expansionOf, expanded]

theorem expand_of_visits (definitions : Definitions) (expr result : Expr) (visits budget : Nat)
    (walks : Walks definitions [] expr visits (.ok result)) (enough : visits ≤ budget) :
    expand definitions budget expr = .ok result := by
  rw [expand_of_walks definitions expr visits _ walks budget, if_pos enough]

theorem visits_of_expand (definitions : Definitions) (budget : Nat) (expr result : Expr)
    (expanded : expand definitions budget expr = .ok result) :
    ∃ visits, visits ≤ budget ∧ Walks definitions [] expr visits (.ok result) := by
  obtain ⟨visits, walks⟩ := walks_of_expand definitions budget expr result expanded
  refine ⟨visits, ?_, walks⟩
  rw [expand_of_walks definitions expr visits _ walks budget] at expanded
  split at expanded
  · assumption
  · cases expanded

/-- A walk puts the expansions of the references in their places, and all of them fit into the
budget. -/
theorem substitute_of_walks (definitions : Definitions) (budget : Nat) (expr result : Expr)
    (visits : Nat) (walks : Walks definitions [] expr visits (.ok result))
    (enough : visits ≤ budget) :
    result = expr.substitute (expansionOf definitions budget) ∧
      ∀ label symbol, (label, symbol) ∈ expr.references →
        expand definitions budget (.tag label symbol) =
          .ok (expansionOf definitions budget label symbol) := by
  -- What a reference becomes is named by `expansionOf`, whether it is kept or replaced.
  have reference (label : String) (symbol : Option Char) (visits : Nat) (result : Expr)
      (walks : Walks definitions [] (.tag label symbol) visits (.ok result))
      (enough : visits ≤ budget) :
      result = (Expr.tag label symbol).substitute (expansionOf definitions budget) ∧
        ∀ other otherSymbol, (other, otherSymbol) ∈ (Expr.tag label symbol).references →
          expand definitions budget (.tag other otherSymbol) =
            .ok (expansionOf definitions budget other otherSymbol) := by
    have expanded := expand_of_visits definitions _ result visits budget walks enough
    have same := expansionOf_tag definitions budget label symbol result expanded
    refine ⟨same.symm, fun other otherSymbol member => ?_⟩
    cases List.mem_singleton.mp member
    rw [expanded, same]
  generalize outermost : ([] : List String) = path at walks
  induction walks using Walks.ok_induction with
  | kept path label symbol undefined_ =>
      exact reference label symbol 1 _ (.kept [] label symbol undefined_) enough
  | replaced path label symbol definition body visits result defined outside parsed walks _ =>
      subst outermost
      exact reference label symbol _ result
        (.replaced [] label symbol definition body visits _ defined outside parsed walks) enough
  | pseudo path name argument => exact ⟨rfl, fun label symbol member => by cases member⟩
  | joined path join left right first second inLeft inRight junction walksLeft walksRight ihLeft
      ihRight =>
      obtain ⟨rfl, expandedLeft⟩ := ihLeft (by omega) outermost
      obtain ⟨rfl, expandedRight⟩ := ihRight (by omega) outermost
      rcases junction with rfl | rfl
      · exact ⟨rfl, fun label symbol member => (List.mem_append.mp member).elim
          (expandedLeft label symbol) (expandedRight label symbol)⟩
      · exact ⟨rfl, fun label symbol member => (List.mem_append.mp member).elim
          (expandedLeft label symbol) (expandedRight label symbol)⟩
  | not path operand visits inner walks ih =>
      obtain ⟨rfl, expanded⟩ := ih (by omega) outermost
      exact ⟨rfl, expanded⟩

/-- The expansion of a reference is the expansion of its definition, or the reference itself. -/
theorem expansion_of_reference (definitions : Definitions) (budget : Nat) (label : String)
    (symbol : Option Char) (result : Expr)
    (expanded : expand definitions budget (.tag label symbol) = .ok result) :
    (¬definitions.Expandable label symbol → result = .tag label symbol) ∧
      (definitions.Expandable label symbol → ∃ definition body,
        definitions.definition? label = some definition ∧ parse definition = .ok body ∧
          expand definitions budget body = .ok result) := by
  obtain ⟨visits, enough, walks⟩ := visits_of_expand definitions budget _ result expanded
  rw [definitions.expandable_iff]
  obtain ⟨undefined_, rfl⟩ | ⟨definition, body, count, defined, parsed, rfl, inside⟩ :=
    walks_tag definitions [] label symbol visits result walks
  · exact ⟨fun _ => rfl, fun ⟨definition, defined⟩ => by simp [undefined_] at defined⟩
  · refine ⟨fun absent => absurd ⟨definition, defined⟩ absent, fun _ => ?_⟩
    have known := definitions.definition_of_replacement label symbol definition defined
    -- The definition is expanded as if it were the query, outside all definitions.
    have alone := walks_shrink definitions [label] body result count inside [] (by simp)
    exact ⟨definition, body, known, parsed,
      expand_of_visits definitions body result count budget alone (by omega)⟩

/-- The result of an expansion is the expression with every reference to a tag with a definition
replaced by the expansion of the definition, and all else kept. Where references have the truth
values of their definitions, both have the same value. -/
theorem expand_substitutes (definitions : Definitions) (budget : Nat) (expr result : Expr)
    (expanded : expand definitions budget expr = .ok result) :
    (∃ inPlace : String → Option Char → Expr, result = expr.substitute inPlace ∧
      ∀ label symbol, (label, symbol) ∈ expr.references →
        (¬definitions.Expandable label symbol → inPlace label symbol = .tag label symbol) ∧
        (definitions.Expandable label symbol → ∃ definition body,
          definitions.definition? label = some definition ∧ parse definition = .ok body ∧
            expand definitions budget body = .ok (inPlace label symbol))) ∧
    ∀ truth, Agrees definitions truth → result.eval truth = expr.eval truth := by
  obtain ⟨visits, enough, walks⟩ := visits_of_expand definitions budget expr result expanded
  obtain ⟨replaced, references⟩ :=
    substitute_of_walks definitions budget expr result visits walks enough
  constructor
  · refine ⟨expansionOf definitions budget, replaced, fun label symbol member => ?_⟩
    exact expansion_of_reference definitions budget label symbol _ (references label symbol member)
  · intro truth agrees
    exact eval_of_expands definitions truth agrees expr result
      (expand_expands definitions budget expr result expanded)

/-- A parked car. -/
def parkedCar : Atom → Bool
  | .tag label _ => label ∈ ["car", "vehicle", "parked"]
  | .pseudo _ _ => false

theorem parkedCar_agrees : Agrees fleet.definitions parkedCar := by
  intro label symbol definition body _ defined parsed
  have vehicle : parse "car OR truck" = .ok (.or (.tag "car" none) (.tag "truck" none)) := by
    decide +kernel
  have parked : parse "%vehicle AND NOT moving" =
      .ok (.and (.tag "vehicle" (some '%')) (.not (.tag "moving" none))) := by
    decide +kernel
  obtain ⟨tag, found, defined⟩ := Option.bind_eq_some_iff.mp defined
  have same : tag.label = label := by simpa using List.find?_some found
  have member := List.mem_of_find?_eq_some found
  simp only [fleet, List.mem_cons, List.not_mem_nil, or_false] at member
  rcases member with rfl | rfl | rfl | rfl
  · cases defined
  · cases defined
  · cases defined
    rw [vehicle] at parsed
    cases parsed
    simp [← same, parkedCar, Expr.eval]
  · cases defined
    rw [parked] at parsed
    cases parsed
    simp [← same, parkedCar, Expr.eval]

/-- Parked vehicles that are no `@vehicle`, which is a reference that the type of the tag keeps. -/
theorem expand_substitutes_fleet : ∃ result,
    expand fleet.definitions 100 (.and (.tag "parked" none) (.not (.tag "vehicle" (some '@')))) =
        .ok result ∧
      (∃ inPlace : String → Option Char → Expr,
        result = .and (inPlace "parked" none) (.not (inPlace "vehicle" (some '@'))) ∧
          inPlace "vehicle" (some '@') = .tag "vehicle" (some '@')) ∧
      Agrees fleet.definitions parkedCar ∧ result.eval parkedCar = false := by
  have expanded : expand fleet.definitions 100
      (.and (.tag "parked" none) (.not (.tag "vehicle" (some '@')))) =
      .ok (.and (.and (.or (.tag "car" none) (.tag "truck" none)) (.not (.tag "moving" none)))
        (.not (.tag "vehicle" (some '@')))) := by
    decide +kernel
  have other : fleet.definitions.hasType "vehicle" '@' = false := by decide +kernel
  obtain ⟨⟨inPlace, replaced, references⟩, preserved⟩ :=
    expand_substitutes fleet.definitions 100 _ _ expanded
  refine ⟨_, expanded, ⟨inPlace, replaced, ?_⟩, parkedCar_agrees, ?_⟩
  · apply (references "vehicle" (some '@') (by decide)).1
    simp [Definitions.Expandable, other]
  · rw [preserved parkedCar parkedCar_agrees]
    decide

end Gallery.Query
