import Mathlib.Data.Finset.Card
import Gallery.Catalogue
import Gallery.Proofs.Query.Expansion

/-!
The budget of an expansion. Where finitely many tags have definitions every expression has a walk,
cycles or not: a definition that is entered twice ends it. So the visits of the walk are the budget
that is needed, and any other budget is either enough or too small (`expand_threshold`).
-/

namespace Gallery.Query

/-- The tags that have definitions can be listed. -/
def Definitions.IsFinite (definitions : Definitions) : Prop :=
  ∃ labels : List String, ∀ label definition,
    definitions.definition? label = some definition → label ∈ labels

/-- A catalogue lists its tags. -/
theorem definitions_isFinite (catalogue : Catalogue) : catalogue.definitions.IsFinite := by
  refine ⟨catalogue.tags.map (·.label), ?_⟩
  intro label definition defined
  obtain ⟨tag, found, _⟩ := Option.bind_eq_some_iff.mp defined
  have same : tag.label = label := by simpa using List.find?_some found
  exact List.mem_map.mpr ⟨tag, List.mem_of_find?_eq_some found, same⟩

/-- Entering a definition leaves fewer definitions to enter. -/
theorem fewer_outside (labels : Finset String) (path : List String) (label : String)
    (member : label ∈ labels) (outside : label ∉ path) :
    (labels.filter (· ∉ label :: path)).card < (labels.filter (· ∉ path)).card := by
  apply Finset.card_lt_card
  rw [Finset.ssubset_iff_of_subset]
  · refine ⟨label, Finset.mem_filter.mpr ⟨member, outside⟩, ?_⟩
    simp
  · intro other kept
    rw [Finset.mem_filter] at kept ⊢
    exact ⟨kept.1, fun inside => kept.2 (List.mem_cons_of_mem label inside)⟩

theorem walks_junction (definitions : Definitions) (path : List String)
    (join : Expr → Expr → Expr) (left right : Expr) (junction : IsJunction join)
    (walksLeft : ∃ visits outcome, Walks definitions path left visits outcome)
    (walksRight : ∃ visits outcome, Walks definitions path right visits outcome) :
    ∃ visits outcome, Walks definitions path (join left right) visits outcome := by
  obtain ⟨inLeft, outcome, walksLeft⟩ := walksLeft
  obtain ⟨inRight, second, walksRight⟩ := walksRight
  cases outcome with
  | error error => exact ⟨_, _, .stopped path join left right inLeft error junction walksLeft⟩
  | ok first =>
      exact ⟨_, _, .joined path join left right first inLeft inRight second junction walksLeft
        walksRight⟩

-- By induction on the number of definitions that have not been entered, and for the nodes of one
-- definition by induction on its expression.
theorem walks_total (definitions : Definitions) (labels : Finset String)
    (covers : ∀ label definition, definitions.definition? label = some definition →
      label ∈ labels)
    (path : List String) (expr : Expr) :
    ∃ visits outcome, Walks definitions path expr visits outcome := by
  induction left : (labels.filter (· ∉ path)).card using Nat.strong_induction_on
    generalizing path expr with
  | _ count enter =>
      subst left
      induction expr with
      | tag label symbol =>
          cases defined : definitions.replacement? label symbol with
          | none => exact ⟨_, _, .kept path label symbol defined⟩
          | some definition =>
              by_cases inside : label ∈ path
              · exact ⟨_, _, .circular path label symbol definition defined inside⟩
              · cases parsed : parse definition with
                | error error =>
                    exact ⟨_, _, .unreadable path label symbol definition error defined inside
                      parsed⟩
                | ok body =>
                    have member := covers label definition
                      (definitions.definition_of_replacement label symbol definition defined)
                    have fewer := fewer_outside labels path label member inside
                    obtain ⟨visits, outcome, walks⟩ := enter _ fewer (label :: path) body rfl
                    exact ⟨_, _, .replaced path label symbol definition body visits outcome defined
                      inside parsed walks⟩
      | pseudo name argument => exact ⟨_, _, .pseudo path name argument⟩
      | and left right ihLeft ihRight =>
          exact walks_junction definitions path .and left right and_isJunction ihLeft ihRight
      | or left right ihLeft ihRight =>
          exact walks_junction definitions path .or left right or_isJunction ihLeft ihRight
      | not operand ih =>
          obtain ⟨visits, outcome, walks⟩ := ih
          exact ⟨_, _, .not path operand visits outcome walks⟩

theorem walks_of_finite (definitions : Definitions) (finite : definitions.IsFinite) (expr : Expr) :
    ∃ visits outcome, Walks definitions [] expr visits outcome := by
  obtain ⟨labels, covers⟩ := finite
  apply walks_total definitions labels.toFinset
  intro label definition defined
  exact List.mem_toFinset.mpr (covers label definition defined)

/-- `Replaces definitions expr count`: while the expression is expanded, so many references are
replaced by definitions, those in the definitions included. -/
inductive Replaces (definitions : Definitions) : Expr → Nat → Prop where
  | kept (label : String) (symbol : Option Char)
      (undefined_ : definitions.replacement? label symbol = none) :
      Replaces definitions (.tag label symbol) 0
  | replaced (label : String) (symbol : Option Char) (definition : String) (body : Expr)
      (count : Nat) (defined : definitions.replacement? label symbol = some definition)
      (parsed : parse definition = .ok body) (inside : Replaces definitions body count) :
      Replaces definitions (.tag label symbol) (1 + count)
  | pseudo (name : String) (argument : Option Argument) :
      Replaces definitions (.pseudo name argument) 0
  | and (left right : Expr) (inLeft inRight : Nat) (replacesLeft : Replaces definitions left inLeft)
      (replacesRight : Replaces definitions right inRight) :
      Replaces definitions (.and left right) (inLeft + inRight)
  | or (left right : Expr) (inLeft inRight : Nat) (replacesLeft : Replaces definitions left inLeft)
      (replacesRight : Replaces definitions right inRight) :
      Replaces definitions (.or left right) (inLeft + inRight)
  | not (operand : Expr) (count : Nat) (inside : Replaces definitions operand count) :
      Replaces definitions (.not operand) count

theorem replaces_unique (definitions : Definitions) (expr : Expr) (a b : Nat)
    (first : Replaces definitions expr a) (second : Replaces definitions expr b) : a = b := by
  induction first generalizing b with
  | kept label symbol undefined_ =>
      cases second with
      | kept => rfl
      | replaced _ _ _ _ _ defined =>
          rw [undefined_] at defined
          cases defined
  | replaced label symbol definition body count defined parsed inside ih =>
      cases second with
      | kept _ _ undefined_ =>
          rw [undefined_] at defined
          cases defined
      | replaced _ _ definition' body' count' defined' parsed' inside' =>
          rw [defined] at defined'
          cases defined'
          rw [parsed] at parsed'
          cases parsed'
          rw [ih _ inside']
  | pseudo name argument =>
      cases second
      rfl
  | and left right inLeft inRight replacesLeft replacesRight ihLeft ihRight =>
      cases second with
      | and _ _ _ _ otherLeft otherRight => rw [ihLeft _ otherLeft, ihRight _ otherRight]
  | or left right inLeft inRight replacesLeft replacesRight ihLeft ihRight =>
      cases second with
      | or _ _ _ _ otherLeft otherRight => rw [ihLeft _ otherLeft, ihRight _ otherRight]
  | not operand count inside ih =>
      cases second with
      | not _ _ other => exact ih _ other

/-- Every node of the result is visited once, and every reference that was replaced once more. -/
theorem visits_of_walks (definitions : Definitions) (path : List String) (expr result : Expr)
    (visits : Nat) (walks : Walks definitions path expr visits (.ok result)) :
    ∃ replaced, Replaces definitions expr replaced ∧ visits = result.nodeCount + replaced := by
  induction walks using Walks.ok_induction with
  | kept path label symbol undefined_ => exact ⟨0, .kept label symbol undefined_, rfl⟩
  | replaced path label symbol definition body visits result defined outside parsed walks ih =>
      obtain ⟨count, replaces, rfl⟩ := ih
      exact ⟨1 + count, .replaced label symbol definition body count defined parsed replaces,
        by omega⟩
  | pseudo path name argument => exact ⟨0, .pseudo name argument, rfl⟩
  | joined path join left right first second inLeft inRight junction walksLeft walksRight ihLeft
      ihRight =>
      obtain ⟨a, replacesLeft, rfl⟩ := ihLeft
      obtain ⟨b, replacesRight, rfl⟩ := ihRight
      rcases junction with rfl | rfl
      · refine ⟨a + b, .and left right a b replacesLeft replacesRight, ?_⟩
        rw [Expr.nodeCount]
        omega
      · refine ⟨a + b, .or left right a b replacesLeft replacesRight, ?_⟩
        rw [Expr.nodeCount]
        omega
  | not path operand visits inner walks ih =>
      obtain ⟨count, replaces, rfl⟩ := ih
      refine ⟨count, .not operand count replaces, ?_⟩
      rw [Expr.nodeCount]
      omega

/-- One budget divides those that are too small from those that all lead to the same outcome. For
an expansion that succeeds it is the number of nodes of the result and of the references that were
replaced. -/
theorem expand_threshold (definitions : Definitions) (finite : definitions.IsFinite)
    (expr : Expr) :
    ∃ (needed : Nat) (outcome : Except QueryError Expr),
      (∀ budget, outcome ≠ .error (.tooLarge budget)) ∧
      (∀ budget, expand definitions budget expr =
        if needed ≤ budget then outcome else .error (.tooLarge budget)) ∧
      (∀ result, outcome = .ok result → ∃ replaced,
        (∀ count, Replaces definitions expr count ↔ count = replaced) ∧
          needed = result.nodeCount + replaced) ∧
      ∀ budget result, expand definitions budget expr = .ok result →
        result.nodeCount ≤ budget := by
  obtain ⟨visits, outcome, walks⟩ := walks_of_finite definitions finite expr
  have threshold := expand_of_walks definitions expr visits outcome walks
  have count (result : Expr) (done : outcome = .ok result) : ∃ replaced,
      (∀ count, Replaces definitions expr count ↔ count = replaced) ∧
        visits = result.nodeCount + replaced := by
    subst done
    obtain ⟨replaced, replaces, sum⟩ := visits_of_walks definitions [] expr result visits walks
    refine ⟨replaced, fun count => ⟨fun other => ?_, ?_⟩, sum⟩
    · exact replaces_unique definitions expr count replaced other replaces
    · rintro rfl
      exact replaces
  refine ⟨visits, outcome, not_tooLarge_of_walks definitions [] expr visits outcome walks,
    threshold, count, ?_⟩
  intro budget result expanded
  rw [threshold budget] at expanded
  split at expanded
  · next enough =>
      obtain ⟨replaced, _, sum⟩ := count result expanded
      omega
  · cases expanded

/-- Vehicles are cars and trucks, and parked ones do not move. -/
def fleet : Catalogue :=
  ⟨[⟨1, "traffic", '%', 0⟩], [⟨1, "car", none, none⟩, ⟨2, "truck", none, none⟩,
    ⟨3, "vehicle", some 1, some "car OR truck"⟩,
    ⟨4, "parked", none, some "%vehicle AND NOT moving"⟩]⟩

/-- A query for parked vehicles takes eight visits. -/
theorem expand_threshold_fleet : fleet.definitions.IsFinite ∧ ∀ budget,
    expand fleet.definitions budget (.tag "parked" none) =
      if 8 ≤ budget then
        .ok (.and (.or (.tag "car" none) (.tag "truck" none)) (.not (.tag "moving" none)))
      else .error (.tooLarge budget) := by
  have finite := definitions_isFinite fleet
  refine ⟨finite, ?_⟩
  obtain ⟨needed, outcome, small, threshold, _⟩ :=
    expand_threshold fleet.definitions finite (.tag "parked" none)
  have seven : expand fleet.definitions 7 (.tag "parked" none) = .error (.tooLarge 7) := by
    decide +kernel
  have eight : expand fleet.definitions 8 (.tag "parked" none) =
      .ok (.and (.or (.tag "car" none) (.tag "truck" none)) (.not (.tag "moving" none))) := by
    decide +kernel
  rw [threshold] at seven eight
  have above : ¬needed ≤ 7 := by
    intro enough
    rw [if_pos enough] at seven
    exact small 7 seven
  split at eight
  · next enough =>
      have exact : needed = 8 := by omega
      subst exact
      intro budget
      rw [threshold, eight]
  · cases eight

end Gallery.Query
