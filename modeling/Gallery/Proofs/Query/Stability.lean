import Gallery.Proofs.Query.Substitution

/-!
Expansion as a closure. It leaves only references that expansion keeps, and an expression with only
such references takes one visit for each of its nodes. The first expansion has visited all nodes of
its result, so under the same budget it expands the result to itself
(`expand_reaches_fixed_point`).
-/

namespace Gallery.Query

/-- No reference of the expression is replaced: the tag has no definition, or the symbol belongs to
a type that the tag does not have. -/
def Settled (definitions : Definitions) (expr : Expr) : Prop :=
  ∀ label symbol, (label, symbol) ∈ expr.references →
    definitions.definition? label = none ∨
      ∃ c, symbol = some c ∧ definitions.hasType label c = false

theorem settled_junction (definitions : Definitions) (join : Expr → Expr → Expr)
    (junction : IsJunction join) (left right : Expr) :
    Settled definitions (join left right) ↔
      Settled definitions left ∧ Settled definitions right := by
  simp only [Settled, Expr.references_junction join junction, List.mem_append, or_imp, forall_and]

theorem settled_of_expand (definitions : Definitions) (budget : Nat) (expr result : Expr)
    (expanded : expand definitions budget expr = .ok result) : Settled definitions result := by
  intro label symbol member
  rw [← definitions.replacement_eq_none]
  exact kept_of_expands definitions expr result
    (expand_expands definitions budget expr result expanded) label symbol member

-- By induction on the expression: no definition is entered, so the path never matters.
theorem walks_of_settled (definitions : Definitions) (path : List String) (expr : Expr)
    (settled : Settled definitions expr) :
    Walks definitions path expr expr.nodeCount (.ok expr) := by
  induction expr with
  | tag label symbol =>
      apply Walks.kept
      rw [definitions.replacement_eq_none]
      exact settled label symbol (List.mem_singleton.mpr rfl)
  | pseudo name argument => exact .pseudo path name argument
  | and left right ihLeft ihRight =>
      have both := (settled_junction definitions .and and_isJunction left right).mp settled
      exact .joined path .and left right left _ _ _ and_isJunction (ihLeft both.1) (ihRight both.2)
  | or left right ihLeft ihRight =>
      have both := (settled_junction definitions .or or_isJunction left right).mp settled
      exact .joined path .or left right left _ _ _ or_isJunction (ihLeft both.1) (ihRight both.2)
  | not operand ih => exact .not path operand _ _ (ih settled)

theorem expand_settled (definitions : Definitions) (budget : Nat) (expr : Expr)
    (settled : Settled definitions expr) :
    expand definitions budget expr =
      if expr.nodeCount ≤ budget then .ok expr else .error (.tooLarge budget) :=
  expand_of_walks definitions expr _ _ (walks_of_settled definitions [] expr settled) budget

/-- The result of an expansion has one node for each visit, except the visits of the references
that were replaced. -/
theorem nodeCount_of_expand (definitions : Definitions) (budget : Nat) (expr result : Expr)
    (expanded : expand definitions budget expr = .ok result) : result.nodeCount ≤ budget := by
  obtain ⟨visits, enough, walks⟩ := visits_of_expand definitions budget expr result expanded
  obtain ⟨replaced, _, sum⟩ := visits_of_walks definitions [] expr result visits walks
  omega

/-- What expansion returns has no reference left that is replaced, and it is expanded to itself
under the same budget. An expression without such references is expanded to itself as soon as the
budget has a visit for each node. -/
theorem expand_reaches_fixed_point (definitions : Definitions) (budget : Nat) (expr : Expr) :
    (∀ result, expand definitions budget expr = .ok result →
      Settled definitions result ∧ expand definitions budget result = .ok result) ∧
    (Settled definitions expr → expand definitions budget expr =
      if expr.nodeCount ≤ budget then .ok expr else .error (.tooLarge budget)) := by
  constructor
  · intro result expanded
    have settled := settled_of_expand definitions budget expr result expanded
    have enough := nodeCount_of_expand definitions budget expr result expanded
    refine ⟨settled, ?_⟩
    rw [expand_settled definitions budget result settled, if_pos enough]
  · exact expand_settled definitions budget expr

/-- At a budget that leaves nothing over, a kept reference to a tag with a definition included. -/
theorem expand_reaches_fixed_point_fleet : ∃ result,
    expand fleet.definitions 11 (.and (.tag "parked" none) (.not (.tag "vehicle" (some '@')))) =
        .ok result ∧
      Settled fleet.definitions result ∧ expand fleet.definitions 11 result = .ok result := by
  have expanded : expand fleet.definitions 11
      (.and (.tag "parked" none) (.not (.tag "vehicle" (some '@')))) =
      .ok (.and (.and (.or (.tag "car" none) (.tag "truck" none)) (.not (.tag "moving" none)))
        (.not (.tag "vehicle" (some '@')))) := by
    decide +kernel
  have settles := (expand_reaches_fixed_point fleet.definitions 11
    (.and (.tag "parked" none) (.not (.tag "vehicle" (some '@'))))).1 _ expanded
  exact ⟨_, expanded, settles.1, settles.2⟩

end Gallery.Query
