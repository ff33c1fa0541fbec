import Gallery.Query.Expansion

/-!
What an expansion does when no budget stops it: the nodes that it visits, and how it ends. A run
under a budget either follows such a walk to its end or uses the budget up (`expandWithin_cases`),
and for a given walk the budget alone decides between the two (`expandWithin_exact`).
-/

namespace Gallery.Query

/-- Conjunction and disjunction, which expansion treats alike. -/
def IsJunction (join : Expr → Expr → Expr) : Prop :=
  join = .and ∨ join = .or

theorem and_isJunction : IsJunction .and := .inl rfl

theorem or_isJunction : IsJunction .or := .inr rfl

/-- `Walks definitions path expr visits outcome`: inside the definitions of the tags on `path`,
expanding the expression takes so many visits and ends in the outcome. -/
inductive Walks (definitions : Definitions) :
    List String → Expr → Nat → Except QueryError Expr → Prop where
  | kept (path : List String) (label : String) (symbol : Option Char)
      (undefined_ : definitions.replacement? label symbol = none) :
      Walks definitions path (.tag label symbol) 1 (.ok (.tag label symbol))
  | circular (path : List String) (label : String) (symbol : Option Char) (definition : String)
      (defined : definitions.replacement? label symbol = some definition)
      (inside : label ∈ path) :
      Walks definitions path (.tag label symbol) 1 (.error (.cycle label))
  | unreadable (path : List String) (label : String) (symbol : Option Char) (definition : String)
      (error : SyntaxError) (defined : definitions.replacement? label symbol = some definition)
      (outside : label ∉ path) (failed : parse definition = .error error) :
      Walks definitions path (.tag label symbol) 1 (.error (.unreadableDefinition label error))
  | replaced (path : List String) (label : String) (symbol : Option Char) (definition : String)
      (body : Expr) (visits : Nat) (outcome : Except QueryError Expr)
      (defined : definitions.replacement? label symbol = some definition)
      (outside : label ∉ path) (parsed : parse definition = .ok body)
      (walks : Walks definitions (label :: path) body visits outcome) :
      Walks definitions path (.tag label symbol) (1 + visits) outcome
  | pseudo (path : List String) (name : String) (argument : Option Argument) :
      Walks definitions path (.pseudo name argument) 1 (.ok (.pseudo name argument))
  | stopped (path : List String) (join : Expr → Expr → Expr) (left right : Expr) (visits : Nat)
      (error : QueryError) (junction : IsJunction join)
      (stops : Walks definitions path left visits (.error error)) :
      Walks definitions path (join left right) (1 + visits) (.error error)
  | joined (path : List String) (join : Expr → Expr → Expr) (left right first : Expr)
      (inLeft inRight : Nat) (outcome : Except QueryError Expr) (junction : IsJunction join)
      (walksLeft : Walks definitions path left inLeft (.ok first))
      (walksRight : Walks definitions path right inRight outcome) :
      Walks definitions path (join left right) (1 + inLeft + inRight) (outcome.map (join first))
  | not (path : List String) (operand : Expr) (visits : Nat) (outcome : Except QueryError Expr)
      (walks : Walks definitions path operand visits outcome) :
      Walks definitions path (.not operand) (1 + visits) (outcome.map .not)

/-- Induction on a walk that succeeds: every walk inside it does. -/
@[elab_as_elim]
theorem Walks.ok_induction {definitions : Definitions}
    {motive : (path : List String) → (expr : Expr) → (visits : Nat) → (result : Expr) →
      Walks definitions path expr visits (.ok result) → Prop}
    (kept : ∀ path label symbol undefined_, motive path (.tag label symbol) 1 (.tag label symbol)
      (.kept path label symbol undefined_))
    (replaced : ∀ path label symbol definition body visits result defined outside parsed walks,
      motive (label :: path) body visits result walks →
        motive path (.tag label symbol) (1 + visits) result
          (.replaced path label symbol definition body visits (.ok result) defined outside parsed
            walks))
    (pseudo : ∀ path name argument, motive path (.pseudo name argument) 1 (.pseudo name argument)
      (.pseudo path name argument))
    (joined : ∀ path join left right first second inLeft inRight junction walksLeft walksRight,
      motive path left inLeft first walksLeft → motive path right inRight second walksRight →
        motive path (join left right) (1 + inLeft + inRight) (join first second)
          (.joined path join left right first inLeft inRight (.ok second) junction walksLeft
            walksRight))
    (not : ∀ path operand visits inner walks, motive path operand visits inner walks →
      motive path (.not operand) (1 + visits) (.not inner)
        (.not path operand visits (.ok inner) walks))
    {path : List String} {expr : Expr} {visits : Nat} {result : Expr}
    (walks : Walks definitions path expr visits (.ok result)) :
    motive path expr visits result walks := by
  -- The induction needs the outcome to be a variable; the walks that fail then contradict `same`.
  have every (path : List String) (expr : Expr) (visits : Nat) (outcome : Except QueryError Expr)
      (walks : Walks definitions path expr visits outcome) (result : Expr)
      (same : outcome = .ok result) : motive path expr visits result (same ▸ walks) := by
    induction walks generalizing result with
    | kept path label symbol undefined_ =>
        cases same
        exact kept path label symbol undefined_
    | circular | unreadable | stopped => cases same
    | replaced path label symbol definition body visits outcome defined outside parsed walks ih =>
        subst same
        exact replaced path label symbol definition body visits result defined outside parsed walks
          (ih result rfl)
    | pseudo path name argument =>
        cases same
        exact pseudo path name argument
    | joined path join left right first inLeft inRight outcome junction walksLeft walksRight ihLeft
        ihRight =>
        cases outcome with
        | error error => cases same
        | ok second =>
            cases same
            exact joined path join left right first second inLeft inRight junction walksLeft
              walksRight (ihLeft first rfl) (ihRight second rfl)
    | not path operand visits outcome walks ih =>
        cases outcome with
        | error error => cases same
        | ok inner =>
            cases same
            exact not path operand visits inner walks (ih inner rfl)
  exact every path expr visits (.ok result) walks result rfl

/-! One visit of a run. -/

theorem expandWithin_spent (definitions : Definitions) (budget room : Nat) (path : List String)
    (visited : Nat) (expr : Expr) (spent : budget ≤ visited) :
    expandWithin definitions budget room path visited expr = .error (.tooLarge budget) := by
  cases room with
  | zero => rfl
  | succ room => cases expr <;> rw [expandWithin, if_pos spent]

theorem expandWithin_junction (definitions : Definitions) (budget room : Nat) (path : List String)
    (visited : Nat) (join : Expr → Expr → Expr) (left right : Expr) (junction : IsJunction join)
    (unspent : ¬budget ≤ visited) :
    expandWithin definitions budget (room + 1) path visited (join left right) = (do
      let (left, visited) ← expandWithin definitions budget room path (visited + 1) left
      let (right, visited) ← expandWithin definitions budget room path visited right
      return (join left right, visited)) := by
  rcases junction with rfl | rfl
  · rw [expandWithin, if_neg unspent]
  · rw [expandWithin, if_neg unspent]

theorem expandWithin_stopped (definitions : Definitions) (budget room : Nat) (path : List String)
    (visited : Nat) (join : Expr → Expr → Expr) (left right : Expr) (error : QueryError)
    (junction : IsJunction join) (unspent : ¬budget ≤ visited)
    (stops : expandWithin definitions budget room path (visited + 1) left = .error error) :
    expandWithin definitions budget (room + 1) path visited (join left right) = .error error := by
  rw [expandWithin_junction definitions budget room path visited join left right junction unspent,
    stops]
  rfl

theorem expandWithin_joined (definitions : Definitions) (budget room : Nat) (path : List String)
    (visited : Nat) (join : Expr → Expr → Expr) (left right first : Expr) (after : Nat)
    (junction : IsJunction join) (unspent : ¬budget ≤ visited)
    (read : expandWithin definitions budget room path (visited + 1) left = .ok (first, after)) :
    expandWithin definitions budget (room + 1) path visited (join left right) =
      (expandWithin definitions budget room path after right).map
        fun second => (join first second.1, second.2) := by
  rw [expandWithin_junction definitions budget room path visited join left right junction unspent,
    read]
  change (expandWithin definitions budget room path after right >>= fun second =>
    pure (join first second.1, second.2)) = _
  cases expandWithin definitions budget room path after right <;> rfl

theorem expandWithin_not (definitions : Definitions) (budget room : Nat) (path : List String)
    (visited : Nat) (operand : Expr) (unspent : ¬budget ≤ visited) :
    expandWithin definitions budget (room + 1) path visited (.not operand) =
      (expandWithin definitions budget room path (visited + 1) operand).map
        fun inner => (.not inner.1, inner.2) := by
  rw [expandWithin, if_neg unspent]
  cases expandWithin definitions budget room path (visited + 1) operand <;> rfl

theorem expandWithin_replaced (definitions : Definitions) (budget room : Nat) (path : List String)
    (visited : Nat) (label : String) (symbol : Option Char) (definition : String) (body : Expr)
    (defined : definitions.replacement? label symbol = some definition) (outside : label ∉ path)
    (parsed : parse definition = .ok body) (unspent : ¬budget ≤ visited) :
    expandWithin definitions budget (room + 1) path visited (.tag label symbol) =
      expandWithin definitions budget room (label :: path) (visited + 1) body := by
  rw [expandWithin, if_neg unspent]
  simp only [defined, if_neg outside, parsed]

/-- A reference that is expanded is kept, or replaced by what the definition expands to. -/
theorem expandWithin_reference (definitions : Definitions) (budget room : Nat)
    (path : List String) (visited : Nat) (label : String) (symbol : Option Char) (result : Expr)
    (after : Nat) (unspent : ¬budget ≤ visited)
    (expanded : expandWithin definitions budget (room + 1) path visited (.tag label symbol) =
      .ok (result, after)) :
    result = .tag label symbol ∨ ∃ definition body,
      definitions.replacement? label symbol = some definition ∧ label ∉ path ∧
        parse definition = .ok body ∧
        expandWithin definitions budget room (label :: path) (visited + 1) body =
          .ok (result, after) := by
  rw [expandWithin, if_neg unspent] at expanded
  cases replaced : definitions.replacement? label symbol with
  | none =>
      simp only [replaced] at expanded
      cases expanded
      exact .inl rfl
  | some definition =>
      simp only [replaced] at expanded
      split at expanded
      · cases expanded
      · next outside =>
          cases parsed : parse definition with
          | error error =>
              simp only [parsed] at expanded
              cases expanded
          | ok body =>
              simp only [parsed] at expanded
              exact .inr ⟨definition, body, rfl, outside, parsed, expanded⟩

theorem walks_positive (definitions : Definitions) (path : List String) (expr : Expr)
    (visits : Nat) (outcome : Except QueryError Expr)
    (walks : Walks definitions path expr visits outcome) : 0 < visits := by
  cases walks <;> omega

/-- A walk of a single visit is run at once. -/
theorem expandWithin_single (definitions : Definitions) (budget room : Nat) (path : List String)
    (visited : Nat) (expr : Expr) (visits : Nat) (outcome : Except QueryError Expr)
    (walks : Walks definitions path expr visits outcome) (single : visits = 1)
    (unspent : ¬budget ≤ visited) :
    expandWithin definitions budget (room + 1) path visited expr =
      outcome.map (·, visited + 1) := by
  cases walks with
  | kept _ label symbol undefined_ =>
      rw [expandWithin, if_neg unspent]
      simp only [undefined_, Except.map]
  | circular _ label symbol definition defined inside =>
      rw [expandWithin, if_neg unspent]
      simp only [defined, if_pos inside, Except.map]
  | unreadable _ label symbol definition error defined outside failed =>
      rw [expandWithin, if_neg unspent]
      simp only [defined, if_neg outside, failed, Except.map]
  | pseudo _ name argument =>
      rw [expandWithin, if_neg unspent]
      rfl
  | replaced _ _ _ _ _ _ _ _ _ _ walks | stopped _ _ _ _ _ _ _ walks
  | joined _ _ _ _ _ _ _ _ _ walks | not _ _ _ _ walks =>
      -- Another node is visited inside.
      have := walks_positive definitions _ _ _ _ walks
      omega

/-- Induction along a run: a reference leads into its definition, and the right side of a junction
is visited only after the left side has succeeded. -/
theorem run_induction (definitions : Definitions) (budget : Nat)
    {motive : (room : Nat) → (path : List String) → (visited : Nat) → Expr → Prop}
    (stopped : ∀ room path visited expr, room = 0 ∨ budget ≤ visited →
      motive room path visited expr)
    (tag : ∀ room path visited label symbol, ¬budget ≤ visited →
      (∀ definition body, definitions.replacement? label symbol = some definition →
        label ∉ path → parse definition = .ok body →
          motive room (label :: path) (visited + 1) body) →
      motive (room + 1) path visited (.tag label symbol))
    (pseudo : ∀ room path visited name argument, ¬budget ≤ visited →
      motive (room + 1) path visited (.pseudo name argument))
    (joined : ∀ room path visited join left right, IsJunction join → ¬budget ≤ visited →
      motive room path (visited + 1) left →
      (∀ first after,
        expandWithin definitions budget room path (visited + 1) left = .ok (first, after) →
          motive room path after right) →
      motive (room + 1) path visited (join left right))
    (not : ∀ room path visited operand, ¬budget ≤ visited →
      motive room path (visited + 1) operand → motive (room + 1) path visited (.not operand))
    (room : Nat) (path : List String) (visited : Nat) (expr : Expr) :
    motive room path visited expr := by
  induction room generalizing path visited expr with
  | zero => exact stopped 0 path visited expr (.inl rfl)
  | succ room ih =>
      by_cases spent : budget ≤ visited
      · exact stopped _ path visited expr (.inr spent)
      · cases expr with
        | tag label symbol =>
            exact tag room path visited label symbol spent fun _ body _ _ _ => ih _ _ body
        | pseudo name argument => exact pseudo room path visited name argument spent
        | and left right =>
            exact joined room path visited .and left right and_isJunction spent (ih _ _ left)
              fun _ _ _ => ih _ _ right
        | or left right =>
            exact joined room path visited .or left right or_isJunction spent (ih _ _ left)
              fun _ _ _ => ih _ _ right
        | not operand => exact not room path visited operand spent (ih _ _ operand)

/-! Runs and walks. -/

/-- A result together with the visits of an operator around it is the result with the operator. -/
theorem map_visited (outcome : Except QueryError Expr) (wrap : Expr → Expr) (count : Nat) :
    ((outcome.map (·, count)).map fun read => (wrap read.1, read.2)) =
      (outcome.map wrap).map (·, count) := by
  cases outcome <;> rfl

/-- The run has used the budget up, or has followed a walk to its end. -/
def Conforms (definitions : Definitions) (budget room : Nat) (path : List String) (visited : Nat)
    (expr : Expr) : Prop :=
  expandWithin definitions budget room path visited expr = .error (.tooLarge budget) ∨
    ∃ visits outcome, Walks definitions path expr visits outcome ∧
      expandWithin definitions budget room path visited expr = outcome.map (·, visited + visits)

theorem conforms_junction (definitions : Definitions) (budget room : Nat) (path : List String)
    (visited : Nat) (join : Expr → Expr → Expr) (left right : Expr) (junction : IsJunction join)
    (unspent : ¬budget ≤ visited)
    (ih : ∀ visited expr, Conforms definitions budget room path visited expr) :
    Conforms definitions budget (room + 1) path visited (join left right) := by
  obtain readLeft | ⟨inLeft, outcome, walksLeft, readLeft⟩ := ih (visited + 1) left
  · exact .inl (expandWithin_stopped definitions budget room path visited join left right _ junction
      unspent readLeft)
  · cases outcome with
    | error error =>
        exact .inr ⟨_, _, .stopped path join left right _ _ junction walksLeft,
          expandWithin_stopped definitions budget room path visited join left right _ junction
            unspent readLeft⟩
    | ok first =>
        have run := expandWithin_joined definitions budget room path visited join left right first _
          junction unspent readLeft
        obtain readRight | ⟨inRight, outcome, walksRight, readRight⟩ :=
          ih (visited + 1 + inLeft) right
        · left
          rw [run, readRight]
          rfl
        · right
          refine ⟨_, _, .joined path join left right first _ _ _ junction walksLeft walksRight, ?_⟩
          rw [run, readRight, map_visited, Nat.add_assoc, Nat.add_assoc, Nat.add_assoc]

theorem conforms_tag (definitions : Definitions) (budget room : Nat) (path : List String)
    (visited : Nat) (label : String) (symbol : Option Char) (unspent : ¬budget ≤ visited)
    (ih : ∀ path visited expr, Conforms definitions budget room path visited expr) :
    Conforms definitions budget (room + 1) path visited (.tag label symbol) := by
  have single (outcome : Except QueryError Expr)
      (walks : Walks definitions path (.tag label symbol) 1 outcome) :
      Conforms definitions budget (room + 1) path visited (.tag label symbol) :=
    .inr ⟨1, outcome, walks, expandWithin_single definitions budget room path visited _ _ _ walks
      rfl unspent⟩
  cases defined : definitions.replacement? label symbol with
  | none => exact single _ (.kept path label symbol defined)
  | some definition =>
      by_cases inside : label ∈ path
      · exact single _ (.circular path label symbol definition defined inside)
      · cases parsed : parse definition with
        | error error =>
            exact single _ (.unreadable path label symbol definition error defined inside parsed)
        | ok body =>
            rw [Conforms, expandWithin_replaced definitions budget room path visited label symbol
              definition body defined inside parsed unspent]
            obtain read | ⟨visits, outcome, walks, read⟩ := ih (label :: path) (visited + 1) body
            · exact .inl read
            · refine .inr ⟨_, _, .replaced path label symbol definition body visits outcome defined
                inside parsed walks, ?_⟩
              rw [read, Nat.add_assoc]

/-- A run uses the budget up, or follows a walk to its end. -/
theorem expandWithin_cases (definitions : Definitions) (budget room : Nat) (path : List String)
    (visited : Nat) (expr : Expr) : Conforms definitions budget room path visited expr := by
  -- By induction on the room, which shrinks with every visit, also on entering a definition.
  induction room generalizing path visited expr with
  | zero => exact .inl rfl
  | succ room ih =>
      by_cases spent : budget ≤ visited
      · exact .inl (expandWithin_spent definitions budget _ path visited expr spent)
      · cases expr with
        | tag label symbol => exact conforms_tag definitions budget room path visited _ _ spent ih
        | pseudo name argument =>
            have walks := @Walks.pseudo definitions path name argument
            exact .inr ⟨1, _, walks, expandWithin_single definitions budget room path visited _ _ _
              walks rfl spent⟩
        | and left right =>
            exact conforms_junction definitions budget room path visited .and left right
              and_isJunction spent (ih path)
        | or left right =>
            exact conforms_junction definitions budget room path visited .or left right
              or_isJunction spent (ih path)
        | not operand =>
            have run := expandWithin_not definitions budget room path visited operand spent
            obtain read | ⟨visits, outcome, walks, read⟩ := ih path (visited + 1) operand
            · left
              rw [run, read]
              rfl
            · refine .inr ⟨_, _, .not path operand visits outcome walks, ?_⟩
              rw [run, read, map_visited, Nat.add_assoc]

/-- How a run ends that has visited `count` nodes by the end of its walk. -/
def endsWithin (budget count : Nat) (outcome : Except QueryError Expr) :
    Except QueryError (Expr × Nat) :=
  if count ≤ budget then outcome.map (·, count) else .error (.tooLarge budget)

theorem endsWithin_map (budget count : Nat) (outcome : Except QueryError Expr)
    (wrap : Expr → Expr) :
    ((endsWithin budget count outcome).map fun read => (wrap read.1, read.2)) =
      endsWithin budget count (outcome.map wrap) := by
  simp only [endsWithin]
  split
  · exact map_visited outcome wrap count
  · rfl

/-- Once the budget is used up nothing is left to show. -/
theorem exact_of_unspent (definitions : Definitions) (budget : Nat) (path : List String)
    (expr : Expr) (visits : Nat) (outcome : Except QueryError Expr)
    (walks : Walks definitions path expr visits outcome)
    (run : ∀ room visited, ¬budget ≤ visited → budget ≤ visited + 1 + room →
      expandWithin definitions budget (room + 1) path visited expr =
        endsWithin budget (visited + visits) outcome)
    (room visited : Nat) (roomy : budget ≤ visited + room) :
    expandWithin definitions budget room path visited expr =
      endsWithin budget (visited + visits) outcome := by
  have positive := walks_positive definitions path expr visits outcome walks
  by_cases spent : budget ≤ visited
  · rw [expandWithin_spent definitions budget room path visited expr spent, endsWithin,
      if_neg (by omega)]
  · cases room with
    | zero => omega
    | succ room => exact run room visited spent (by omega)

section Exact

variable (definitions : Definitions) (budget : Nat) (path : List String)

/-- From whatever visit on the run starts, it ends with the walk when the budget allows all its
visits, and otherwise uses the budget up. -/
def EndsExactly (expr : Expr) (visits : Nat) (outcome : Except QueryError Expr) : Prop :=
  ∀ room visited, budget ≤ visited + room →
    expandWithin definitions budget room path visited expr =
      endsWithin budget (visited + visits) outcome

-- A node that is visited alone needs no more than one visit of the budget.
theorem exact_single (expr : Expr) (outcome : Except QueryError Expr)
    (walks : Walks definitions path expr 1 outcome) :
    EndsExactly definitions budget path expr 1 outcome := by
  apply exact_of_unspent definitions budget path expr 1 outcome walks
  intro room visited unspent _
  rw [endsWithin, if_pos (by omega)]
  exact expandWithin_single definitions budget room path visited expr 1 outcome walks rfl unspent

variable (join : Expr → Expr → Expr) (junction : IsJunction join) (left right : Expr)

include junction

theorem exact_stopped (visits : Nat) (error : QueryError)
    (stops : Walks definitions path left visits (.error error))
    (exact : EndsExactly definitions budget path left visits (.error error)) :
    EndsExactly definitions budget path (join left right) (1 + visits) (.error error) := by
  apply exact_of_unspent definitions budget _ _ _ _
    (.stopped path join left right visits error junction stops)
  intro room visited unspent roomy
  have readLeft := exact room (visited + 1) roomy
  rw [Nat.add_assoc] at readLeft
  by_cases reached : visited + (1 + visits) ≤ budget
  · rw [endsWithin, if_pos reached] at readLeft ⊢
    exact expandWithin_stopped definitions budget room path visited join left right error junction
      unspent readLeft
  · rw [endsWithin, if_neg reached] at readLeft ⊢
    exact expandWithin_stopped definitions budget room path visited join left right _ junction
      unspent readLeft

theorem exact_joined (first : Expr) (inLeft inRight : Nat) (outcome : Except QueryError Expr)
    (walksLeft : Walks definitions path left inLeft (.ok first))
    (walksRight : Walks definitions path right inRight outcome)
    (exactLeft : EndsExactly definitions budget path left inLeft (.ok first))
    (exactRight : EndsExactly definitions budget path right inRight outcome) :
    EndsExactly definitions budget path (join left right) (1 + inLeft + inRight)
      (outcome.map (join first)) := by
  apply exact_of_unspent definitions budget _ _ _ _
    (.joined path join left right first inLeft inRight outcome junction walksLeft walksRight)
  intro room visited unspent roomy
  have readLeft := exactLeft room (visited + 1) roomy
  by_cases reached : visited + 1 + inLeft ≤ budget
  · rw [endsWithin, if_pos reached] at readLeft
    have readRight := exactRight room (visited + 1 + inLeft) (by omega)
    have same : visited + 1 + inLeft + inRight = visited + (1 + inLeft + inRight) := by omega
    rw [expandWithin_joined definitions budget room path visited join left right first _ junction
      unspent readLeft, readRight, same, endsWithin_map]
  · rw [endsWithin, if_neg reached] at readLeft
    rw [expandWithin_stopped definitions budget room path visited join left right _ junction unspent
      readLeft, endsWithin, if_neg (by omega)]

end Exact

/-- The run along a walk ends with it when the budget allows all its visits, and otherwise uses the
budget up. -/
theorem expandWithin_exact (definitions : Definitions) (budget : Nat) (path : List String)
    (expr : Expr) (visits : Nat) (outcome : Except QueryError Expr)
    (walks : Walks definitions path expr visits outcome) :
    EndsExactly definitions budget path expr visits outcome := by
  induction walks with
  | kept path label symbol undefined_ =>
      exact exact_single definitions budget path _ _ (.kept path label symbol undefined_)
  | circular path label symbol definition defined inside =>
      exact exact_single definitions budget path _ _
        (.circular path label symbol definition defined inside)
  | unreadable path label symbol definition error defined outside failed =>
      exact exact_single definitions budget path _ _
        (.unreadable path label symbol definition error defined outside failed)
  | pseudo path name argument =>
      exact exact_single definitions budget path _ _ (.pseudo path name argument)
  | replaced path label symbol definition body visits outcome defined outside parsed walks ih =>
      apply exact_of_unspent definitions budget _ _ _ _
        (.replaced path label symbol definition body visits outcome defined outside parsed walks)
      intro room visited unspent roomy
      rw [expandWithin_replaced definitions budget room path visited label symbol definition body
        defined outside parsed unspent, ih room (visited + 1) roomy, Nat.add_assoc]
  | stopped path join left right visits error junction stops ih =>
      exact exact_stopped definitions budget path join junction left right visits error stops ih
  | joined path join left right first inLeft inRight outcome junction walksLeft walksRight ihLeft
      ihRight =>
      exact exact_joined definitions budget path join junction left right first inLeft inRight
        outcome walksLeft walksRight ihLeft ihRight
  | not path operand visits outcome walks ih =>
      apply exact_of_unspent definitions budget _ _ _ _ (.not path operand visits outcome walks)
      intro room visited unspent roomy
      rw [expandWithin_not definitions budget room path visited operand unspent,
        ih room (visited + 1) roomy, Nat.add_assoc, endsWithin_map]

theorem expand_of_walks (definitions : Definitions) (expr : Expr) (visits : Nat)
    (outcome : Except QueryError Expr) (walks : Walks definitions [] expr visits outcome)
    (budget : Nat) :
    expand definitions budget expr =
      if visits ≤ budget then outcome else .error (.tooLarge budget) := by
  have run := expandWithin_exact definitions budget [] expr visits outcome walks budget 0 (by omega)
  rw [Nat.zero_add, endsWithin] at run
  rw [expand, run]
  split
  · cases outcome <;> rfl
  · rfl

theorem expand_cases (definitions : Definitions) (budget : Nat) (expr : Expr) :
    expand definitions budget expr = .error (.tooLarge budget) ∨
      ∃ visits, Walks definitions [] expr visits (expand definitions budget expr) := by
  obtain run | ⟨visits, outcome, walks, run⟩ :=
    expandWithin_cases definitions budget budget [] 0 expr
  · left
    rw [expand, run]
    rfl
  · right
    have same : expand definitions budget expr = outcome := by
      rw [expand, run]
      cases outcome <;> rfl
    rw [same]
    exact ⟨visits, walks⟩

theorem walks_of_expand (definitions : Definitions) (budget : Nat) (expr result : Expr)
    (expanded : expand definitions budget expr = .ok result) :
    ∃ visits, Walks definitions [] expr visits (.ok result) := by
  rcases expand_cases definitions budget expr with spent | walks
  · rw [spent] at expanded
    cases expanded
  · rwa [expanded] at walks

theorem not_tooLarge_of_walks (definitions : Definitions) (path : List String) (expr : Expr)
    (visits : Nat) (outcome : Except QueryError Expr)
    (walks : Walks definitions path expr visits outcome) (budget : Nat) :
    outcome ≠ .error (.tooLarge budget) := by
  induction walks with
  | kept | pseudo => simp
  | circular => simp
  | unreadable => simp
  | replaced _ _ _ _ _ _ _ _ _ _ _ ih => exact ih
  | stopped _ _ _ _ _ _ _ _ ih => exact ih
  | joined _ _ _ _ _ _ _ outcome _ _ _ _ ih | not _ _ _ outcome _ ih =>
      cases outcome with
      | error error => simpa [Except.map] using ih
      | ok result => simp [Except.map]

end Gallery.Query
