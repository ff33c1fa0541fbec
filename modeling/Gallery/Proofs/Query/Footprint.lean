import Gallery.Proofs.Query.Expansion

/-!
What an expansion looks at. A run asks for the replacements of the references that it visits, up to
the point where it ends or fails, and of no others: definitions that agree on these give the same
run (`expandWithin_alike`). The references of its result are among them.
-/

namespace Gallery.Query

/-- The references that a run of the expansion visits, in order, until it ends or fails. -/
def metWithin (definitions : Definitions) (budget : Nat) :
    (room : Nat) → (path : List String) → (visited : Nat) → Expr → List (String × Option Char)
  | 0, _, _, _ => []
  | room + 1, path, visited, expr =>
      if budget ≤ visited then [] else
        match expr with
        | .tag label symbol =>
            (label, symbol) ::
              match definitions.replacement? label symbol with
              | none => []
              | some definition =>
                  if label ∈ path then [] else
                    match parse definition with
                    | .error _ => []
                    | .ok body =>
                        metWithin definitions budget room (label :: path) (visited + 1) body
        | .pseudo _ _ => []
        | .and left right | .or left right =>
            metWithin definitions budget room path (visited + 1) left ++
              -- The right side is not visited when the left side fails.
              match expandWithin definitions budget room path (visited + 1) left with
              | .error _ => []
              | .ok (_, visited) => metWithin definitions budget room path visited right
        | .not operand => metWithin definitions budget room path (visited + 1) operand

/-- The references that the expansion of an expression visits. -/
def met (definitions : Definitions) (budget : Nat) (expr : Expr) : List (String × Option Char) :=
  metWithin definitions budget budget [] 0 expr

section Visits

variable (definitions : Definitions) (budget room : Nat) (path : List String) (visited : Nat)
  (reference : String × Option Char)

theorem metWithin_stopped (expr : Expr) (stopped : room = 0 ∨ budget ≤ visited) :
    metWithin definitions budget room path visited expr = [] := by
  cases room with
  | zero => rfl
  | succ room =>
      have spent : budget ≤ visited := by simpa using stopped
      cases expr <;> rw [metWithin, if_pos spent]

theorem mem_metWithin_tag (label : String) (symbol : Option Char) (unspent : ¬budget ≤ visited) :
    reference ∈ metWithin definitions budget (room + 1) path visited (.tag label symbol) ↔
      reference = (label, symbol) ∨ ∃ definition body,
        definitions.replacement? label symbol = some definition ∧ label ∉ path ∧
          parse definition = .ok body ∧
            reference ∈ metWithin definitions budget room (label :: path) (visited + 1) body := by
  rw [metWithin, if_neg unspent, List.mem_cons]
  cases definitions.replacement? label symbol with
  | none => simp
  | some definition =>
      by_cases circular : label ∈ path
      · simp [circular]
      · cases parsed : parse definition <;> simp [circular, parsed]

theorem metWithin_pseudo (name : String) (argument : Option Argument) :
    metWithin definitions budget (room + 1) path visited (.pseudo name argument) = [] := by
  rw [metWithin, ite_self]

theorem mem_metWithin_junction (join : Expr → Expr → Expr) (left right : Expr)
    (junction : IsJunction join) (unspent : ¬budget ≤ visited) :
    reference ∈ metWithin definitions budget (room + 1) path visited (join left right) ↔
      reference ∈ metWithin definitions budget room path (visited + 1) left ∨ ∃ first after,
        expandWithin definitions budget room path (visited + 1) left = .ok (first, after) ∧
          reference ∈ metWithin definitions budget room path after right := by
  have both : metWithin definitions budget (room + 1) path visited (join left right) =
      metWithin definitions budget room path (visited + 1) left ++
        match expandWithin definitions budget room path (visited + 1) left with
        | .error _ => []
        | .ok (_, visited) => metWithin definitions budget room path visited right := by
    rcases junction with rfl | rfl <;> rw [metWithin, if_neg unspent]
  rw [both, List.mem_append]
  cases expandWithin definitions budget room path (visited + 1) left with
  | error error => simp
  | ok result =>
      obtain ⟨first, after⟩ := result
      simp [and_assoc]

theorem metWithin_not (operand : Expr) (unspent : ¬budget ≤ visited) :
    metWithin definitions budget (room + 1) path visited (.not operand) =
      metWithin definitions budget room path (visited + 1) operand := by
  rw [metWithin, if_neg unspent]

end Visits

-- A closed set may be larger than what is met: it does not depend on the budget or the path.
theorem metWithin_inside (definitions : Definitions) (inside : String → Option Char → Prop)
    (closed : ∀ label symbol definition body, inside label symbol →
      definitions.replacement? label symbol = some definition → parse definition = .ok body →
        ∀ other otherSymbol, (other, otherSymbol) ∈ body.references → inside other otherSymbol)
    (budget room visited : Nat) (path : List String) (expr : Expr)
    (within : ∀ label symbol, (label, symbol) ∈ expr.references → inside label symbol)
    (label : String) (symbol : Option Char)
    (member : (label, symbol) ∈ metWithin definitions budget room path visited expr) :
    inside label symbol := by
  induction room, path, visited, expr using run_induction definitions budget with
  | stopped room path visited expr stopped =>
      rw [metWithin_stopped definitions budget room path visited expr stopped] at member
      cases member
  | tag room path visited other otherSymbol unspent ih =>
      have known := within other otherSymbol (List.mem_singleton.mpr rfl)
      rcases (mem_metWithin_tag definitions budget room path visited _ other otherSymbol
        unspent).mp member with same | ⟨definition, body, replaced, outside, parsed, member⟩
      · cases same
        exact known
      · apply ih definition body replaced outside parsed _ member
        exact closed other otherSymbol definition body known replaced parsed
  | pseudo room path visited name argument unspent =>
      rw [metWithin_pseudo] at member
      cases member
  | joined room path visited join left right junction unspent ihLeft ihRight =>
      rw [Expr.references_junction join junction] at within
      rcases (mem_metWithin_junction definitions budget room path visited _ join left right junction
        unspent).mp member with inLeft | ⟨first, after, read, inRight⟩
      · apply ihLeft _ inLeft
        intro label symbol member
        exact within label symbol (List.mem_append_left _ member)
      · apply ihRight first after read _ inRight
        intro label symbol member
        exact within label symbol (List.mem_append_right _ member)
  | not room path visited operand unspent ih =>
      rw [metWithin_not definitions budget room path visited operand unspent] at member
      exact ih within member

-- The paths may differ in labels of which no reference is replaced. What is assumed of the second
-- definitions concerns the references that the run under the first ones meets, errors included.
theorem expandWithin_alike (first second : Definitions) (budget room visited : Nat)
    (path other : List String) (expr : Expr)
    (same : ∀ label symbol, (label, symbol) ∈ metWithin first budget room path visited expr →
      second.replacement? label symbol = first.replacement? label symbol)
    (paths : ∀ label symbol, (label, symbol) ∈ metWithin first budget room path visited expr →
      first.replacement? label symbol ≠ none → (label ∈ path ↔ label ∈ other)) :
    expandWithin second budget room other visited expr =
      expandWithin first budget room path visited expr := by
  induction room, path, visited, expr using run_induction first budget
    generalizing other with
  | stopped room path visited expr stopped =>
      rcases stopped with rfl | spent
      · rfl
      · rw [expandWithin_spent second budget room other visited expr spent,
          expandWithin_spent first budget room path visited expr spent]
  | tag room path visited label symbol unspent ih =>
      simp only [mem_metWithin_tag first budget room path visited _ label symbol unspent]
        at same paths
      rw [expandWithin, expandWithin, if_neg unspent, if_neg unspent]
      simp only [same label symbol (.inl rfl)]
      cases replaced : first.replacement? label symbol with
      | none => rfl
      | some definition =>
          have onBoth := paths label symbol (.inl rfl) (by simp [replaced])
          by_cases circular : label ∈ path
          · simp only [if_pos circular, if_pos (onBoth.mp circular)]
          · simp only [if_neg circular, if_neg (mt onBoth.mpr circular)]
            cases parsed : parse definition with
            | error error => rfl
            | ok body =>
                apply ih definition body replaced circular parsed (label :: other)
                · intro inner innerSymbol member
                  exact same inner innerSymbol
                    (.inr ⟨definition, body, replaced, circular, parsed, member⟩)
                · intro inner innerSymbol member expandable
                  have outer := paths inner innerSymbol
                    (.inr ⟨definition, body, replaced, circular, parsed, member⟩) expandable
                  rw [List.mem_cons, List.mem_cons, outer]
  | pseudo room path visited name argument unspent => rw [expandWithin, expandWithin]
  | joined room path visited join left right junction unspent ihLeft ihRight =>
      simp only [mem_metWithin_junction first budget room path visited _ join left right junction
        unspent] at same paths
      have readLeft := ihLeft other (fun label symbol member => same label symbol (.inl member))
        fun label symbol member => paths label symbol (.inl member)
      rw [expandWithin_junction second budget room other visited join left right junction unspent,
        expandWithin_junction first budget room path visited join left right junction unspent,
        readLeft]
      cases read : expandWithin first budget room path (visited + 1) left with
      | error error => rfl
      | ok result =>
          have readRight := ihRight result.1 result.2 read other
            (fun label symbol member => same label symbol (.inr ⟨_, _, read, member⟩))
            fun label symbol member => paths label symbol (.inr ⟨_, _, read, member⟩)
          simp only [bind, Except.bind, readRight]
  | not room path visited operand unspent ih =>
      rw [metWithin_not first budget room path visited operand unspent] at same paths
      rw [expandWithin, expandWithin, if_neg unspent, if_neg unspent]
      simp only [ih other same paths]

theorem references_met (definitions : Definitions) (budget room visited : Nat)
    (path : List String) (expr result : Expr) (after : Nat)
    (expanded : expandWithin definitions budget room path visited expr = .ok (result, after))
    (reference : String × Option Char) (member : reference ∈ result.references) :
    reference ∈ metWithin definitions budget room path visited expr := by
  induction room, path, visited, expr using run_induction definitions budget
    generalizing result after with
  | stopped room path visited expr stopped =>
      rcases stopped with rfl | spent
      · cases expanded
      · rw [expandWithin_spent definitions budget room path visited expr spent] at expanded
        cases expanded
  | tag room path visited label symbol unspent ih =>
      rw [mem_metWithin_tag definitions budget room path visited _ label symbol unspent]
      rcases expandWithin_reference definitions budget room path visited label symbol result after
        unspent expanded with rfl | ⟨definition, body, replaced, outside, parsed, inside⟩
      · exact .inl (List.mem_singleton.mp member)
      · exact .inr ⟨definition, body, replaced, outside, parsed,
          ih definition body replaced outside parsed result after inside member⟩
  | pseudo room path visited name argument unspent =>
      rw [expandWithin, if_neg unspent] at expanded
      cases expanded
      cases member
  | joined room path visited join left right junction unspent ihLeft ihRight =>
      rw [mem_metWithin_junction definitions budget room path visited _ join left right junction
        unspent]
      rw [expandWithin_junction definitions budget room path visited join left right junction
        unspent] at expanded
      rcases (bind_ok_iff _ _ _).mp expanded with ⟨⟨first, middle⟩, readLeft, expanded⟩
      rcases (bind_ok_iff _ _ _).mp expanded with ⟨⟨second, last⟩, readRight, same⟩
      cases same
      rw [Expr.references_junction join junction, List.mem_append] at member
      rcases member with inLeft | inRight
      · exact .inl (ihLeft first middle readLeft inLeft)
      · exact .inr ⟨first, middle, readLeft,
          ihRight first middle readLeft second after readRight inRight⟩
  | not room path visited operand unspent ih =>
      rw [metWithin_not definitions budget room path visited operand unspent]
      rw [expandWithin, if_neg unspent] at expanded
      rcases (bind_ok_iff _ _ _).mp expanded with ⟨⟨inner, last⟩, read, same⟩
      cases same
      exact ih inner after read member

end Gallery.Query
