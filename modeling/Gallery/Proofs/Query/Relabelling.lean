import Gallery.Proofs.Query.Agreement
import Gallery.Proofs.Query.Atoms

/-!
Queries under other labels. When every label in a set gets a label of its own and the tags go with
their labels, a query is expanded, judged and turned into a condition as before: only the labels in
its expansion are others (`compileExpr_relabelled`).
-/

namespace Gallery.Query

/-- The expression with other labels. Symbols are kept. -/
def Expr.relabelled (f : String → String) : Expr → Expr
  | tag label symbol => tag (f label) symbol
  | pseudo name argument => pseudo name argument
  | and left right => and (left.relabelled f) (right.relabelled f)
  | or left right => or (left.relabelled f) (right.relabelled f)
  | not operand => not (operand.relabelled f)

/-- All labels of the expression are in a set. -/
def Expr.Within (inside : String → Prop) (expr : Expr) : Prop :=
  ∀ label symbol, (label, symbol) ∈ expr.references → inside label

/-- The atom with another label. -/
def Atom.relabelled (f : String → String) : Atom → Atom
  | tag label symbol => tag (f label) symbol
  | pseudo name argument => pseudo name argument

/-- The label of the atom, when it has one, is in a set. -/
def Atom.Within (inside : String → Prop) : Atom → Prop
  | tag label _ => inside label
  | pseudo _ _ => True

/-- The same query with other labels in its expansion. -/
def Compiled.relabelled (f : String → String) (query : Compiled) : Compiled :=
  { query with expanded := query.expanded.relabelled f }

/-- No two labels in a set get the same label. -/
def Separates (f : String → String) (inside : String → Prop) : Prop :=
  ∀ a b, inside a → inside b → f a = f b → a = b

theorem Expr.relabelled_junction (f : String → String) (join : Expr → Expr → Expr)
    (junction : IsJunction join) (left right : Expr) :
    (join left right).relabelled f = join (left.relabelled f) (right.relabelled f) := by
  rcases junction with rfl | rfl <;> rfl

theorem Expr.within_junction (inside : String → Prop) (join : Expr → Expr → Expr)
    (junction : IsJunction join) (left right : Expr) :
    (join left right).Within inside ↔ left.Within inside ∧ right.Within inside := by
  simp only [Within, references_junction join junction, List.mem_append, or_imp, forall_and]

/-! Expansion. -/

/-- References to labels in a set are replaced by the same definitions under their new labels. A
definition is the same text as before: it can be read, and it has to do with labels that stay. -/
structure Carries (first second : Definitions) (f : String → String) (inside : String → Prop) :
    Prop where
  separates : Separates f inside
  same : ∀ label symbol, inside label →
    second.replacement? (f label) symbol = first.replacement? label symbol
  closed : ∀ label symbol definition, inside label →
    first.replacement? label symbol = some definition →
      ∃ body, parse definition = .ok body ∧ body.Within fun other => inside other ∧ f other = other

theorem Expr.relabelled_of_stay (f : String → String) (expr : Expr)
    (stay : expr.Within fun label => f label = label) : expr.relabelled f = expr := by
  induction expr with
  | tag label symbol => rw [relabelled, stay label symbol (List.mem_singleton.mpr rfl)]
  | pseudo name argument => rfl
  | and left right ihLeft ihRight =>
      have both := (within_junction _ .and and_isJunction left right).mp stay
      rw [relabelled, ihLeft both.1, ihRight both.2]
  | or left right ihLeft ihRight =>
      have both := (within_junction _ .or or_isJunction left right).mp stay
      rw [relabelled, ihLeft both.1, ihRight both.2]
  | not operand ih => rw [relabelled, ih stay]

namespace Carries

variable {first second : Definitions} {f : String → String} {inside : String → Prop}
  (carries : Carries first second f inside)

include carries

theorem mem_path_iff (path : List String) (label : String) (known : inside label)
    (outer : ∀ other ∈ path, inside other) : f label ∈ path.map f ↔ label ∈ path := by
  constructor
  · intro member
    rcases List.mem_map.mp member with ⟨other, onPath, same⟩
    rwa [carries.separates label other known (outer other onPath) same.symm]
  · exact List.mem_map_of_mem

-- Only inside a definition can a tag be met again, and there the labels stay, so that a cycle is
-- blamed on the same label.
theorem tag_relabelled (budget room visited : Nat) (path : List String) (label : String)
    (symbol : Option Char) (known : inside label) (stay : path = [] ∨ f label = label)
    (outer : ∀ other ∈ path, inside other) (unspent : ¬budget ≤ visited)
    (bodies : ∀ body : Expr, body.Within inside → body.Within (fun label => f label = label) →
      expandWithin second budget room (f label :: path.map f) (visited + 1) body =
        (expandWithin first budget room (label :: path) (visited + 1) body).map
          fun result => (result.1.relabelled f, result.2)) :
    expandWithin second budget (room + 1) (path.map f) visited (.tag (f label) symbol) =
      (expandWithin first budget (room + 1) path visited (.tag label symbol)).map
        fun result => (result.1.relabelled f, result.2) := by
  have onPath := carries.mem_path_iff path label known outer
  rw [expandWithin, expandWithin, if_neg unspent, if_neg unspent]
  simp only [carries.same label symbol known]
  cases replaced : first.replacement? label symbol with
  | none => rfl
  | some definition =>
      by_cases circular : label ∈ path
      · have kept : f label = label := by
          rcases stay with rfl | kept
          · cases circular
          · exact kept
        rw [kept] at onPath ⊢
        simp only [if_pos circular, if_pos (onPath.mpr circular)]
        rfl
      · rcases carries.closed label symbol definition known replaced with ⟨body, parsed, closed⟩
        simp only [if_neg circular, if_neg (mt onPath.mp circular), parsed]
        exact bodies body (fun other given member => (closed other given member).1)
          fun other given member => (closed other given member).2

-- The induction is on the depth that is left.
theorem expandWithin_relabelled (budget room visited : Nat) (path : List String) (expr : Expr)
    (within : expr.Within inside) (stay : path = [] ∨ expr.Within fun label => f label = label)
    (outer : ∀ other ∈ path, inside other) :
    expandWithin second budget room (path.map f) visited (expr.relabelled f) =
      (expandWithin first budget room path visited expr).map
        fun result => (result.1.relabelled f, result.2) := by
  induction room generalizing visited path expr with
  | zero => rfl
  | succ room ih =>
      by_cases spent : budget ≤ visited
      · rw [expandWithin_spent second budget _ _ _ _ spent,
          expandWithin_spent first budget _ _ _ _ spent]
        rfl
      · have joined (join : Expr → Expr → Expr) (junction : IsJunction join) (left right : Expr)
            (within : (join left right).Within inside)
            (stay : path = [] ∨ (join left right).Within fun label => f label = label) :
            expandWithin second budget (room + 1) (path.map f) visited
                ((join left right).relabelled f) =
              (expandWithin first budget (room + 1) path visited (join left right)).map
                fun result => (result.1.relabelled f, result.2) := by
          simp only [Expr.within_junction _ join junction] at within stay
          rw [Expr.relabelled_junction f join junction,
            expandWithin_junction second budget room _ visited join _ _ junction spent,
            expandWithin_junction first budget room path visited join left right junction spent,
            ih (visited + 1) path left within.1 (stay.imp_right And.left) outer]
          cases expandWithin first budget room path (visited + 1) left with
          | error error => rfl
          | ok middle =>
              simp only [bind, Except.bind, Except.map]
              rw [ih middle.2 path right within.2 (stay.imp_right And.right) outer]
              cases expandWithin first budget room path middle.2 right with
              | error error => rfl
              | ok last =>
                  simp only [Except.map, pure, Except.pure,
                    Expr.relabelled_junction f join junction]
        cases expr with
        | tag label symbol =>
            have known := within label symbol (List.mem_singleton.mpr rfl)
            apply carries.tag_relabelled budget room visited path label symbol known
              (stay.imp_right fun stay => stay label symbol (List.mem_singleton.mpr rfl)) outer
              spent
            intro body inner kept
            have read := ih (visited + 1) (label :: path) body inner (.inr kept)
              (List.forall_mem_cons.mpr ⟨known, outer⟩)
            rwa [body.relabelled_of_stay f kept, List.map_cons] at read
        | pseudo name argument =>
            rw [Expr.relabelled, expandWithin, expandWithin, if_neg spent]
            rfl
        | and left right => exact joined .and and_isJunction left right within stay
        | or left right => exact joined .or or_isJunction left right within stay
        | not operand =>
            rw [Expr.relabelled, expandWithin, expandWithin, if_neg spent, if_neg spent,
              ih (visited + 1) path operand within stay outer]
            cases expandWithin first budget room path (visited + 1) operand <;> rfl

theorem expand_relabelled (budget : Nat) (expr : Expr) (within : expr.Within inside) :
    expand second budget (expr.relabelled f) =
      (expand first budget expr).map (Expr.relabelled f) := by
  have run := carries.expandWithin_relabelled budget budget 0 [] expr within (.inl rfl) (by simp)
  rw [List.map_nil] at run
  rw [expand, expand, run]
  cases expandWithin first budget budget [] 0 expr <;> rfl

theorem within_of_expands (expr result : Expr) (expands : Expands first expr result)
    (within : expr.Within inside) : result.Within inside := by
  induction expands with
  | kept label symbol undefined_ => exact within
  | replaced label symbol definition body result defined parsed _ ih =>
      have known := within label symbol (List.mem_singleton.mpr rfl)
      rcases carries.closed label symbol definition known defined with ⟨other, same, closed⟩
      rw [parsed, Except.ok.injEq] at same
      subst same
      exact ih fun other given member => (closed other given member).1
  | pseudo name argument => exact within
  | and left right first second _ _ ihLeft ihRight =>
      rw [Expr.within_junction _ _ and_isJunction] at within ⊢
      exact ⟨ihLeft within.1, ihRight within.2⟩
  | or left right first second _ _ ihLeft ihRight =>
      rw [Expr.within_junction _ _ or_isJunction] at within ⊢
      exact ⟨ihLeft within.1, ihRight within.2⟩
  | not operand result _ ih => exact ih within

end Carries

/-! Contradictions. -/

theorem Expr.relabelled_eq_renamed (f : String → String) (expr : Expr) :
    expr.relabelled f = expr.renamed (Atom.relabelled f) := by
  induction expr with
  | tag label symbol => rfl
  | pseudo name argument => rfl
  | and left right ihLeft ihRight => rw [relabelled, renamed, ihLeft, ihRight]
  | or left right ihLeft ihRight => rw [relabelled, renamed, ihLeft, ihRight]
  | not operand ih => rw [relabelled, renamed, ih]

theorem Expr.mem_references_of_leaf (expr : Expr) (label : String) (symbol : Option Char)
    (leaf : Atom.tag label symbol ∈ expr.leaves) : (label, symbol) ∈ expr.references := by
  induction expr with
  | tag other otherSymbol =>
      cases List.mem_singleton.mp leaf
      exact List.mem_singleton.mpr rfl
  | pseudo name argument => cases List.mem_singleton.mp leaf
  | and left right ihLeft ihRight | or left right ihLeft ihRight =>
      apply List.mem_append.mpr
      exact (List.mem_append.mp leaf).imp ihLeft ihRight
  | not operand ih => exact ih leaf

theorem Expr.leaves_within (inside : String → Prop) (expr : Expr) (within : expr.Within inside)
    (atom : Atom) (leaf : atom ∈ expr.leaves) : atom.Within inside := by
  cases atom with
  | tag label symbol => exact within label symbol (expr.mem_references_of_leaf label symbol leaf)
  | pseudo name argument => trivial

section Contradictions

variable (f : String → String) (inside : String → Prop) (separates : Separates f inside)

include separates

theorem atom_of_relabelled (a b : Atom) (first : a.Within inside) (second : b.Within inside)
    (same : a.relabelled f = b.relabelled f) : a = b := by
  cases a with
  | tag label symbol =>
      cases b with
      | tag other otherSymbol =>
          rcases Atom.tag.inj same with ⟨labels, symbols⟩
          rw [separates label other first second labels, symbols]
      | pseudo name argument => cases same
  | pseudo name argument =>
      cases b with
      | tag other otherSymbol => cases same
      | pseudo otherName otherArgument => exact same

theorem isUnsatisfiable_relabelled (expr : Expr) (within : expr.Within inside) :
    isUnsatisfiable (expr.relabelled f) = isUnsatisfiable expr := by
  rw [Expr.relabelled_eq_renamed, isUnsatisfiable_eq_outcome, outcome_renamed,
    ← isUnsatisfiable_eq_outcome]
  intro a first b second same
  exact atom_of_relabelled f inside separates a b (Expr.leaves_within inside expr within a first)
    (Expr.leaves_within inside expr within b second) same

end Contradictions

/-! Pseudo-tags and conditions. -/

theorem validate_relabelled (f : String → String) (registry : Registry) (expr : Expr) :
    registry.validate (expr.relabelled f) = registry.validate expr := by
  induction expr with
  | tag label symbol => rfl
  | pseudo name argument => rfl
  | and left right ihLeft ihRight | or left right ihLeft ihRight =>
      rw [Expr.relabelled, Registry.validate, Registry.validate, ihLeft, ihRight]
  | not operand ih => exact ih

theorem ofExpr_relabelled (f : String → String) (first second : TagLookup) (registry : Registry)
    (caseDefault : Bool) (inside : String → Prop) (expr : Expr) (within : expr.Within inside)
    (same : ∀ label symbol, inside label → Condition.ofReference second (f label) symbol =
      Condition.ofReference first label symbol) :
    Condition.ofExpr second registry caseDefault (expr.relabelled f) =
      Condition.ofExpr first registry caseDefault expr := by
  induction expr with
  | tag label symbol =>
      rw [Expr.relabelled, Condition.ofExpr, Condition.ofExpr,
        same label symbol (within label symbol (List.mem_singleton.mpr rfl))]
  | pseudo name argument =>
      unfold Expr.relabelled Condition.ofExpr
      rfl
  | and left right ihLeft ihRight =>
      rw [Expr.within_junction _ _ and_isJunction] at within
      rw [Expr.relabelled, Condition.ofExpr, Condition.ofExpr, ihLeft within.1, ihRight within.2]
  | or left right ihLeft ihRight =>
      rw [Expr.within_junction _ _ or_isJunction] at within
      rw [Expr.relabelled, Condition.ofExpr, Condition.ofExpr, ihLeft within.1, ihRight within.2]
  | not operand ih => rw [Expr.relabelled, Condition.ofExpr, Condition.ofExpr, ih within]

/-- Compiling the query under the new labels gives what compiling it under the old ones gives. -/
theorem compileExpr_relabelled (f : String → String) (inside : String → Prop)
    (first second : Catalogue) (registry : Registry) (settings : CompilerSettings) (expr : Expr)
    (carries : Carries first.definitions second.definitions f inside)
    (within : expr.Within inside)
    (same : ∀ label symbol, inside label → Condition.ofReference second.lookup (f label) symbol =
      Condition.ofReference first.lookup label symbol) :
    compileExpr (expr.relabelled f) second registry settings =
      (compileExpr expr first registry settings).map (Compiled.relabelled f) := by
  rw [compileExpr, compileExpr, carries.expand_relabelled settings.maxNodes expr within]
  cases expanded : expand first.definitions settings.maxNodes expr with
  | error error => rfl
  | ok result =>
      have inner := carries.within_of_expands expr result
        (expand_expands first.definitions settings.maxNodes expr result expanded) within
      simp only [bind, Except.bind, Except.map, validate_relabelled,
        isUnsatisfiable_relabelled f inside carries.separates result inner,
        ofExpr_relabelled f first.lookup second.lookup registry settings.caseSensitive inside result
          inner same]
      cases registry.validate result with
      | error error => rfl
      | ok valid =>
          cases isUnsatisfiable result with
          | true => rfl
          | false =>
              cases Condition.ofExpr first.lookup registry settings.caseSensitive result <;> rfl

end Gallery.Query
