import Gallery.Proofs.Query.Budget
import Gallery.Proofs.Query.Footprint

/-!
What the compilation of a query depends on: the definitions of the references that the expansion
meets, and what the references that it leaves stand for. Two catalogues that agree on these give the
same result, whatever else they hold (`compile_reads_met`).
-/

namespace Gallery.Query

/-- Definitions that agree on a set of references, which holds with a reference also those in the
definition that replaces it. -/
structure AgreesOn (first second : Definitions) (inside : String → Option Char → Prop) : Prop where
  same : ∀ label symbol, inside label symbol →
    second.replacement? label symbol = first.replacement? label symbol
  closed : ∀ label symbol definition body, inside label symbol →
    first.replacement? label symbol = some definition → parse definition = .ok body →
      ∀ other otherSymbol, (other, otherSymbol) ∈ body.references → inside other otherSymbol

namespace AgreesOn

variable {first second : Definitions} {inside : String → Option Char → Prop}
  (agrees : AgreesOn first second inside)

include agrees

theorem expandWithin_congr (budget room visited : Nat) (path other : List String) (expr : Expr)
    (within : ∀ label symbol, (label, symbol) ∈ expr.references → inside label symbol)
    (paths : ∀ label symbol, inside label symbol → first.replacement? label symbol ≠ none →
      (label ∈ path ↔ label ∈ other)) :
    expandWithin second budget room other visited expr =
      expandWithin first budget room path visited expr := by
  have known := metWithin_inside first inside agrees.closed budget room visited path expr within
  apply expandWithin_alike
  · intro label symbol member
    exact agrees.same label symbol (known label symbol member)
  · intro label symbol member
    exact paths label symbol (known label symbol member)

/-- Two tags under different labels are replaced alike when they have the same definition, unless
one of the labels matters to the references that the definition leads to. -/
theorem expand_compound (budget : Nat) (label other definition : String) (body : Expr)
    (defined : first.replacement? label none = some definition)
    (definedToo : second.replacement? other none = some definition)
    (parsed : parse definition = .ok body)
    (within : ∀ inner symbol, (inner, symbol) ∈ body.references → inside inner symbol)
    (paths : ∀ inner symbol, inside inner symbol → first.replacement? inner symbol ≠ none →
      (inner = label ↔ inner = other)) :
    expand second budget (.tag other none) = expand first budget (.tag label none) := by
  cases budget with
  | zero => rfl
  | succ budget =>
      have body_congr := agrees.expandWithin_congr (budget + 1) budget 1 [label] [other] body within
        (by simpa using paths)
      rw [expand, expand, expandWithin, expandWithin, if_neg (by omega), if_neg (by omega)]
      simp only [defined, definedToo, parsed, List.not_mem_nil, if_false, Nat.zero_add, body_congr]

theorem references_of_expands (expr result : Expr) (expands : Expands first expr result)
    (within : ∀ label symbol, (label, symbol) ∈ expr.references → inside label symbol) :
    ∀ label symbol, (label, symbol) ∈ result.references → inside label symbol := by
  induction expands with
  | kept label symbol undefined_ => exact within
  | replaced label symbol definition body result defined parsed _ ih =>
      have met := within label symbol (List.mem_singleton.mpr rfl)
      exact ih (agrees.closed label symbol definition body met defined parsed)
  | pseudo name argument => exact within
  | and left right first second _ _ ihLeft ihRight
  | or left right first second _ _ ihLeft ihRight =>
      intro label symbol member
      rcases List.mem_append.mp member with inLeft | inRight
      · exact ihLeft (fun label symbol member => within label symbol
          (List.mem_append_left _ member)) label symbol inLeft
      · exact ihRight (fun label symbol member => within label symbol
          (List.mem_append_right _ member)) label symbol inRight
  | not operand result _ ih => exact ih within

theorem references_of_compound (label definition : String) (body result : Expr)
    (defined : first.replacement? label none = some definition)
    (parsed : parse definition = .ok body)
    (within : ∀ inner symbol, (inner, symbol) ∈ body.references → inside inner symbol)
    (expands : Expands first (.tag label none) result) :
    ∀ inner symbol, (inner, symbol) ∈ result.references → inside inner symbol := by
  cases expands with
  | kept _ _ kept => simp [defined] at kept
  | replaced _ _ other otherBody _ otherDefined otherParsed expandsBody =>
      rw [defined, Option.some.injEq] at otherDefined
      subst otherDefined
      rw [parsed, Except.ok.injEq] at otherParsed
      subst otherParsed
      exact agrees.references_of_expands body result expandsBody within

end AgreesOn

theorem ofExpr_congr (first second : TagLookup) (registry : Registry) (caseDefault : Bool)
    (expr : Expr) (same : ∀ label symbol, (label, symbol) ∈ expr.references →
      Condition.ofReference second label symbol = Condition.ofReference first label symbol) :
    Condition.ofExpr second registry caseDefault expr =
      Condition.ofExpr first registry caseDefault expr := by
  induction expr with
  | tag label symbol =>
      rw [Condition.ofExpr, Condition.ofExpr, same label symbol (List.mem_singleton.mpr rfl)]
  | pseudo name argument =>
      unfold Condition.ofExpr
      rfl
  | and left right ihLeft ihRight | or left right ihLeft ihRight =>
      rw [Condition.ofExpr, Condition.ofExpr,
        ihLeft fun label symbol member => same label symbol (List.mem_append_left _ member),
        ihRight fun label symbol member => same label symbol (List.mem_append_right _ member)]
  | not operand ih => rw [Condition.ofExpr, Condition.ofExpr, ih same]

theorem compileExpr_congr (expr other : Expr) (first second : Catalogue) (registry : Registry)
    (settings : CompilerSettings)
    (expansion : expand second.definitions settings.maxNodes other =
      expand first.definitions settings.maxNodes expr)
    (same : ∀ result, expand first.definitions settings.maxNodes expr = .ok result →
      ∀ label symbol, (label, symbol) ∈ result.references →
        Condition.ofReference second.lookup label symbol =
          Condition.ofReference first.lookup label symbol) :
    compileExpr other second registry settings = compileExpr expr first registry settings := by
  rw [compileExpr, compileExpr, expansion]
  cases expanded : expand first.definitions settings.maxNodes expr with
  | error error => rfl
  | ok result =>
      simp only [bind, Except.bind]
      rw [ofExpr_congr first.lookup second.lookup registry settings.caseSensitive result
        (same result expanded)]

/-- What two catalogues know about a reference is the same: the entry of the label, or its absence,
and the identity of the tag type with the symbol, or its absence. -/
structure SameEntry (first second : Catalogue) (label : String) (symbol : Option Char) : Prop where
  tag : second.tag? label = first.tag? label
  tagType : ∀ c, symbol = some c → (second.tagType? c).map (·.id) = (first.tagType? c).map (·.id)

-- Of a tag type only the identity counts.
theorem hasType_by_id (catalogue : Catalogue) (label : String) (c : Char) :
    catalogue.hasType label c = (catalogue.tag? label).any fun tag =>
      ((catalogue.tagType? c).map (·.id)).any fun id => tag.typeId == some id := by
  rw [Catalogue.hasType]
  cases catalogue.tag? label with
  | none => rfl
  | some tag => cases catalogue.tagType? c <;> rfl

namespace SameEntry

variable {first second : Catalogue} {label : String} {symbol : Option Char}
  (entry : SameEntry first second label symbol)

include entry

theorem hasType_eq (c : Char) (given : symbol = some c) :
    second.hasType label c = first.hasType label c := by
  rw [hasType_by_id, hasType_by_id, entry.tag, entry.tagType c given]

theorem replacement_eq :
    second.definitions.replacement? label symbol = first.definitions.replacement? label symbol := by
  have typed : symbol.all (second.definitions.hasType label) =
      symbol.all (first.definitions.hasType label) := by
    cases symbol with
    | none => rfl
    | some c => exact entry.hasType_eq c rfl
  have defined : second.definitions.definition? label = first.definitions.definition? label := by
    simp only [Catalogue.definitions, Catalogue.definition?, entry.tag]
  rw [Definitions.replacement?, Definitions.replacement?, typed, defined]

theorem reference_eq : Condition.ofReference second.lookup label symbol =
    Condition.ofReference first.lookup label symbol := by
  simp only [Condition.ofReference, Catalogue.lookup, entry.tag]
  cases symbol with
  | none => rfl
  | some c => simp only [entry.tagType c rfl]

end SameEntry

/-- `Reached definitions expr label symbol`: the expression refers to the label with the symbol, or
the definition does that replaces a reference which is reached. -/
inductive Reached (definitions : Definitions) (expr : Expr) : String → Option Char → Prop where
  | mentioned (label : String) (symbol : Option Char)
      (member : (label, symbol) ∈ expr.references) : Reached definitions expr label symbol
  | inside (label other : String) (symbol otherSymbol : Option Char) (definition : String)
      (body : Expr) (reached : Reached definitions expr label symbol)
      (defined : definitions.replacement? label symbol = some definition)
      (parsed : parse definition = .ok body)
      (member : (other, otherSymbol) ∈ body.references) : Reached definitions expr other otherSymbol

theorem reached_of_met (definitions : Definitions) (budget : Nat) (expr : Expr) (label : String)
    (symbol : Option Char) (member : (label, symbol) ∈ met definitions budget expr) :
    Reached definitions expr label symbol := by
  apply metWithin_inside definitions (Reached definitions expr) _ budget budget 0 [] expr _ label
    symbol member
  · intro label symbol definition body reached defined parsed other otherSymbol member
    exact .inside label other symbol otherSymbol definition body reached defined parsed member
  · exact .mentioned

theorem expand_congr (first second : Definitions) (budget : Nat) (expr : Expr)
    (same : ∀ label symbol, (label, symbol) ∈ met first budget expr →
      second.replacement? label symbol = first.replacement? label symbol) :
    expand second budget expr = expand first budget expr := by
  rw [expand, expand,
    expandWithin_alike first second budget budget 0 [] [] expr same fun _ _ _ _ => Iff.rfl]

theorem references_of_expand (definitions : Definitions) (budget : Nat) (expr result : Expr)
    (expanded : expand definitions budget expr = .ok result) (reference : String × Option Char)
    (member : reference ∈ result.references) : reference ∈ met definitions budget expr := by
  rw [expand] at expanded
  cases run : expandWithin definitions budget budget [] 0 expr with
  | error error =>
      rw [run] at expanded
      cases expanded
  | ok last =>
      obtain ⟨other, after⟩ := last
      rw [run] at expanded
      cases expanded
      exact references_met definitions budget budget 0 [] expr other after run reference member

/-- A catalogue is looked at only where the expansion of the query meets a reference: two catalogues
with the same entries there give the same result or the same error. What is met is mentioned in the
query or in the definitions that replace references of it. -/
theorem compile_reads_met (text : String) (first second : Catalogue) (registry : Registry)
    (settings : CompilerSettings)
    (entries : ∀ expr label symbol, parse text = .ok expr →
      (label, symbol) ∈ met first.definitions settings.maxNodes expr →
        SameEntry first second label symbol) :
    compile text second registry settings = compile text first registry settings ∧
      ∀ expr label symbol, parse text = .ok expr →
        (label, symbol) ∈ met first.definitions settings.maxNodes expr →
          Reached first.definitions expr label symbol := by
  constructor
  · rw [compile, compile]
    cases parsed : parse text with
    | error error => rfl
    | ok expr =>
        have known := fun label symbol => entries expr label symbol parsed
        apply compileExpr_congr
        · apply expand_congr
          intro label symbol member
          exact (known label symbol member).replacement_eq
        · intro result expanded label symbol member
          exact (known label symbol (references_of_expand first.definitions settings.maxNodes expr
            result expanded _ member)).reference_eq
  · intro expr label symbol _ member
    exact reached_of_met first.definitions settings.maxNodes expr label symbol member

/-- The fleet with a boat, whose definition cannot be read. The tag type of vehicles has another
label and another color, and trucks come before cars. -/
def boatFleet : Catalogue :=
  ⟨[⟨2, "water", '~', 0⟩, ⟨1, "road", '%', 255⟩], [⟨9, "boat", some 2, some "((("⟩,
    ⟨2, "truck", none, none⟩, ⟨1, "car", none, none⟩, ⟨3, "vehicle", some 1, some "car OR truck"⟩,
    ⟨4, "parked", none, some "%vehicle AND NOT moving"⟩]⟩

theorem compile_reads_met_fleet :
    (∀ expr label symbol, parse "parked OR @vehicle" = .ok expr →
      (label, symbol) ∈ met fleet.definitions 1000 expr →
        SameEntry fleet boatFleet label symbol) ∧
    compile "parked OR @vehicle" boatFleet .standard {} =
      compile "parked OR @vehicle" fleet .standard {} := by
  have parsed : parse "parked OR @vehicle" =
      .ok (.or (.tag "parked" none) (.tag "vehicle" (some '@'))) := by
    decide +kernel
  -- Six references are met, and the boat is none of them.
  have same : ∀ reference ∈ met fleet.definitions 1000
      (.or (.tag "parked" none) (.tag "vehicle" (some '@'))),
        boatFleet.tag? reference.1 = fleet.tag? reference.1 ∧
          reference.2.map (fun c => (boatFleet.tagType? c).map (·.id)) =
            reference.2.map (fun c => (fleet.tagType? c).map (·.id)) := by
    decide +kernel
  have entries (expr : Expr) (label : String) (symbol : Option Char)
      (read : parse "parked OR @vehicle" = .ok expr)
      (member : (label, symbol) ∈ met fleet.definitions 1000 expr) :
      SameEntry fleet boatFleet label symbol := by
    rw [parsed] at read
    cases read
    refine ⟨(same _ member).1, ?_⟩
    rintro c rfl
    exact Option.some.inj (same _ member).2
  exact ⟨entries, (compile_reads_met "parked OR @vehicle" fleet boatFleet .standard {} entries).1⟩

end Gallery.Query
