import Mathlib.Logic.Relation
import Gallery.Proofs.Query.Budget

/-!
Which expansions succeed. Definitions refer to the tags of the references that they expand; an
expansion succeeds with a large enough budget exactly when every definition that it reaches can be
read and leads back to none of its own references (`expand_ok_iff_acyclic`). The path of a walk is
what ties the two together: a label that is reached inside its own definition is on the path.
-/

namespace Gallery.Query

section Graph

variable (definitions : Definitions)

/-- The expression has a reference to the tag that its definition replaces. -/
def Uses (expr : Expr) (label : String) : Prop :=
  ∃ symbol, (label, symbol) ∈ expr.references ∧ definitions.Expandable label symbol

/-- The definition of `label` can be read as `body`. -/
def ReadsAs (label : String) (body : Expr) : Prop :=
  ∃ definition, definitions.definition? label = some definition ∧ parse definition = .ok body

/-- The definition of one tag uses the other. -/
def Refers (label used : String) : Prop :=
  ∃ body, ReadsAs definitions label body ∧ Uses definitions body used

/-- The tag is used by the expression, or by a definition that is reached from it. -/
def Reaches (expr : Expr) (label : String) : Prop :=
  ∃ first, Uses definitions expr first ∧ Relation.ReflTransGen (Refers definitions) first label

/-- The definition of the tag leads back to the tag. -/
def Circular (label : String) : Prop :=
  Relation.TransGen (Refers definitions) label label

end Graph

theorem readsAs_unique (definitions : Definitions) (label : String) (a b : Expr)
    (first : ReadsAs definitions label a) (second : ReadsAs definitions label b) : a = b := by
  obtain ⟨definition, defined, parsed⟩ := first
  obtain ⟨other, defined', parsed'⟩ := second
  rw [defined] at defined'
  cases defined'
  rw [parsed] at parsed'
  cases parsed'
  rfl

theorem uses_junction (definitions : Definitions) (join : Expr → Expr → Expr) (left right : Expr)
    (junction : IsJunction join) (label : String) :
    Uses definitions (join left right) label ↔
      Uses definitions left label ∨ Uses definitions right label := by
  rcases junction with rfl | rfl
  · simp only [Uses, Expr.references, List.mem_append, or_and_right, exists_or]
  · simp only [Uses, Expr.references, List.mem_append, or_and_right, exists_or]

theorem uses_tag (definitions : Definitions) (label used : String) (symbol : Option Char) :
    Uses definitions (.tag label symbol) used ↔
      used = label ∧ definitions.Expandable label symbol := by
  simp only [Uses, Expr.references, List.mem_singleton, Prod.mk.injEq]
  constructor
  · rintro ⟨_, ⟨rfl, rfl⟩, expandable⟩
    exact ⟨rfl, expandable⟩
  · rintro ⟨rfl, expandable⟩
    exact ⟨symbol, ⟨rfl, rfl⟩, expandable⟩

theorem reaches_tag (definitions : Definitions) (label : String) (symbol : Option Char)
    (definition : String) (defined : definitions.replacement? label symbol = some definition) :
    Reaches definitions (.tag label symbol) label := by
  have expandable := definitions.expandable_of_replacement label symbol definition defined
  exact ⟨label, (uses_tag definitions label label symbol).mpr ⟨rfl, expandable⟩, .refl⟩

/-- What a definition reaches is reached by the references that it replaces. -/
theorem reaches_inside (definitions : Definitions) (label : String) (symbol : Option Char)
    (body : Expr) (other : String) (expandable : definitions.Expandable label symbol)
    (reads : ReadsAs definitions label body) (reaches : Reaches definitions body other) :
    Reaches definitions (.tag label symbol) other := by
  obtain ⟨first, uses, leads⟩ := reaches
  exact ⟨label, (uses_tag definitions label label symbol).mpr ⟨rfl, expandable⟩,
    .head ⟨body, reads, uses⟩ leads⟩

/-- A tag that its own definition reaches is on a cycle. -/
theorem circular_iff (definitions : Definitions) (label : String) :
    Circular definitions label ↔
      ∃ body, ReadsAs definitions label body ∧ Reaches definitions body label := by
  rw [Circular, Relation.TransGen.head'_iff]
  constructor
  · rintro ⟨first, ⟨body, reads, uses⟩, leads⟩
    exact ⟨body, reads, first, uses, leads⟩
  · rintro ⟨body, reads, first, uses, leads⟩
    exact ⟨first, ⟨body, reads, uses⟩, leads⟩

theorem reaches_junction (definitions : Definitions) (join : Expr → Expr → Expr)
    (left right : Expr) (junction : IsJunction join) (label : String) :
    Reaches definitions (join left right) label ↔
      Reaches definitions left label ∨ Reaches definitions right label := by
  simp only [Reaches, uses_junction definitions join left right junction, or_and_right, exists_or]

/-! Walks that end in an error. -/

/-- The error names a tag that was met inside its own definition, or one whose definition cannot be
read. -/
def Blames (definitions : Definitions) (path : List String) (label : String) (error : QueryError) :
    Prop :=
  error = .cycle label ∧ (label ∈ path ∨ Circular definitions label) ∨
    ∃ definition fault, error = .unreadableDefinition label fault ∧
      definitions.definition? label = some definition ∧ parse definition = .error fault

/-- A walk that fails blames a tag that it has reached. -/
theorem blamed_of_walks (definitions : Definitions) (path : List String) (expr : Expr)
    (visits : Nat) (error : QueryError)
    (walks : Walks definitions path expr visits (.error error)) :
    ∃ label, Reaches definitions expr label ∧ Blames definitions path label error := by
  generalize same : Except.error error = outcome at walks
  induction walks with
  | kept | pseudo => cases same
  | circular path label symbol definition defined inside =>
      cases same
      exact ⟨label, reaches_tag definitions label symbol definition defined,
        .inl ⟨rfl, .inl inside⟩⟩
  | unreadable path label symbol definition fault defined outside failed =>
      cases same
      have known := definitions.definition_of_replacement label symbol definition defined
      exact ⟨label, reaches_tag definitions label symbol definition defined,
        .inr ⟨definition, fault, rfl, known, failed⟩⟩
  | replaced path label symbol definition body visits outcome defined outside parsed walks ih =>
      have expandable := definitions.expandable_of_replacement label symbol definition defined
      have known := definitions.definition_of_replacement label symbol definition defined
      have reads : ReadsAs definitions label body := ⟨definition, known, parsed⟩
      obtain ⟨blamed, reaches, reason⟩ := ih same
      refine ⟨blamed, reaches_inside definitions label symbol body blamed expandable reads reaches,
        ?_⟩
      rcases reason with ⟨rfl, inside | circular⟩ | unread
      · rcases List.mem_cons.mp inside with rfl | inside
        · -- The cycle closes here: the tag was met inside this very definition.
          exact .inl ⟨rfl, .inr ((circular_iff definitions blamed).mpr ⟨body, reads, reaches⟩)⟩
        · exact .inl ⟨rfl, .inl inside⟩
      · exact .inl ⟨rfl, .inr circular⟩
      · exact .inr unread
  | stopped path join left right visits other junction stops ih =>
      obtain ⟨blamed, reaches, reason⟩ := ih same
      exact ⟨blamed, (reaches_junction definitions join left right junction blamed).mpr
        (.inl reaches), reason⟩
  | joined path join left right first inLeft inRight outcome junction walksLeft walksRight _ ih =>
      cases outcome with
      | ok second => cases same
      | error other =>
          obtain ⟨blamed, reaches, reason⟩ := ih same
          exact ⟨blamed, (reaches_junction definitions join left right junction blamed).mpr
            (.inr reaches), reason⟩
  | not path operand visits outcome walks ih =>
      cases outcome with
      | ok inner => cases same
      | error other => exact ih same

theorem blamed_of_expand (definitions : Definitions) (budget : Nat) (expr : Expr)
    (error : QueryError) (failed : expand definitions budget expr = .error error)
    (large : error ≠ .tooLarge budget) :
    ∃ label, Reaches definitions expr label ∧ Blames definitions [] label error := by
  obtain spent | ⟨visits, walks⟩ := expand_cases definitions budget expr
  · rw [spent] at failed
    cases failed
    exact absurd rfl large
  · rw [failed] at walks
    exact blamed_of_walks definitions [] expr visits error walks

/-- A cycle that is reported is one. -/
theorem circular_of_expand (definitions : Definitions) (budget : Nat) (expr : Expr)
    (label : String) (failed : expand definitions budget expr = .error (.cycle label)) :
    Reaches definitions expr label ∧ Circular definitions label := by
  obtain ⟨other, reaches, ⟨same, inside | circular⟩ | ⟨_, _, same, _⟩⟩ :=
    blamed_of_expand definitions budget expr _ failed (by simp)
  · cases inside
  · cases same
    exact ⟨reaches, circular⟩
  · cases same

theorem unsound_of_blamed (definitions : Definitions) (label : String) (error : QueryError)
    (blamed : Blames definitions [] label error) :
    ¬((∃ body, ReadsAs definitions label body) ∧ ¬Circular definitions label) := by
  rintro ⟨⟨body, definition, defined, parsed⟩, acyclic⟩
  rcases blamed with ⟨_, inside | circular⟩ | ⟨definition', fault, _, defined', failed⟩
  · cases inside
  · exact acyclic circular
  · rw [defined] at defined'
    cases defined'
    rw [parsed] at failed
    cases failed

/-! Walks that succeed. -/

/-- Where a walk succeeds, so does the walk of every definition that the expression uses. -/
theorem walks_used (definitions : Definitions) (path : List String) (expr result : Expr)
    (visits : Nat) (walks : Walks definitions path expr visits (.ok result)) (label : String)
    (uses : Uses definitions expr label) :
    label ∉ path ∧ ∃ body count inner, ReadsAs definitions label body ∧
      Walks definitions (label :: path) body count (.ok inner) := by
  induction walks using Walks.ok_induction with
  | kept path other symbol undefined_ =>
      obtain ⟨rfl, expandable⟩ := (uses_tag definitions other label symbol).mp uses
      obtain ⟨definition, defined⟩ := (definitions.expandable_iff label symbol).mp expandable
      rw [undefined_] at defined
      cases defined
  | replaced path other symbol definition body visits result defined outside parsed walks _ =>
      obtain ⟨rfl, _⟩ := (uses_tag definitions other label symbol).mp uses
      have known := definitions.definition_of_replacement label symbol definition defined
      exact ⟨outside, body, visits, result, ⟨definition, known, parsed⟩, walks⟩
  | pseudo path name argument => simp [Uses, Expr.references] at uses
  | joined path join left right first second inLeft inRight junction walksLeft walksRight ihLeft
      ihRight =>
      rcases (uses_junction definitions join left right junction label).mp uses with uses | uses
      · exact ihLeft uses
      · exact ihRight uses
  | not path operand visits inner walks ih => exact ih uses

/-- A tag that is reached is not on the path, neither at first nor after further definitions have
been entered. -/
theorem walks_reached (definitions : Definitions) (path : List String) (expr result : Expr)
    (visits : Nat) (walks : Walks definitions path expr visits (.ok result)) (label : String)
    (reaches : Reaches definitions expr label) :
    ∃ deeper body count inner, path ⊆ deeper ∧ label ∉ deeper ∧ ReadsAs definitions label body ∧
      Walks definitions (label :: deeper) body count (.ok inner) := by
  obtain ⟨first, uses, leads⟩ := reaches
  -- Every reference on the way is met inside the walk of the definition before it.
  induction leads with
  | refl =>
      obtain ⟨outside, body, count, inner, reads, walks⟩ :=
        walks_used definitions path expr result visits walks first uses
      exact ⟨path, body, count, inner, fun _ member => member, outside, reads, walks⟩
  | @tail before last _ refers ih =>
      obtain ⟨deeper, body, count, inner, within, _, reads, walks⟩ := ih
      obtain ⟨body', reads', uses⟩ := refers
      cases readsAs_unique definitions before body body' reads reads'
      obtain ⟨outside, body, count, inner, reads, walks⟩ :=
        walks_used definitions _ body inner count walks last uses
      exact ⟨before :: deeper, body, count, inner,
        fun _ member => List.mem_cons_of_mem before (within member), outside, reads, walks⟩

theorem not_circular_of_walks (definitions : Definitions) (path : List String)
    (expr result : Expr) (visits : Nat)
    (walks : Walks definitions path expr visits (.ok result)) (label : String)
    (reaches : Reaches definitions expr label) : ¬Circular definitions label := by
  intro circular
  obtain ⟨deeper, body, count, inner, _, _, reads, walks⟩ :=
    walks_reached definitions path expr result visits walks label reaches
  obtain ⟨body', reads', back⟩ := (circular_iff definitions label).mp circular
  cases readsAs_unique definitions label body body' reads reads'
  -- Inside its own definition the label is on the path, yet it is reached there once more.
  obtain ⟨_, _, _, _, within, outside, _⟩ :=
    walks_reached definitions _ body inner count walks label back
  exact outside (within List.mem_cons_self)

/-- With a large enough budget an expansion succeeds exactly when every definition that it reaches
can be read and is on no cycle. A cycle that is reported is one, through a tag that is reached, and
a definition that is reported cannot be read; a tag that is merely met several times is not
reported. -/
theorem expand_ok_iff_acyclic (definitions : Definitions) (finite : definitions.IsFinite)
    (expr : Expr) :
    (∃ enough, ∀ budget, enough ≤ budget →
      ((∃ result, expand definitions budget expr = .ok result) ↔
        ∀ label, Reaches definitions expr label →
          (∃ body, ReadsAs definitions label body) ∧ ¬Circular definitions label)) ∧
    ∀ budget label,
      (expand definitions budget expr = .error (.cycle label) →
        Reaches definitions expr label ∧ Circular definitions label) ∧
      (∀ fault, expand definitions budget expr = .error (.unreadableDefinition label fault) →
        Reaches definitions expr label ∧ ∃ definition,
          definitions.definition? label = some definition ∧ parse definition = .error fault) ∧
      (¬Circular definitions label → expand definitions budget expr ≠ .error (.cycle label)) := by
  constructor
  · obtain ⟨visits, outcome, walks⟩ := walks_of_finite definitions finite expr
    refine ⟨visits, fun budget enough => ?_⟩
    rw [expand_of_walks definitions expr visits outcome walks budget, if_pos enough]
    constructor
    · rintro ⟨result, rfl⟩ label reaches
      obtain ⟨_, body, _, _, _, _, reads, _⟩ :=
        walks_reached definitions [] expr result visits walks label reaches
      exact ⟨⟨body, reads⟩,
        not_circular_of_walks definitions [] expr result visits walks label reaches⟩
    · intro sound
      cases outcome with
      | ok result => exact ⟨result, rfl⟩
      | error error =>
          obtain ⟨label, reaches, reason⟩ :=
            blamed_of_walks definitions [] expr visits error walks
          exact absurd (sound label reaches) (unsound_of_blamed definitions label error reason)
  · intro budget label
    refine ⟨fun failed => ?_, fun fault failed => ?_, fun acyclic failed => ?_⟩
    · exact circular_of_expand definitions budget expr label failed
    · obtain ⟨other, reaches, ⟨same, _⟩ | ⟨definition, fault, same, defined, unread⟩⟩ :=
        blamed_of_expand definitions budget expr _ failed (by simp)
      · cases same
      · cases same
        exact ⟨reaches, definition, defined, unread⟩
    · exact acyclic (circular_of_expand definitions budget expr label failed).2

/-- Two tags that are defined by each other. -/
def entangled : Catalogue :=
  ⟨[], [⟨1, "a", none, some "b"⟩, ⟨2, "b", none, some "c OR a"⟩]⟩

theorem expand_ok_iff_acyclic_entangled : entangled.definitions.IsFinite ∧
    expand entangled.definitions 100 (.tag "b" none) = .error (.cycle "b") ∧
    Reaches entangled.definitions (.tag "b" none) "b" ∧ Circular entangled.definitions "b" := by
  have finite := definitions_isFinite entangled
  have failed : expand entangled.definitions 100 (.tag "b" none) = .error (.cycle "b") := by
    decide +kernel
  exact ⟨finite, failed,
    ((expand_ok_iff_acyclic entangled.definitions finite (.tag "b" none)).2 100 "b").1 failed⟩

-- A tag that two branches share is met twice, and is on no cycle.
example : expand (.untyped fun label =>
    if label = "a" then some "b c" else if label ∈ ["b", "c"] then some "d" else none) 100
      (.tag "a" none) = .ok (.and (.tag "d" none) (.tag "d" none)) := by
  decide +kernel

end Gallery.Query
