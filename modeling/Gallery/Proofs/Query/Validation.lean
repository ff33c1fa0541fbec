import Gallery.Proofs.Query.Expansion
import Mathlib.Data.List.Infix

/-!
Pseudo-tags that are not used as they must be. The check of a query and the construction of its
condition each decide which invocations are wrong, and each stops at one of them. It is the same
one, the first from left to right (`validation_decides`): a query that passes the check has a
condition, and a wrong invocation is reported whatever else the query says.
-/

namespace Gallery.Query

/-- The invocations of pseudo-tags, from left to right. -/
def Expr.invocations : Expr → List (String × Option Argument)
  | .tag _ _ => []
  | .pseudo name argument => [(name, argument)]
  | .and left right | .or left right => left.invocations ++ right.invocations
  | .not operand => operand.invocations

namespace Registry

variable (registry : Registry)

/-- There is no pseudo-tag with the name, or it is a flag and gets an argument, or it is a pattern
and gets none. -/
def Misuses (name : String) (argument : Option Argument) : Prop :=
  registry.find? name = none ∨ ∃ tag, registry.find? name = some tag ∧
    (tag.kind = .flag ∧ argument ≠ none ∨ tag.kind = .pattern ∧ argument = none)

/-- The first wrong invocation of the expression has the name. -/
def FirstMisused (expr : Expr) (name : String) : Prop :=
  ∃ before argument after, expr.invocations = before ++ (name, argument) :: after ∧
    registry.Misuses name argument ∧ ∀ other ∈ before, ¬registry.Misuses other.1 other.2

theorem misuses_iff (name : String) (argument : Option Argument) :
    registry.Misuses name argument ↔ registry.admits name argument = false := by
  unfold admits Misuses
  cases found : registry.find? name with
  | none => simp
  | some tag =>
      obtain ⟨kind, template⟩ := tag
      cases kind <;> cases argument <;> simp

def firstWrong? (invocations : List (String × Option Argument)) :
    Option (String × Option Argument) :=
  invocations.find? fun invocation => !registry.admits invocation.1 invocation.2

theorem firstMisused_iff (expr : Expr) (name : String) :
    registry.FirstMisused expr name ↔
      ∃ argument, registry.firstWrong? expr.invocations = some (name, argument) := by
  simp only [FirstMisused, firstWrong?, List.find?_eq_some_iff_append, misuses_iff,
    Bool.not_eq_true', Bool.not_not, Bool.not_eq_false]
  constructor
  · rintro ⟨before, argument, after, split, misused, others⟩
    exact ⟨argument, misused, before, after, split, others⟩
  · rintro ⟨argument, misused, before, after, split, others⟩
    exact ⟨before, argument, after, split, misused, others⟩

theorem firstWrong_append (first second : List (String × Option Argument)) :
    registry.firstWrong? (first ++ second) =
      (registry.firstWrong? first).or (registry.firstWrong? second) :=
  List.find?_append

/-- What a check says that has found a wrong invocation, or none. -/
def verdict : Option (String × Option Argument) → Except QueryError Unit
  | none => .ok ()
  | some (name, _) => .error (.invalidPseudoTag name)

theorem verdict_or (first second : Option (String × Option Argument)) :
    verdict (first.or second) = (verdict first >>= fun _ => verdict second) := by
  cases first <;> rfl

theorem validate_eq (expr : Expr) :
    registry.validate expr = verdict (registry.firstWrong? expr.invocations) := by
  induction expr with
  | tag label symbol => rfl
  | pseudo name argument =>
      cases admitted : registry.admits name argument <;>
        simp [validate, Expr.invocations, firstWrong?, admitted, verdict]
  | and left right ihLeft ihRight | or left right ihLeft ihRight =>
      rw [validate, ihLeft, ihRight, Expr.invocations, firstWrong_append, verdict_or]
  | not operand ih => exact ih

theorem validate_error_iff (expr : Expr) (error : QueryError) :
    registry.validate expr = .error error ↔
      ∃ name, error = .invalidPseudoTag name ∧ registry.FirstMisused expr name := by
  simp only [validate_eq, firstMisused_iff]
  constructor
  · intro failed
    cases found : registry.firstWrong? expr.invocations with
    | none =>
        rw [found] at failed
        cases failed
    | some invocation =>
        rw [found] at failed
        cases failed
        exact ⟨invocation.1, rfl, invocation.2, rfl⟩
  · rintro ⟨name, rfl, argument, found⟩
    rw [found]
    rfl

end Registry

-- The two recursions take the same decisions at a pseudo-tag and go on in the same order.
theorem ofExpr_validates (lookup : TagLookup) (registry : Registry) (caseDefault : Bool)
    (expr : Expr) :
    (Condition.ofExpr lookup registry caseDefault expr).map (fun _ => ()) =
      registry.validate expr := by
  induction expr with
  | tag label symbol => rfl
  | pseudo name argument =>
      unfold Condition.ofExpr
      rw [Registry.validate, Registry.admits]
      cases found : registry.find? name with
      | none => rfl
      | some tag =>
          obtain ⟨kind, template⟩ := tag
          cases kind <;> cases argument <;> rfl
  | and left right ihLeft ihRight | or left right ihLeft ihRight =>
      rw [Registry.validate, ← ihLeft, ← ihRight, Condition.ofExpr]
      cases Condition.ofExpr lookup registry caseDefault left with
      | error error => rfl
      | ok first =>
          cases Condition.ofExpr lookup registry caseDefault right with
          | error error => rfl
          | ok second => rfl
  | not operand ih =>
      rw [Registry.validate, ← ih, Condition.ofExpr]
      cases Condition.ofExpr lookup registry caseDefault operand with
      | error error => rfl
      | ok inner => rfl

theorem ofExpr_of_valid (lookup : TagLookup) (registry : Registry) (caseDefault : Bool)
    (expr : Expr) (valid : registry.validate expr = .ok ()) :
    ∃ condition, Condition.ofExpr lookup registry caseDefault expr = .ok condition := by
  rw [← ofExpr_validates lookup registry caseDefault] at valid
  cases done : Condition.ofExpr lookup registry caseDefault expr with
  | ok condition => exact ⟨condition, rfl⟩
  | error error =>
      rw [done] at valid
      cases valid

theorem ofExpr_error_iff (lookup : TagLookup) (registry : Registry) (caseDefault : Bool)
    (expr : Expr) (error : QueryError) :
    Condition.ofExpr lookup registry caseDefault expr = .error error ↔
      registry.validate expr = .error error := by
  rw [← ofExpr_validates lookup registry caseDefault]
  cases Condition.ofExpr lookup registry caseDefault expr <;> simp [Except.map]

/-- Compiling an expression fails in its expansion or in the check, and never after these. -/
theorem compileExpr_error_iff (expr : Expr) (catalogue : Catalogue) (registry : Registry)
    (settings : CompilerSettings) (error : QueryError) :
    compileExpr expr catalogue registry settings = .error error ↔
      expand catalogue.definitions settings.maxNodes expr = .error error ∨
        ∃ expanded, expand catalogue.definitions settings.maxNodes expr = .ok expanded ∧
          registry.validate expanded = .error error := by
  simp only [compileExpr, bind_error_iff]
  constructor
  · rintro (unexpanded | ⟨expanded, expands, invalid | ⟨_, valid, later⟩⟩)
    · exact .inl unexpanded
    · exact .inr ⟨expanded, expands, invalid⟩
    · split at later
      · cases later
      · rcases (bind_error_iff _ _ _).mp later with unbuilt | ⟨_, _, done⟩
        · -- What has no condition has not passed the check either.
          rw [ofExpr_error_iff, valid] at unbuilt
          cases unbuilt
        · cases done
  · rintro (unexpanded | ⟨expanded, expands, invalid⟩)
    · exact .inl unexpanded
    · exact .inr ⟨expanded, expands, .inl invalid⟩

/-- The check of an expression and the construction of its condition fail alike: both name the first
wrong invocation. A text is compiled unless it does not parse, its expansion fails, or the expansion
has a wrong invocation, whether the expansion is contradictory or not; the construction of the
condition adds no failure. -/
theorem validation_decides (registry : Registry) (expr : Expr) :
    (∀ error, registry.validate expr = .error error ↔
      ∃ name, error = .invalidPseudoTag name ∧ registry.FirstMisused expr name) ∧
    (∀ lookup caseDefault error,
      Condition.ofExpr lookup registry caseDefault expr = .error error ↔
        ∃ name, error = .invalidPseudoTag name ∧ registry.FirstMisused expr name) ∧
    ∀ text catalogue settings error, compile text catalogue registry settings = .error error ↔
      (∃ fault, parse text = .error fault ∧ error = .unreadable fault) ∨
        ∃ parsed, parse text = .ok parsed ∧
          (expand catalogue.definitions settings.maxNodes parsed = .error error ∨
            ∃ expanded, expand catalogue.definitions settings.maxNodes parsed = .ok expanded ∧
              ∃ name, error = .invalidPseudoTag name ∧ registry.FirstMisused expanded name) := by
  refine ⟨registry.validate_error_iff expr, ?_, ?_⟩
  · intro lookup caseDefault error
    rw [ofExpr_error_iff, registry.validate_error_iff]
  · intro text catalogue settings error
    rw [compile]
    cases parsed : parse text with
    | error fault => simp [eq_comm]
    | ok expr =>
        simp [compileExpr_error_iff, registry.validate_error_iff]

example :
    compile "#nope AND NOT #nope" .empty .standard {} = .error (.invalidPseudoTag "nope") := by
  decide +kernel

end Gallery.Query
