import Gallery.Proofs.Query.Expansion
import Gallery.Sql.Evaluation

/-!
Evaluating expressions. A condition settles a truth value when every evaluation that no failing call
ends has it; so far as the parts of a condition settle values, the whole settles the value that
two-valued logic gives it.
-/

namespace Gallery

/-! Filtering with tests that may fail. -/

section Filtering

variable {ε Row Entry : Type} (test : Entry → Except ε Bool)

theorem filterAuxM_ok (entry : Row → Entry) (keep : Row → Bool) (rows : List Row)
    (kept : List Entry) (same : ∀ row ∈ rows, test (entry row) = .ok (keep row)) :
    (rows.map entry).filterAuxM test kept =
      .ok (((rows.filter keep).map entry).reverse ++ kept) := by
  induction rows generalizing kept with
  | nil => rfl
  | cons row rest ih =>
      rw [List.map_cons, List.filterAuxM, same row (by simp)]
      refine (ih _ fun row member => same row (by simp [member])).trans ?_
      cases verdict : keep row with
      | true => simp [verdict]
      | false => simp [verdict]

theorem filterM_ok (entry : Row → Entry) (keep : Row → Bool) (rows : List Row)
    (same : ∀ row ∈ rows, test (entry row) = .ok (keep row)) :
    (rows.map entry).filterM test = .ok ((rows.filter keep).map entry) := by
  rw [List.filterM, filterAuxM_ok test entry keep rows [] same]
  simp [bind, Except.bind, pure, Except.pure]

theorem ok_of_filterAuxM (entries kept found : List Entry)
    (done : entries.filterAuxM test kept = .ok found) :
    ∀ entry ∈ entries, ∃ value, test entry = .ok value := by
  induction entries generalizing kept with
  | nil => simp
  | cons entry rest ih =>
      rcases (bind_ok_iff _ _ _).mp done with ⟨value, first, later⟩
      simpa [first] using ih _ later

theorem ok_of_filterM (entries found : List Entry) (done : entries.filterM test = .ok found) :
    ∀ entry ∈ entries, ∃ value, test entry = .ok value := by
  rcases (bind_ok_iff _ _ _).mp done with ⟨reversed, filtered, _⟩
  exact ok_of_filterAuxM test entries [] reversed filtered

theorem mem_of_filterAuxM (entries kept found : List Entry)
    (done : entries.filterAuxM test kept = .ok found) :
    ∀ entry ∈ found, entry ∈ kept ∨ entry ∈ entries := by
  induction entries generalizing kept with
  | nil =>
      cases done
      exact fun entry member => .inl member
  | cons first rest ih =>
      rcases (bind_ok_iff _ _ _).mp done with ⟨value, _, later⟩
      intro entry member
      rcases ih _ later entry member with already | member
      · cases value with
        | false => exact .inl already
        | true =>
            rcases List.mem_cons.mp already with rfl | already
            · exact .inr (by simp)
            · exact .inl already
      · exact .inr (List.mem_cons_of_mem first member)

/-- A filter keeps nothing that was not there. -/
theorem mem_of_filterM (entries found : List Entry) (done : entries.filterM test = .ok found) :
    ∀ entry ∈ found, entry ∈ entries := by
  rcases (bind_ok_iff _ _ _).mp done with ⟨reversed, filtered, same⟩
  cases same
  intro entry member
  rcases mem_of_filterAuxM test entries [] reversed filtered entry (List.mem_reverse.mp member) with
    nothing | member
  · cases nothing
  · exact member

end Filtering

namespace Sql

/-! The last occurrence of a character. -/

theorem lastOccurrence_absent (separator : Char) (index : Nat) (text : List Char)
    (absent : separator ∉ text) : lastOccurrence [separator] index text = 0 := by
  induction text generalizing index with
  | nil => rfl
  | cons c rest ih =>
      rw [List.mem_cons, not_or] at absent
      simp [lastOccurrence, ih _ absent.2, absent.1]

theorem lastOccurrence_last (separator : Char) (index : Nat) (before after : List Char)
    (absent : separator ∉ after) (started : 0 < index) :
    lastOccurrence [separator] index (before ++ separator :: after) = index + before.length := by
  induction before generalizing index with
  | nil => simp [lastOccurrence, lastOccurrence_absent _ _ _ absent]
  | cons c rest ih =>
      have later := ih (index + 1) (by omega)
      simp only [List.cons_append, lastOccurrence, later, List.length_cons]
      rw [if_pos (by omega)]
      omega

theorem next_position (k : Nat) (small : k < 0x7FFFFFFFFFFFFFFF) :
    Arithmetic.apply .add (.integer k) (.integer 1) = .integer (k + 1) := by
  have fits : storable? ((k : Int) + 1) = some (.integer (k + 1)) := by
    rw [storable?, if_pos (by omega)]
  simp only [Arithmetic.apply, Value.toNumber, Arithmetic.onIntegers?, fits, Option.getD_some]

theorem substringFrom_next (text : List Char) (k : Nat) :
    substringFrom text (k + 1) = text.drop k := by
  rw [substringFrom, if_neg (by omega)]
  simp

/-! Values. -/

@[simp] theorem sameName_refl (name : String) : sameName name name = true := by
  simp [sameName]

theorem names_apart : ∀ pair ∈ [("id", "path"), ("id", "hash"), ("path", "hash"), ("pt", "p"),
    ("picture_id", "tag_id")], sameName pair.1 pair.2 = false := by
  decide +kernel

@[simp] theorem truth_known (value : Bool) : (truth value).truth? = some value := by
  cases value <;> rfl

theorem integer_order (a b : Int) : ((Value.integer a).order (.integer b) == .eq) = (a == b) := by
  rw [Bool.eq_iff_iff, beq_iff_eq, beq_iff_eq, Value.order]
  exact Std.LawfulEqOrd.compare_eq_iff_eq

theorem text_order (a b : String) : ((Value.text a).order (.text b) == .eq) = (a == b) := by
  rw [Bool.eq_iff_iff, beq_iff_eq, beq_iff_eq, Value.order]
  exact Std.LawfulEqOrd.compare_eq_iff_eq

theorem regex_texts (engine : Pattern.Engine) (text pattern flags : String) :
    regexValue engine (.text text) (.text pattern) (.text flags) =
      ((Pattern.matchesWhole engine text pattern flags).map truth).mapError .invalidPattern := by
  have fresh : regexValue engine (.text text) (.text pattern) (.text flags) =
      ((matchCached engine none text pattern flags).map fun found =>
        (truth found.1, found.2)).map Prod.fst := rfl
  rw [fresh, Pattern.matchesWhole]
  delta matchCached
  cases Pattern.compile engine pattern flags <;> rfl

variable (world : World)

theorem call_substr (text start : Value) :
    callAny? world "SUBSTR" [text, start] =
      some (.ok (if text.isNull || start.isNull then .null
        else
          .text (String.ofList (substringFrom text.textUpToNul start.toNumber.wholePart)))) := by
  have upper : "SUBSTR".map Char.toUpper = "SUBSTR" := by decide +kernel
  simp only [callAny?, upper]

/-- The functions that are not among those of every statement. -/
def additionalNames : List String :=
  ["REGEX", "RINSTR", "FILE_EXISTS", "SIMILAR_HASHES", "SIMILARITY_CONFIDENCE"]

theorem call_additional (name : String) (arguments : List Value)
    (additional : name ∈ additionalNames) :
    callAny? world name arguments =
      callFunction? world.engine world.fileExists name arguments := by
  have upper : ∀ name ∈ additionalNames, name.map Char.toUpper = name := by decide +kernel
  have apart : name ∉ ["SUBSTR", "LENGTH", "LOWER", "UPPER"] :=
    (by decide : ∀ name ∈ additionalNames, name ∉ ["SUBSTR", "LENGTH", "LOWER", "UPPER"]) name
      additional
  have same := upper name additional
  simp only [List.mem_cons, List.not_mem_nil, or_false, not_or] at apart
  rw [callAny?, same] <;> simp_all

/-! Expressions. -/

attribute [local simp] Expression.evaluate Expression.evaluateAll

section Expressions

variable (scope : Scope)

theorem evaluateAll_cons (expression : Expression) (rest : List Expression) (value : Value)
    (values : List Value) (first : expression.evaluate world scope = .ok value)
    (others : Expression.evaluateAll world scope rest = .ok values) :
    Expression.evaluateAll world scope (expression :: rest) = .ok (value :: values) := by
  simp [first, others, bind, Except.bind, pure, Except.pure]

theorem evaluateAll_values (values : List Value) :
    Expression.evaluateAll world scope (values.map .value) = .ok values := by
  induction values with
  | nil => rfl
  | cons value rest ih => exact evaluateAll_cons world scope _ _ value rest rfl ih

theorem evaluate_call (name : String) (arguments : List Expression) (values : List Value)
    (result : Except FunctionError Value)
    (evaluated : Expression.evaluateAll world scope arguments = .ok values)
    (called : callAny? world name values = some result) :
    (Expression.call name arguments).evaluate world scope = result := by
  simp [evaluated, called, bind, Except.bind]

theorem evaluate_not (operand : Expression) (value : Bool)
    (evaluated : operand.evaluate world scope = .ok (truth value)) :
    (Expression.not operand).evaluate world scope = .ok (truth (!value)) := by
  rw [Expression.evaluate, evaluated]
  cases value <;> rfl

theorem evaluate_and (left right : Expression) (a b : Bool)
    (first : left.evaluate world scope = .ok (truth a))
    (second : right.evaluate world scope = .ok (truth b)) :
    (Expression.and left right).evaluate world scope = .ok (truth (a && b)) := by
  rw [Expression.evaluate, first, second]
  cases a <;> cases b <;> rfl

theorem evaluate_equal (left right : Expression) (a b : Int)
    (known : left.affinity? world scope = some .number)
    (first : left.evaluate world scope = .ok (.integer a))
    (second : right.evaluate world scope = .ok (.integer b)) :
    (Expression.compare .equal left right).evaluate world scope = .ok (truth (a == b)) := by
  have aligned : alignSides (left.affinity? world scope) (right.affinity? world scope)
      (.integer a) (.integer b) = (.integer a, .integer b) := by
    rw [known]
    cases right.affinity? world scope with
    | none => rfl
    | some affinity => cases affinity <;> rfl
  rw [Expression.evaluate, first, second, ← integer_order]
  simp [bind, Except.bind, pure, Except.pure, Value.isNull, aligned, Comparison.admits]

end Expressions

/-! Selections from a table. -/

section Selection

variable {Row : Type} (scope : Scope) (result : Expression) (table row : String)
  (condition : Expression) (columns : List (String × Affinity)) (rows : List Row)
  (values : Row → List Value) (holds : Row → Bool)
  (same : ∀ each ∈ rows, condition.evaluate world (⟨row, columns, values each⟩ :: scope) =
    .ok (truth (holds each)))

include same

theorem chosen_rows :
    ((rows.map values).filterM fun entry => do
      let value ← condition.evaluate world (⟨row, columns, entry⟩ :: scope)
      return value.truth? == some true) = .ok ((rows.filter holds).map values) := by
  refine filterM_ok _ values holds rows fun each member => ?_
  rw [same each member]
  simp [bind, Except.bind, pure, Except.pure]

theorem evaluate_anyRow (stored : world.table? table = some ⟨columns, rows.map values⟩) :
    (Expression.select .anyRow result table row condition).evaluate world scope =
      .ok (truth (rows.any holds)) := by
  have chosen := chosen_rows world scope row condition columns rows values holds same
  have kept : (!((rows.filter holds).map values).isEmpty) = rows.any holds := by
    rw [Bool.eq_iff_iff]
    simp
  rw [Expression.evaluate, stored, ← kept]
  simp only [chosen]
  rfl

theorem evaluate_firstResult (stored : world.table? table = some ⟨columns, rows.map values⟩) :
    (Expression.select .firstResult result table row condition).evaluate world scope =
      match rows.find? holds with
      | none => .ok .null
      | some each => result.evaluate world (⟨row, columns, values each⟩ :: scope) := by
  have chosen := chosen_rows world scope row condition columns rows values holds same
  rw [Expression.evaluate, stored, ← List.head?_filter]
  simp only [chosen]
  cases rows.filter holds with
  | nil => rfl
  | cons first rest => rfl

end Selection

/-! Conditions of two-valued logic. -/

/-- The expression has the truth value unless a call fails, and none does when it is `safe`. -/
structure Settles (scope : Scope) (expression : Expression) (value : Bool) (safe : Prop) :
    Prop where
  gives : ∀ found, expression.evaluate world scope = .ok found → found.truth? = some value
  answers : safe → ∃ found, expression.evaluate world scope = .ok found

section Settles

variable (scope : Scope)

theorem settles_truth (expression : Expression) (value : Bool) (safe : Prop)
    (evaluated : expression.evaluate world scope = .ok (truth value)) :
    Settles world scope expression value safe := by
  refine ⟨fun found same => ?_, fun _ => ⟨_, evaluated⟩⟩
  rw [evaluated, Except.ok.injEq] at same
  rw [← same, truth_known]

theorem settles_not (operand : Expression) (value : Bool) (safe : Prop)
    (settled : Settles world scope operand value safe) :
    Settles world scope (.not operand) (!value) safe := by
  constructor
  · intro found done
    rw [Expression.evaluate] at done
    rcases (bind_ok_iff _ _ _).mp done with ⟨inner, evaluated, last⟩
    cases last
    rw [settled.gives inner evaluated]
    exact truth_known (!value)
  · intro fine
    rcases settled.answers fine with ⟨inner, evaluated⟩
    rw [Expression.evaluate, evaluated]
    exact ⟨_, rfl⟩

/-- Both operators evaluate their left side first, and leave the right one alone when the value of
the left decides. -/
theorem settles_binary (whole left right : Expression) (a b decisive : Bool)
    (first second : Prop) (combine : Option Bool → Option Bool → Option Bool)
    (evaluated : whole.evaluate world scope = do
      let value ← left.evaluate world scope
      if value.truth? = some decisive then return truth decisive
      let other ← right.evaluate world scope
      return ofTruth (combine value.truth? other.truth?))
    (neutral : ∀ value, combine (some !decisive) (some value) = some value)
    (settledLeft : Settles world scope left a first)
    (settledRight : Settles world scope right b second) :
    Settles world scope whole (if a = decisive then decisive else b) (first ∧ second) := by
  constructor
  · intro found done
    rw [evaluated] at done
    rcases (bind_ok_iff _ _ _).mp done with ⟨value, evaluatedLeft, later⟩
    rw [settledLeft.gives value evaluatedLeft] at later
    by_cases decides : a = decisive
    · -- Whatever the right side is, no call in it can fail.
      simp only [decides, ↓reduceIte] at later ⊢
      cases later
      exact truth_known decisive
    · simp only [Option.some.injEq, decides, ↓reduceIte] at later ⊢
      rcases (bind_ok_iff _ _ _).mp later with ⟨other, evaluatedRight, last⟩
      cases last
      have opposite : a = !decisive := by
        cases a <;> cases decisive <;> first | rfl | exact absurd rfl decides
      rw [settledRight.gives other evaluatedRight, opposite, neutral]
      exact truth_known b
  · rintro ⟨fineLeft, fineRight⟩
    rcases settledLeft.answers fineLeft with ⟨value, evaluatedLeft⟩
    rcases settledRight.answers fineRight with ⟨other, evaluatedRight⟩
    rw [evaluated, evaluatedLeft, evaluatedRight]
    simp only [bind, Except.bind, pure, Except.pure]
    split <;> exact ⟨_, rfl⟩

theorem settles_and (left right : Expression) (a b : Bool) (first second : Prop)
    (settledLeft : Settles world scope left a first)
    (settledRight : Settles world scope right b second) :
    Settles world scope (.and left right) (a && b) (first ∧ second) := by
  have settled := settles_binary world scope (.and left right) left right a b false first second
    bothTrue (by rw [Expression.evaluate]) (fun value => by cases value <;> rfl)
    settledLeft settledRight
  cases a <;> exact settled

theorem settles_or (left right : Expression) (a b : Bool) (first second : Prop)
    (settledLeft : Settles world scope left a first)
    (settledRight : Settles world scope right b second) :
    Settles world scope (.or left right) (a || b) (first ∧ second) := by
  have settled := settles_binary world scope (.or left right) left right a b true first second
    eitherTrue (by rw [Expression.evaluate]) (fun value => by cases value <;> rfl)
    settledLeft settledRight
  cases a <;> exact settled

end Settles

end Sql

end Gallery
