import Gallery.Sql.Evaluation

/-!
Which tables an expression reads. Its value on given rows depends on those tables, on the files that
exist and on the engine of patterns, and on nothing else.
-/

namespace Gallery.Sql

mutual

/-- The tables that the selections in an expression read. -/
def Expression.tables : Expression → List String
  | .value _ | .column _ _ => []
  | .not operand => operand.tables
  | .and a b | .or a b | .compare _ a b | .same a b | .distinct a b | .arithmetic _ a b | .join a b
  | .like a b =>
      a.tables ++ b.tables
  | .call _ arguments => Expression.tablesOf arguments
  | .select _ result table _ condition => table :: (result.tables ++ condition.tables)

/-- The tables that some expressions read. -/
def Expression.tablesOf : List Expression → List String
  | [] => []
  | expression :: rest => expression.tables ++ Expression.tablesOf rest

end

/-- The worlds have the same files and patterns, and the same tables under the given names. -/
structure World.AgreeOn (first second : World) (tables : List String) : Prop where
  files : first.fileExists = second.fileExists
  patterns : first.engine = second.engine
  read : ∀ table ∈ tables, first.table? table = second.table? table

section Agreement

variable {first second : World} {tables others : List String}

theorem World.AgreeOn.left (agree : first.AgreeOn second (tables ++ others)) :
    first.AgreeOn second tables :=
  ⟨agree.files, agree.patterns, fun table member => agree.read table (List.mem_append_left _ member)⟩

theorem World.AgreeOn.right (agree : first.AgreeOn second (tables ++ others)) :
    first.AgreeOn second others :=
  ⟨agree.files, agree.patterns, fun table member => agree.read table (List.mem_append_right _ member)⟩

theorem World.AgreeOn.inner {table : String} (agree : first.AgreeOn second (table :: tables)) :
    first.AgreeOn second tables :=
  ⟨agree.files, agree.patterns, fun other member => agree.read other (List.mem_cons_of_mem table member)⟩

theorem callAny_congr (agree : first.AgreeOn second tables) (name : String)
    (arguments : List Value) : callAny? first name arguments = callAny? second name arguments := by
  unfold callAny?
  rw [agree.files, agree.patterns]

theorem affinity_congr (expression : Expression) (agree : first.AgreeOn second expression.tables)
    (scope : Scope) : expression.affinity? first scope = expression.affinity? second scope := by
  fun_induction expression.affinity? first scope with
  | case1 scope row name => rfl
  | case2 scope result table row condition absent =>
      rw [Expression.affinity?, ← agree.read table List.mem_cons_self, absent]
  | case3 scope result table row condition found present ih =>
      rw [Expression.affinity?, ← agree.read table List.mem_cons_self, present]
      exact ih agree.inner.left
  | case4 scope expression notColumn notSelect =>
      rw [Expression.affinity?]
      · exact notColumn
      · exact notSelect

end Agreement

mutual

theorem evaluate_congr (first second : World) : (expression : Expression) →
    first.AgreeOn second expression.tables →
      ∀ scope, expression.evaluate first scope = expression.evaluate second scope
  | .value _, _, _ => rfl
  | .column _ _, _, _ => rfl
  | .not operand, agree, scope => by
      rw [Expression.evaluate, Expression.evaluate, evaluate_congr first second operand agree scope]
  | .and a b, agree, scope
  | .or a b, agree, scope
  | .arithmetic _ a b, agree, scope
  | .join a b, agree, scope
  | .like a b, agree, scope => by
      rw [Expression.evaluate, Expression.evaluate, evaluate_congr first second a agree.left scope,
        evaluate_congr first second b agree.right scope]
  | .compare _ a b, agree, scope
  | .same a b, agree, scope
  | .distinct a b, agree, scope => by
      rw [Expression.evaluate, Expression.evaluate, evaluate_congr first second a agree.left scope,
        evaluate_congr first second b agree.right scope, affinity_congr a agree.left scope,
        affinity_congr b agree.right scope]
  | .call _ arguments, agree, scope => by
      rw [Expression.evaluate, Expression.evaluate,
        evaluateAll_congr first second arguments agree scope]
      simp only [callAny_congr agree]
  | .select yield result table row condition, agree, scope => by
      have results := evaluate_congr first second result agree.inner.left
      have conditions := evaluate_congr first second condition agree.inner.right
      rw [Expression.evaluate, Expression.evaluate, agree.read table List.mem_cons_self]
      simp only [results, conditions]

theorem evaluateAll_congr (first second : World) : (expressions : List Expression) →
    first.AgreeOn second (Expression.tablesOf expressions) →
      ∀ scope, Expression.evaluateAll first scope expressions =
        Expression.evaluateAll second scope expressions
  | [], _, _ => rfl
  | expression :: rest, agree, scope => by
      rw [Expression.evaluateAll, Expression.evaluateAll,
        evaluate_congr first second expression agree.left scope,
        evaluateAll_congr first second rest agree.right scope]

end

end Gallery.Sql
