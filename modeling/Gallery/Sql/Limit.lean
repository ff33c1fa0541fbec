import Gallery.Sql.Expression

/-!
The limits within which a statement is accepted: how deeply its expression is nested, and how many
parameters it has. Where the names in a selection are looked up, the depth of
the expression around it counts as well.
-/

namespace Gallery.Sql

inductive Limit where
  | depth
  | parameters
  deriving DecidableEq, Repr

def depthLimit : Nat := 1000

def parameterLimit : Nat := 32766

mutual

/-- The number of levels of an expression. A column that names its row has two. -/
def Expression.depth : Expression → Nat
  | .value _ => 1
  | .column row _ => if row.isSome then 2 else 1
  | .not operand => operand.depth + 1
  | .and a b | .or a b | .compare _ a b | .same a b | .distinct a b | .arithmetic _ a b | .join a b
  | .like a b => max a.depth b.depth + 1
  | .call _ arguments => Expression.depthOf arguments + 1
  | .select _ result _ _ condition => max result.depth condition.depth + 1

def Expression.depthOf : List Expression → Nat
  | [] => 0
  | expression :: rest => max expression.depth (Expression.depthOf rest)

end

mutual

def Expression.nesting : Expression → Nat
  | .value _ | .column .. => 0
  | .not operand => operand.nesting
  | .and a b | .or a b | .compare _ a b | .same a b | .distinct a b | .arithmetic _ a b | .join a b
  | .like a b => max a.nesting b.nesting
  | .call _ arguments => Expression.nestingOf arguments
  | .select _ result _ _ condition =>
      max (result.depth + result.nesting) (condition.depth + condition.nesting)

def Expression.nestingOf : List Expression → Nat
  | [] => 0
  | expression :: rest => max expression.nesting (Expression.nestingOf rest)

end

def exceeded? (parameters : List String) (expression : Expression) : Option Limit :=
  if depthLimit < expression.depth + expression.nesting then some .depth
  else if parameterLimit < parameters.length then some .parameters
  else none

end Gallery.Sql
