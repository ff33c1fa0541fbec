import Gallery.Sql.Value

/-!
Conditions and other expressions of statements, over the columns of the rows in scope.
-/

namespace Gallery.Sql

inductive Comparison where
  | equal
  | different
  | less
  | atMost
  | greater
  | atLeast
  deriving DecidableEq, Repr

inductive Arithmetic where
  | add
  | subtract
  | multiply
  | divide
  | remainder
  deriving DecidableEq, Repr

inductive Yield where
  | anyRow
  | rowCount
  | firstResult
  deriving DecidableEq, Repr

inductive Expression where
  | value (value : Value)
  /-- A column, of the row with the given name when there is one. -/
  | column (row : Option String) (name : String)
  | not (operand : Expression)
  | and (left right : Expression)
  | or (left right : Expression)
  | compare (comparison : Comparison) (left right : Expression)
  /-- Whether two values are equal, where a missing value equals a missing value only. -/
  | same (left right : Expression)
  /-- Whether two values differ, by the same rule. -/
  | distinct (left right : Expression)
  | arithmetic (operation : Arithmetic) (left right : Expression)
  | join (left right : Expression)
  | like (left right : Expression)
  | call (name : String) (arguments : List Expression)
  /-- What the rows of a table yield that satisfy a condition, each called `row`. -/
  | select (yield : Yield) (result : Expression) (table row : String) (condition : Expression)
  deriving Inhabited

end Gallery.Sql
