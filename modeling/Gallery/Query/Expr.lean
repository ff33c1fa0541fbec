import Gallery.Query.Lexeme

/-!
Query expressions: references to tags and invocations of pseudo-tags under conjunction, disjunction
and negation, with their measures and their written form.
-/

namespace Gallery.Query

/-- The argument of a pseudo-tag. Without a case flag the letter case is left to the settings. -/
structure Argument where
  pattern : String
  caseSensitive : Option Bool
  deriving DecidableEq, Repr, Hashable

inductive Expr where
  | tag (label : String) (symbol : Option Char)
  | pseudo (name : String) (argument : Option Argument)
  | and (left right : Expr)
  | or (left right : Expr)
  | not (operand : Expr)
  deriving DecidableEq, Repr

namespace Expr

def nodeCount : Expr → Nat
  | tag _ _ | pseudo _ _ => 1
  | and left right | or left right => 1 + left.nodeCount + right.nodeCount
  | not operand => 1 + operand.nodeCount

def height : Expr → Nat
  | tag _ _ | pseudo _ _ => 0
  | and left right | or left right => 1 + max left.height right.height
  | not operand => 1 + operand.height

def labelsBefore (rest : List String) : Expr → List String
  | tag label _ => label :: rest
  | pseudo _ _ => rest
  | and left right | or left right => left.labelsBefore (right.labelsBefore rest)
  | not operand => operand.labelsBefore rest

def labels (expr : Expr) : List String :=
  expr.labelsBefore []

def escape : List Char → List Char
  | [] => []
  | c :: rest => if c = '\\' ∨ c = '"' then '\\' :: c :: escape rest else c :: escape rest

def caseFlag : Option Bool → List Char
  | none => []
  | some true => ['s']
  | some false => ['i']

def writeArgument : Option Argument → List Char
  | none => []
  | some argument =>
      ':' :: '"' :: (escape argument.pattern.toList ++ '"' :: caseFlag argument.caseSensitive)

/-- The written form of an expression, followed by `rest`. Conjunctions and disjunctions stand in
parentheses. -/
def write (rest : List Char) : Expr → List Char
  | tag label symbol => symbol.toList ++ (label.toList ++ rest)
  | pseudo name argument => pseudoMark :: (name.toList ++ (writeArgument argument ++ rest))
  | and left right =>
      '(' :: left.write (' ' :: 'A' :: 'N' :: 'D' :: ' ' :: right.write (')' :: rest))
  | or left right => '(' :: left.write (' ' :: 'O' :: 'R' :: ' ' :: right.write (')' :: rest))
  | not operand => 'N' :: 'O' :: 'T' :: ' ' :: operand.write rest

def text (expr : Expr) : String :=
  String.ofList (expr.write [])

end Expr

end Gallery.Query
