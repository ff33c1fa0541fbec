import Gallery.Query.PseudoTag
import Gallery.Query.Template

/-!
The condition that a query puts on a picture row: which stored tags it must carry and which
templates must hold. A condition has a text, in which the user's patterns stand as parameters.
-/

namespace Gallery.Query

structure TagLookup where
  tag? : String → Option (Int × Option Int)
  tagType? : Char → Option Int

inductive Condition where
  | never
  | carries (tag : Int)
  | flag (template : String)
  /-- The template of a pattern with the values of its placeholders. -/
  | pattern (template value flags : String)
  | and (left right : Condition)
  | or (left right : Condition)
  | not (operand : Condition)
  deriving DecidableEq, Repr

namespace Condition

/-- The condition of a reference. A label or a symbol that is unknown, and a symbol of another type
than the tag's, hold for no picture. -/
def ofReference (lookup : TagLookup) (label : String) (symbol : Option Char) : Condition :=
  match lookup.tag? label with
  | none => never
  | some (tag, typeId) =>
      match symbol with
      | none => carries tag
      | some c =>
          match lookup.tagType? c with
          | none => never
          | some type => if typeId = some type then carries tag else never

/-- The flags of a pattern: `s` when letter case counts, `i` when it does not. -/
def flagsOf (caseDefault : Bool) (argument : Argument) : String :=
  if argument.caseSensitive.getD caseDefault then "s" else "i"

/-- The condition of an expression. `caseDefault` says whether letter case counts in patterns that
do not say so themselves. -/
def ofExpr (lookup : TagLookup) (registry : Registry) (caseDefault : Bool) :
    Expr → Except QueryError Condition
  | .tag label symbol => .ok (ofReference lookup label symbol)
  | .pseudo name argument =>
      match registry.find? name, argument with
      | some ⟨.flag, template⟩, none => .ok (flag template)
      | some ⟨.pattern, template⟩, some argument =>
          .ok (pattern template argument.pattern (flagsOf caseDefault argument))
      | _, _ => .error (.invalidPseudoTag name)
  | .and left right => do
      let left ← ofExpr lookup registry caseDefault left
      let right ← ofExpr lookup registry caseDefault right
      return and left right
  | .or left right => do
      let left ← ofExpr lookup registry caseDefault left
      let right ← ofExpr lookup registry caseDefault right
      return or left right
  | .not operand => do
      let operand ← ofExpr lookup registry caseDefault operand
      return not operand

def placeholders (value flags : String) : List (String × String) :=
  [("pattern", value), ("flags", flags)]

def write (rest : List Char) : Condition → List Char
  | .never => "1 = 0".toList ++ rest
  | .carries tag =>
      "EXISTS (SELECT 1 FROM picture_tag AS pt ".toList ++
        ("WHERE pt.picture_id = p.id AND pt.tag_id = ".toList ++
          ((toString tag).toList ++ ')' :: rest))
  | .flag template => template.toList ++ rest
  | .pattern template value flags =>
      (Template.render (placeholders value flags) template).1 ++ rest
  | .and left right => '(' :: left.write (" AND ".toList ++ right.write (')' :: rest))
  | .or left right => '(' :: left.write (" OR ".toList ++ right.write (')' :: rest))
  | .not operand => "NOT ".toList ++ operand.write rest

def text (condition : Condition) : String :=
  String.ofList (condition.write [])

def parametersBefore (rest : List String) : Condition → List String
  | .never | .carries _ | .flag _ => rest
  | .pattern template value flags =>
      (Template.render (placeholders value flags) template).2 ++ rest
  | .and left right | .or left right => left.parametersBefore (right.parametersBefore rest)
  | .not operand => operand.parametersBefore rest

def parameters (condition : Condition) : List String :=
  condition.parametersBefore []

def statement (condition : Condition) : String :=
  "SELECT p.id, p.path, p.hash FROM pictures AS p WHERE " ++ condition.text ++ " ORDER BY p.id"

end Condition

end Gallery.Query
