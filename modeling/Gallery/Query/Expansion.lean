import Gallery.Query.Parse
import Gallery.Query.QueryError

/-!
Replacing references to compound tags by their definitions, until only tags without a definition are
left. A definition that leads back to its own tag is a cycle, and a budget bounds the number of
nodes that are visited.
-/

namespace Gallery.Query

/-- What is known about the tags of a catalogue: the definitions of the compound ones, and which tag
has the type with which symbol. -/
structure Definitions where
  definition? : String → Option String
  hasType : String → Char → Bool

namespace Definitions

def untyped (definition? : String → Option String) : Definitions :=
  ⟨definition?, fun _ _ => false⟩

/-- The definition that stands for a reference. A reference with a symbol is replaced only when the
tag has the type with that symbol. -/
def replacement? (definitions : Definitions) (label : String) (symbol : Option Char) :
    Option String :=
  if symbol.all (definitions.hasType label) then definitions.definition? label else none

end Definitions

/-- Expands `expr` after `visited` nodes have been visited, inside the definitions of the tags on
`path`, and returns the number of nodes visited in the end. Nested expansions are at most `room`
deep; since each of them visits a node, no more are needed than the budget has nodes. -/
def expandWithin (definitions : Definitions) (budget : Nat) :
    (room : Nat) → (path : List String) → (visited : Nat) → Expr → Except QueryError (Expr × Nat)
  | 0, _, _, _ => .error (.tooLarge budget)
  | room + 1, path, visited, expr =>
      if budget ≤ visited then .error (.tooLarge budget) else
        match expr with
        | .tag label symbol =>
            match definitions.replacement? label symbol with
            | none => .ok (.tag label symbol, visited + 1)
            | some definition =>
                if label ∈ path then .error (.cycle label) else
                  match parse definition with
                  | .error error => .error (.unreadableDefinition label error)
                  | .ok body =>
                      expandWithin definitions budget room (label :: path) (visited + 1) body
        | .pseudo name argument => .ok (.pseudo name argument, visited + 1)
        | .and left right => do
            let (left, visited) ← expandWithin definitions budget room path (visited + 1) left
            let (right, visited) ← expandWithin definitions budget room path visited right
            return (.and left right, visited)
        | .or left right => do
            let (left, visited) ← expandWithin definitions budget room path (visited + 1) left
            let (right, visited) ← expandWithin definitions budget room path visited right
            return (.or left right, visited)
        | .not operand => do
            let (operand, visited) ←
              expandWithin definitions budget room path (visited + 1) operand
            return (.not operand, visited)

def expand (definitions : Definitions) (budget : Nat) (expr : Expr) : Except QueryError Expr :=
  (expandWithin definitions budget budget [] 0 expr).map Prod.fst

end Gallery.Query
