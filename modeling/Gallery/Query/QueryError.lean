import Gallery.Query.SyntaxError

/-!
Why a query cannot be compiled.
-/

namespace Gallery.Query

inductive QueryError where
  | unreadable (error : SyntaxError)
  | unreadableDefinition (label : String) (error : SyntaxError)
  | invalidPseudoTag (name : String)
  | cycle (label : String)
  | tooLarge (budget : Nat)
  deriving DecidableEq, Repr

namespace QueryError

def message : QueryError → String
  | unreadable error => "syntax error: " ++ error.message
  | unreadableDefinition label error =>
      "syntax error in the definition of tag '" ++ label ++ "': " ++ error.message
  | invalidPseudoTag name => "invalid pseudo-tag: " ++ name
  | cycle label => "tag '" ++ label ++ "' is defined in terms of itself"
  | tooLarge budget => "query expands to more than " ++ toString budget ++ " nodes"

def isTooLarge : QueryError → Bool
  | cycle _ | tooLarge _ => true
  | _ => false

end QueryError

end Gallery.Query
