import Gallery.Text.Blank

/-!
What can be wrong with the text of a query, and where: every fault carries the input that was still
unread when it was found.
-/

namespace Gallery.Query

inductive SyntaxFault where
  | unexpectedToken
  | unbalancedParenthesis
  | expectedExpression
  | unterminatedString
  | tooDeep
  deriving DecidableEq, Repr

def SyntaxFault.message : SyntaxFault → String
  | unexpectedToken => "unexpected token"
  | unbalancedParenthesis => "unbalanced parenthesis"
  | expectedExpression => "expected an expression"
  | unterminatedString => "unterminated string"
  | tooDeep => "query is nested too deeply"

structure SyntaxError where
  fault : SyntaxFault
  rest : List Char
  deriving DecidableEq, Repr

namespace SyntaxError

def location (error : SyntaxError) : String :=
  String.ofList error.rest

def message (error : SyntaxError) : String :=
  error.fault.message ++ " at '" ++ error.location ++ "'"

/-- The error of a construct that does not start at `input`: an expression is missing when only
white space is left, otherwise what stands there is out of place. -/
def missing (input : List Char) : SyntaxError :=
  ⟨if Text.isBlankText input then .expectedExpression else .unexpectedToken, input⟩

end SyntaxError

end Gallery.Query
