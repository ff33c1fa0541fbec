import Gallery.Query.Compile
import Gallery.Sql.Evaluation
import Gallery.Sql.Reading

/-!
The meaning of a condition: the expression that it stands for. The template of a pseudo-tag is read
as an expression of its own, whatever condition it is part of.
-/

namespace Gallery.Query

def numberExpression (n : Int) : Sql.Expression :=
  if n < 0 then .arithmetic .subtract (.value (.integer 0)) (.value (.integer n.natAbs))
  else .value (.integer n)

def equalExpression (left right : Sql.Expression) : Sql.Expression :=
  .compare .equal left right

def carriesExpression (tag : Int) : Sql.Expression :=
  .select .anyRow (.value (.integer 1)) "picture_tag" "pt"
    (.and (equalExpression (.column (some "pt") "picture_id") (.column (some "p") "id"))
      (equalExpression (.column (some "pt") "tag_id") (numberExpression tag)))

namespace Condition

/-- The expression of a condition, unless a template cannot be read. -/
def expression? : Condition → Option Sql.Expression
  | .never => some (equalExpression (.value (.integer 1)) (.value (.integer 0)))
  | .carries tag => some (carriesExpression tag)
  | .flag template => Sql.Expression.read template.toList []
  | .pattern template value flags =>
      let (text, parameters) := Template.render (placeholders value flags) template
      Sql.Expression.read text parameters
  | .and left right => do
      let left ← left.expression?
      let right ← right.expression?
      return .and left right
  | .or left right => do
      let left ← left.expression?
      let right ← right.expression?
      return .or left right
  | .not operand => do
      let operand ← operand.expression?
      return .not operand

end Condition

end Gallery.Query
