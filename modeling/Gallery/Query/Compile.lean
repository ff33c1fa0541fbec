import Gallery.Catalogue
import Gallery.Settings
import Gallery.Query.NormalForm

/-!
Compiling a query: its text is read, compound tags are expanded, the pseudo-tags are checked, and
unless the query is seen to hold for no picture, its condition is built.
-/

namespace Gallery.Query

/-- A compiled query: the expanded expression, and its condition unless no picture can
satisfy it. -/
structure Compiled where
  expanded : Expr
  condition : Option Condition
  deriving DecidableEq, Repr

namespace Compiled

def statement (query : Compiled) : Option String :=
  query.condition.map Condition.statement

def parameters (query : Compiled) : List String :=
  (query.condition.map Condition.parameters).getD []

end Compiled

def compileExpr (expr : Expr) (catalogue : Catalogue) (registry : Registry)
    (settings : CompilerSettings) : Except QueryError Compiled := do
  let expanded ← expand catalogue.definitions settings.maxNodes expr
  registry.validate expanded
  if isUnsatisfiable expanded then
    return ⟨expanded, none⟩
  else
    let condition ←
      Condition.ofExpr catalogue.lookup registry settings.caseSensitive expanded
    return ⟨expanded, some condition⟩

def compile (text : String) (catalogue : Catalogue) (registry : Registry)
    (settings : CompilerSettings) : Except QueryError Compiled :=
  match parse text with
  | .error error => .error (.unreadable error)
  | .ok expr => compileExpr expr catalogue registry settings

end Gallery.Query
