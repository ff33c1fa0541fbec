/-!
Templates: texts in which a name between braces stands for a value. Rendering replaces each known
placeholder by a parameter mark and lists the values in order; any other brace is kept.
-/

namespace Gallery.Query.Template

def parameterMark : Char := '?'

def placeholder? (values : List (String × String)) (rest : List Char) : Option (String × Nat) :=
  (values.find? fun (name, _) => (name.toList ++ ['\x7d']).isPrefixOf rest).map
    fun (name, value) => (value, name.length + 1)

/-- Renders the template after its first `skip` characters, which belong to a placeholder already
replaced. -/
def renderAfter (values : List (String × String)) :
    (skip : Nat) → List Char → List Char × List String
  | _, [] => ([], [])
  | skip + 1, _ :: rest => renderAfter values skip rest
  | 0, c :: rest =>
      match if c = '\x7b' then placeholder? values rest else none with
      | some (value, length) =>
          let (text, parameters) := renderAfter values length rest
          (parameterMark :: text, value :: parameters)
      | none =>
          let (text, parameters) := renderAfter values 0 rest
          (c :: text, parameters)

def render (values : List (String × String)) (template : String) : List Char × List String :=
  renderAfter values 0 template.toList

end Gallery.Query.Template
