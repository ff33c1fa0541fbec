/-!
Written forms of values that have parts. A record names its fields; a wrapper only counts them.
-/

namespace Gallery.Text

def commaSeparated (parts : List String) : String :=
  String.intercalate ", " parts

def record (name : String) (fields : List (String × String)) : String :=
  name ++ " \x7b " ++ commaSeparated (fields.map fun (field, value) => field ++ ": " ++ value) ++
    " \x7d"

def wrapped (name : String) (content : List String) : String :=
  name ++ "(" ++ commaSeparated content ++ ")"

def optional : Option String → String
  | none => "None"
  | some value => wrapped "Some" [value]

end Gallery.Text
