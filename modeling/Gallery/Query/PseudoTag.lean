import Gallery.Query.Expr
import Gallery.Query.QueryError

/-!
Pseudo-tags: conditions on a picture that no stored tag stands for. Each has a name and a template
for its condition on the picture row `p`. A flag takes no argument; a pattern takes one, which its
template uses through the placeholders `pattern` and `flags`.
-/

namespace Gallery.Query

inductive PseudoTagKind where
  | flag
  | pattern
  deriving DecidableEq, Repr

structure PseudoTag where
  kind : PseudoTagKind
  template : String
  deriving DecidableEq, Repr

structure Registry where
  entries : List (String × PseudoTag)
  deriving DecidableEq, Repr

namespace Registry

def empty : Registry := ⟨[]⟩

def insertInto (name : String) (tag : PseudoTag) :
    List (String × PseudoTag) → List (String × PseudoTag)
  | [] => [(name, tag)]
  | entry :: rest =>
      if name = entry.1 then (name, tag) :: rest
      else if name < entry.1 then (name, tag) :: entry :: rest
      else entry :: insertInto name tag rest

def insert (registry : Registry) (name : String) (tag : PseudoTag) : Registry :=
  ⟨insertInto name tag registry.entries⟩

def find? (registry : Registry) (name : String) : Option PseudoTag :=
  registry.entries.lookup name

def standard : Registry := ⟨[
  ("ext", ⟨.pattern,
    "\"REGEX\"(SUBSTR(p.path, \"RINSTR\"(p.path, '.') + 1), \x7bpattern\x7d, \x7bflags\x7d)"⟩),
  ("name", ⟨.pattern,
    "\"REGEX\"(SUBSTR(p.path, \"RINSTR\"(p.path, '/') + 1), \x7bpattern\x7d, \x7bflags\x7d)"⟩),
  ("no_file", ⟨.flag, "NOT \"FILE_EXISTS\"(p.path)"⟩),
  ("no_tags", ⟨.flag,
    "NOT EXISTS (SELECT 1 FROM picture_tag AS pt WHERE pt.picture_id = p.id)"⟩),
  ("path", ⟨.pattern, "\"REGEX\"(p.path, \x7bpattern\x7d, \x7bflags\x7d)"⟩),
  ("similar_to", ⟨.pattern, "(p.hash IS NOT NULL AND \"SIMILAR_HASHES\"(p.hash, " ++
    "(SELECT hash FROM pictures WHERE path = \x7bpattern\x7d)))"⟩)]⟩

/-- Whether a pseudo-tag exists and has an argument exactly when it takes one. -/
def admits (registry : Registry) (name : String) (argument : Option Argument) : Bool :=
  match registry.find? name with
  | some ⟨.flag, _⟩ => argument.isNone
  | some ⟨.pattern, _⟩ => argument.isSome
  | none => false

def validate (registry : Registry) : Expr → Except QueryError Unit
  | .tag _ _ => .ok ()
  | .pseudo name argument =>
      if registry.admits name argument then .ok () else .error (.invalidPseudoTag name)
  | .and left right | .or left right => do
      registry.validate left
      registry.validate right
  | .not operand => registry.validate operand

end Registry

end Gallery.Query
