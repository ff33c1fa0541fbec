/-!
Matching a whole text against a pattern. What patterns are and what they match is up to an engine of
regular expressions. Here a pattern is put between an anchor at the start and one at the end of the
text, and the result is handed to the engine.
-/

namespace Gallery.Pattern

/-- An engine of regular expressions. From a pattern, and whether letter case plays no role, it
builds what tells of a text whether the pattern matches some stretch of it, or says why the pattern
is refused. -/
structure Engine where
  build : (pattern : String) → (ignoreCase : Bool) → Except String (String → Bool)

def anchored (pattern : String) : String :=
  "^(?:" ++ pattern ++ ")$"

def compile (engine : Engine) (pattern flags : String) : Except String (String → Bool) :=
  engine.build (anchored pattern) (flags.toList.contains 'i')

def matchesWhole (engine : Engine) (text pattern flags : String) : Except String Bool :=
  (compile engine pattern flags).map fun matcher => matcher text

end Gallery.Pattern
