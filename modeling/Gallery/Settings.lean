import Gallery.Text.Blank
import Gallery.Text.Digits

/-!
Settings of the library, read from named variables. A value that cannot be read counts as absent.
-/

namespace Gallery

structure CompilerSettings where
  maxNodes : Nat := 1000
  caseSensitive : Bool := false
  deriving DecidableEq, Repr

structure Settings where
  compiler : CompilerSettings := {}
  databaseUrl : String := "sqlite:./db/pictures.db"
  deriving DecidableEq, Repr

namespace Settings

def databaseUrlVariable : String := "PICTAG_DATABASE_URL"

def maxNodesVariable : String := "PICTAG_MAX_NODES"

def caseSensitiveVariable : String := "PICTAG_CASE_SENSITIVE"

def variableNames : List String :=
  [databaseUrlVariable, maxNodesVariable, caseSensitiveVariable]

def maxNodesLimit : Nat := 0xFFFFFFFFFFFFFFFF

def decimal? (digits : List Char) : Option Nat :=
  if digits.isEmpty || !digits.all Char.isDigit then none
  else some (Text.decimalValue digits)

def readCount? (text : String) : Option Nat :=
  let digits := match text.toList with
    | '+' :: rest => rest
    | all => all
  (decimal? digits).filter (· ≤ maxNodesLimit)

def readTruth? (text : String) : Option Bool :=
  let word := text.map Char.toLower
  if ["1", "true", "yes", "on"].contains word then some true
  else if ["0", "false", "no", "off"].contains word then some false
  else none

def ofVariables (valueOf? : String → Option String) : Settings :=
  let defaults : Settings := {}
  { compiler := {
      maxNodes := ((valueOf? maxNodesVariable).bind fun value =>
        readCount? (Text.trim value)).getD defaults.compiler.maxNodes
      caseSensitive := ((valueOf? caseSensitiveVariable).bind fun value =>
        readTruth? (Text.trim value)).getD defaults.compiler.caseSensitive }
    databaseUrl := ((valueOf? databaseUrlVariable).filter fun value =>
        !Text.isBlankText value.toList).getD defaults.databaseUrl }

end Settings

end Gallery
