/-!
What can be wrong with a pattern, and where. A fault marks a part of the pattern by the input that
was unread at its start and at its end; its wording shows the pattern with the part underlined.
-/

namespace Gallery.Host.Regex

inductive Mistake where
  | setUnclosed
  | setEscape
  | rangeBound
  | rangeReversed
  | numberInvalid
  | countMissing
  | countUnclosed
  | countsReversed
  | codeEmpty
  | codeInvalid
  | codeDigit
  | escapeEnds
  | escapeUnknown
  | letterSetInvalid
  | boundaryEnds
  | boundaryUnclosed
  | boundaryUnknown
  | flagEnds
  | flagUnknown
  | flagRepeated
  | negationRepeated
  | negationDangling
  | groupNameEnds
  | groupNameEmpty
  | groupNameCharacter
  | groupNameRepeated
  | groupUnclosed
  | groupUnopened
  | repetitionMissing
  | tooDeep (limit : Nat)
  | backReference
  | lookAround
  | scriptsNeeded
  | strayBytes
  | propertyUnknown
  | propertyValueUnknown
  deriving DecidableEq, Repr

def Mistake.message : Mistake → String
  | setUnclosed => "unclosed character class"
  | setEscape => "invalid escape sequence found in character class"
  | rangeBound => "invalid range boundary, must be a literal"
  | rangeReversed => "invalid character class range, the start must be <= the end"
  | numberInvalid => "decimal literal invalid"
  | countMissing => "repetition quantifier expects a valid decimal"
  | countUnclosed => "unclosed counted repetition"
  | countsReversed => "invalid repetition count range, the start must be <= the end"
  | codeEmpty => "hexadecimal literal empty"
  | codeInvalid => "hexadecimal literal is not a Unicode scalar value"
  | codeDigit => "invalid hexadecimal digit"
  | escapeEnds => "incomplete escape sequence, reached end of pattern prematurely"
  | escapeUnknown => "unrecognized escape sequence"
  | letterSetInvalid => "invalid Unicode character class"
  | boundaryEnds =>
      "found either the beginning of a special word boundary or a bounded repetition on a \\b " ++
        "with an opening brace, but no closing brace"
  | boundaryUnclosed =>
      "special word boundary assertion is either unclosed or contains an invalid character"
  | boundaryUnknown =>
      "unrecognized special word boundary assertion, valid choices are: start, end, start-half " ++
        "or end-half"
  | flagEnds => "expected flag but got end of regex"
  | flagUnknown => "unrecognized flag"
  | flagRepeated => "duplicate flag"
  | negationRepeated => "flag negation operator repeated"
  | negationDangling => "dangling flag negation operator"
  | groupNameEnds => "unclosed capture group name"
  | groupNameEmpty => "empty capture group name"
  | groupNameCharacter => "invalid capture group character"
  | groupNameRepeated => "duplicate capture group name"
  | groupUnclosed => "unclosed group"
  | groupUnopened => "unopened group"
  | repetitionMissing => "repetition operator missing expression"
  | tooDeep limit =>
      "exceed the maximum number of nested parentheses/brackets (" ++ toString limit ++ ")"
  | backReference => "backreferences are not supported"
  | lookAround => "look-around, including look-ahead and look-behind, is not supported"
  | scriptsNeeded => "Unicode not allowed here"
  | strayBytes => "pattern can match invalid UTF-8"
  | propertyUnknown => "Unicode property not found"
  | propertyValueUnknown => "Unicode property value not found"

structure Part where
  start : List Char
  stop : List Char
  deriving DecidableEq, Repr

structure Fault where
  mistake : Mistake
  part : Part
  earlier : Option Part := none
  deriving DecidableEq, Repr

/-! The wording of a fault -/

structure Place where
  line : Nat
  column : Nat
  deriving DecidableEq, Repr

def placeBehind (before : List Char) : Place :=
  ⟨before.count '\n' + 1, (before.reverse.takeWhile (· != '\n')).length + 1⟩

def Part.places (text : List Char) (part : Part) : Place × Place :=
  (placeBehind (text.take (text.length - part.start.length)),
    placeBehind (text.take (text.length - part.stop.length)))

/-- Marks below a line, for parts given by the columns where they start and end, in ascending order.
`column` columns are written already. An empty part has one mark. -/
def marksAfter (column : Nat) : List (Nat × Nat) → List Char
  | [] => []
  | (first, last) :: rest =>
      let gap := first - 1 - column
      let width := max 1 (last - first)
      List.replicate gap ' ' ++ (List.replicate width '^' ++ marksAfter (column + gap + width) rest)

def linesOf (text : String) : List String :=
  let lines := text.splitOn "\n"
  let whole := lines.dropLast.map fun line =>
    match line.toList.reverse with
    | '\r' :: rest => String.ofList rest.reverse
    | _ => line
  whole ++ lines.getLast?.toList.filter (· != "")

namespace Fault

def places (text : String) (fault : Fault) : List (Place × Place) :=
  let own := fault.part.places text.toList
  match fault.earlier.map (·.places text.toList) with
  | some earlier => [earlier, own]
  | none => [own]

def margin (count line : Nat) : String :=
  if count ≤ 1 then "    "
  else
    let number := toString line
    String.ofList (List.replicate ((toString count).length - number.length) ' ') ++ number ++ ": "

def notatedLines (text : String) (fault : Fault) : List String :=
  let count := (text.splitOn "\n").length
  let marked := (fault.places text).filter fun (first, last) => first.line == last.line
  (linesOf text).zipIdx.flatMap fun (line, index) =>
    let columns := (marked.filter fun (first, _) => first.line == index + 1).map
      fun (first, last) => (first.column, last.column)
    let width := (margin count (index + 1)).length
    (margin count (index + 1) ++ line) :: if columns.isEmpty then []
      else [String.ofList (List.replicate width ' ' ++ marksAfter 0 columns)]

def lineNotes (text : String) (fault : Fault) : List String :=
  ((fault.places text).filter fun (first, last) => first.line != last.line).map
    fun (first, last) =>
      "on line " ++ toString first.line ++ " (column " ++ toString first.column ++
        ") through line " ++ toString last.line ++ " (column " ++ toString (last.column - 1) ++ ")"

def message (text : String) (fault : Fault) : String :=
  let divider := String.ofList (List.replicate 79 '~')
  let lines := fault.notatedLines text
  String.intercalate "\n" (["regex parse error:"] ++
    (if text.toList.contains '\n' then divider :: lines ++ divider :: fault.lineNotes text
      else lines) ++
    ["error: " ++ fault.mistake.message])

end Fault

end Gallery.Host.Regex
