import Gallery.Host.Regex.Fault
import Gallery.Host.Regex.Node
import Gallery.Host.Regex.NamedSet
import Gallery.Text.Alphanumeric
import Gallery.Text.Digits

/-!
Reading patterns.

    alternatives ::= branch { '|' branch }
    branch       ::= { item [repetition] }
    repetition   ::= ('?' | '*' | '+' | '{' count [',' [count]] '}') ['?']
    item         ::= '(' [kind] alternatives ')' | '(?' flags ')' | '[' set ']' | '.' | '^' | '$' |
                     '\' escape | character

Flags hold from where they are set to the end of the group. Each construct carries how deeply
brackets, groups, repetitions and sequences are nested in it, and an estimate of the room that it
takes when it is compiled; both are bounded. Look-around and references back to groups are not part
of patterns.

A pattern is read twice. At first only its form counts, and parts without a meaning are passed over:
the first fault in the form of a pattern comes before any part that means nothing.
-/

namespace Gallery.Host.Regex

inductive PatternError where
  | malformed (text : String) (fault : Fault)
  | tooLarge
  deriving DecidableEq, Repr

def depthLimit : Nat := 250

def roomLimit : Nat := 10 * 1024 * 1024

def countLimit : Nat := 0xFFFFFFFF

def PatternError.message : PatternError → String
  | malformed text fault => fault.message text
  | tooLarge => "Compiled regex exceeds size limit of " ++ toString roomLimit ++ " bytes."

structure Flags where
  /-- `i`: letter case plays no role. -/
  ignoreCase : Bool := false
  /-- `m`: `^` and `$` hold at the ends of lines. -/
  multiLine : Bool := false
  /-- `s`: `.` also matches a line feed. -/
  dotAll : Bool := false
  /-- `R`: lines may also end in a carriage return. -/
  anyLineEnd : Bool := false
  /-- `u`: named sets cover all scripts. -/
  anyScript : Bool := true
  /-- `x`: blanks and comments are skipped. -/
  verbose : Bool := false
  /-- Parts without a meaning are passed over. -/
  formOnly : Bool := false
  deriving DecidableEq, Repr

structure Piece where
  node : Node
  depth : Nat := 0
  room : Nat := 32

def skipComments : (inComment : Bool) → List Char → List Char
  | _, [] => []
  | true, c :: rest => skipComments (c != '\n') rest
  | false, c :: rest =>
      if Text.isBlank c then skipComments false rest
      else if c == '#' then skipComments true rest
      else c :: rest

def Flags.skip (flags : Flags) (input : List Char) : List Char :=
  if flags.verbose then skipComments false input else input

/-! ### Refusals -/

variable {α : Type}

def refuse (mistake : Mistake) (start stop : List Char) : Except Fault α :=
  .error { mistake, part := ⟨start, stop⟩ }

def refuseHere (mistake : Mistake) (input : List Char) : Except Fault α :=
  refuse mistake input input

def refuseNext (mistake : Mistake) (input : List Char) : Except Fault α :=
  refuse mistake input (input.drop 1)

def refuseAgain (mistake : Mistake) (earlier again : Part) : Except Fault α :=
  .error { mistake, part := again, earlier := some earlier }

/-- Takes the meaning of the part between two places. While only the form counts, `other` takes the
place of a missing one. -/
def Flags.take (flags : Flags) (other : α) (start stop : List Char) :
    Except Mistake α → Except Fault α
  | .ok meaning => .ok meaning
  | .error mistake => if flags.formOnly then .ok other else refuse mistake start stop

/-! ### Escapes -/

inductive Primitive where
  /-- A character; `isByte` when it is written as a byte in two hexadecimal digits. -/
  | literal (c : Char) (isByte : Bool)
  | set (set : CharSet)
  | anchor (anchor : Anchor)

def metaCharacters : List Char :=
  ['\\', '.', '+', '*', '?', '(', ')', '|', '[', ']', '\x7b', '\x7d', '^', '$', '#', '&', '-', '~']

def isEscapable (c : Char) : Bool :=
  metaCharacters.contains c ||
    (c.toNat < 128 && !c.isAlphanum && c != '<' && c != '>')

def charOf? (code : Nat) : Option Char :=
  if code.isValidChar then some (Char.ofNat code) else none

def readHexDigits (flags : Flags) :
    (count : Nat) → (high : Nat) → List Char → Except Fault (Nat × List Char)
  | 0, high, input => .ok (high, input)
  | _ + 1, _, [] => refuseHere .escapeEnds []
  | count + 1, high, c :: rest =>
      match Text.hexDigit? c with
      | none => refuseNext .codeDigit (c :: rest)
      | some digit => readHexDigits flags count (16 * high + digit) (flags.skip rest)

def readUntilBrace (flags : Flags) (accepts : Char → Bool) :
    (limit : Nat) → List Char → List Char × List Char
  | 0, input => ([], input)
  | limit + 1, input =>
      match flags.skip input with
      | [] => ([], [])
      | c :: rest =>
          if c == '\x7d' || !accepts c then ([], c :: rest)
          else
            let (chars, after) := readUntilBrace flags accepts limit rest
            (c :: chars, after)

def readBracedCode (flags : Flags) (brace : List Char) : Except Fault (Primitive × List Char) :=
  let inside := brace.drop 1
  let (digits, rest) := readUntilBrace flags (Text.hexDigit? · |>.isSome) brace.length inside
  match rest with
  | [] => refuse .escapeEnds brace []
  | '\x7d' :: after =>
      let stop := flags.skip after
      if digits.isEmpty then refuse .codeEmpty brace stop
      else
        match (Text.readHexFrom? 0 digits).bind charOf? with
        | some c => .ok (.literal c false, stop)
        | none => refuse .codeInvalid inside rest
  | _ => refuseNext .codeDigit rest

def readCode (flags : Flags) (count : Nat) (input : List Char) :
    Except Fault (Primitive × List Char) :=
  match flags.skip input with
  | [] => refuseHere .escapeEnds []
  | '\x7b' :: rest => readBracedCode flags ('\x7b' :: rest)
  | start => do
      let (code, stop) ← readHexDigits flags count 0 start
      match charOf? code with
      | some c => return (.literal c (count == 2), stop)
      | none => refuse .codeInvalid start stop

/-- Closes a set under letter case when the flags ask for it, then negates it. Without all scripts
no negated set is allowed, since it would hold bytes that are no characters. -/
def Flags.finish (flags : Flags) (negated : Bool) (set : CharSet) : Except Mistake CharSet :=
  let closed :=
    if !flags.ignoreCase then set
    else if flags.anyScript then .anyCase set
    else .anyAsciiCase set
  if !negated then .ok closed
  else if flags.anyScript then .ok (.complement closed)
  else .error .strayBytes

def cutAt (mark : List Char) : List Char → Option (List Char × List Char)
  | [] => none
  | c :: rest =>
      if mark.isPrefixOf (c :: rest) then some ([], (c :: rest).drop mark.length)
      else (cutAt mark rest).map fun (before, after) => (c :: before, after)

def setWithValue (property value : List Char) : Except Mistake CharSet :=
  match setValued? property value with
  | some set => .ok set
  | none => .error (if isPropertyName property then .propertyValueUnknown else .propertyUnknown)

def setWithName (name : List Char) : Except Mistake (CharSet × Bool) :=
  match cutAt ['!', '='] name with
  | some (property, value) => (setWithValue property value).map (·, true)
  | none =>
      match (cutAt [':'] name).or (cutAt ['='] name) with
      | some (property, value) => (setWithValue property value).map (·, false)
      | none =>
          match setNamed? name with
          | some set => .ok (set, false)
          | none => .error .propertyUnknown

def Flags.namedSet (flags : Flags) (negated : Bool) (name : List Char) : Except Mistake CharSet :=
  if !flags.anyScript then .error .scriptsNeeded
  else do
    let (set, inverted) ← setWithName name
    flags.finish (negated != inverted) set

def readSetName (flags : Flags) (input : List Char) : Except Fault (List Char × List Char) :=
  match flags.skip input with
  | [] => refuseHere .escapeEnds []
  | '\x7b' :: rest =>
      match readUntilBrace flags (fun _ => true) (rest.length + 1) rest with
      | (name, '\x7d' :: after) => .ok (name, after)
      | _ => refuseHere .escapeEnds []
  | c :: rest =>
      if c == '\\' then refuseNext .letterSetInvalid (c :: rest) else .ok ([c], flags.skip rest)

def readNamedSet (flags : Flags) (negated : Bool) (escape input : List Char) :
    Except Fault (Primitive × List Char) := do
  let (name, stop) ← readSetName flags input
  let set ← flags.take .nothing escape stop (flags.namedSet negated name)
  return (.set set, stop)

def Flags.letterSet (flags : Flags) (letter : Char) : Except Mistake CharSet :=
  let set? := fun any latin => if flags.anyScript then any else latin
  let set := match letter.toLower with
    | 'd' => set? CharSet.digit (.range '0' '9')
    | 's' => set? .blank (.unionOf [.range '\t' '\r', .single ' '])
    | _ => set? .word
        (.unionOf [.range '0' '9', .range 'A' 'Z', .single '_', .range 'a' 'z'])
  if !letter.isUpper then .ok set
  else if flags.anyScript then .ok (.complement set)
  else .error .strayBytes

def isBoundaryNamePart (c : Char) : Bool :=
  c.isAlpha || c == '-'

def boundaryNamed? (any : Bool) (name : List Char) : Option Anchor :=
  match String.ofList name with
  | "start" => some (.wordStart any)
  | "end" => some (.wordEnd any)
  | "start-half" => some (.wordStartHalf any)
  | "end-half" => some (.wordEndHalf any)
  | _ => none

/-- Reads the name of a word boundary in braces, if there is one. A repetition may stand there
instead. The escape starts at `escape`. -/
def readBoundary (flags : Flags) (escape input : List Char) :
    Except Fault (Primitive × List Char) :=
  let plain : Primitive := .anchor (.wordBoundary flags.anyScript)
  match input with
  | '\x7b' :: rest =>
      match flags.skip rest with
      | [] => refuse .boundaryEnds escape []
      | start@(c :: _) =>
          if !isBoundaryNamePart c then .ok (plain, input)
          else
            match readUntilBrace flags isBoundaryNamePart input.length start with
            | (name, '\x7d' :: after) =>
                match boundaryNamed? flags.anyScript name with
                | some anchor => .ok (.anchor anchor, after)
                | none => refuse .boundaryUnknown start ('\x7d' :: after)
            | (_, after) => refuse .boundaryUnclosed input after
  | _ => .ok (plain, input)

def readEscape (flags : Flags) (escape : List Char) : Except Fault (Primitive × List Char) :=
  match escape.drop 1 with
  | [] => refuse .escapeEnds escape []
  | c :: rest =>
      let any := flags.anyScript
      match c with
      | 'x' => readCode flags 2 rest
      | 'u' => readCode flags 4 rest
      | 'U' => readCode flags 8 rest
      | 'p' => readNamedSet flags false escape rest
      | 'P' => readNamedSet flags true escape rest
      | 'd' | 's' | 'w' | 'D' | 'S' | 'W' => do
          let set ← flags.take .nothing escape rest (flags.letterSet c)
          return (.set set, rest)
      | 'a' => .ok (.literal (Char.ofNat 7) false, rest)
      | 'f' => .ok (.literal (Char.ofNat 12) false, rest)
      | 't' => .ok (.literal '\t' false, rest)
      | 'n' => .ok (.literal '\n' false, rest)
      | 'r' => .ok (.literal '\r' false, rest)
      | 'v' => .ok (.literal (Char.ofNat 11) false, rest)
      | 'A' => .ok (.anchor .textStart, rest)
      | 'z' => .ok (.anchor .textEnd, rest)
      | 'B' => .ok (.anchor (.noWordBoundary any), rest)
      | '<' => .ok (.anchor (.wordStart any), rest)
      | '>' => .ok (.anchor (.wordEnd any), rest)
      | 'b' => readBoundary flags escape rest
      | _ =>
          if isEscapable c then .ok (.literal c false, rest)
          else if c.isDigit then refuse .backReference escape rest
          else refuse .escapeUnknown escape rest

/-! ### Sets between brackets -/

structure SetPiece where
  set : CharSet
  depth : Nat := 0

def SetPiece.join : List SetPiece → SetPiece
  | [] => ⟨.nothing, 0⟩
  | [piece] => piece
  | pieces =>
      ⟨.unionOf (pieces.map (·.set)), 1 + (pieces.map (·.depth)).foldl max 0⟩

inductive SetOperator where
  | intersection
  | difference
  | symmetricDifference

def SetPiece.combine (flags : Flags) (pending : Option (SetPiece × SetOperator))
    (right : SetPiece) : SetPiece :=
  match pending with
  | none => right
  | some (left, operator) =>
      let close := fun (set : CharSet) =>
        if !flags.ignoreCase then set
        else if flags.anyScript then .anyCase set
        else .anyAsciiCase set
      let set := match operator with
        | .intersection => .intersection (close left.set) (close right.set)
        | .difference => .difference (close left.set) (close right.set)
        | .symmetricDifference => .symmetricDifference (close left.set) (close right.set)
      ⟨set, 1 + max left.depth right.depth⟩

def readAsciiSet? (flags : Flags) (input : List Char) :
    Except Fault (Option (CharSet × List Char)) :=
  match input.drop 1 with
  | ':' :: rest =>
      let (negated, name) := match rest with
        | '^' :: name => (true, name)
        | name => (false, name)
      match cutAt [':'] name with
      | some (word, ']' :: after) =>
          match asciiSetNamed? word with
          | some set => do
              let set ← flags.take .nothing input after (flags.finish negated set)
              return some (set, after)
          | none => .ok none
      | _ => .ok none
  | _ => .ok none

structure SetItem where
  primitive : Primitive
  part : Part

def readSetItem (flags : Flags) (input : List Char) : Except Fault (SetItem × List Char) :=
  match input with
  | '\\' :: _ => do
      let (primitive, rest) ← readEscape flags input
      return (⟨primitive, ⟨input, rest⟩⟩, rest)
  | c :: rest => .ok (⟨.literal c false, ⟨input, rest⟩⟩, rest)
  | [] => refuseHere .escapeEnds []

def Flags.checkMember (flags : Flags) (c : Char) (isByte : Bool) : Except Mistake Char :=
  if flags.anyScript || c.toNat < 128 then .ok c
  else .error (if isByte then .strayBytes else .scriptsNeeded)

def SetItem.alone (flags : Flags) (item : SetItem) : Except Fault CharSet :=
  match item.primitive with
  | .set set => .ok set
  | .literal c isByte =>
      flags.take .nothing item.part.start item.part.stop
        ((flags.checkMember c isByte).map CharSet.single)
  | .anchor _ => refuse .setEscape item.part.start item.part.stop

def SetItem.bound (item : SetItem) : Except Fault (Char × Bool) :=
  match item.primitive with
  | .literal c isByte => .ok (c, isByte)
  | _ => refuse .rangeBound item.part.start item.part.stop

def SetItem.rangeTo (flags : Flags) (first last : SetItem) : Except Fault CharSet := do
  let (low, lowIsByte) ← first.bound
  let (high, highIsByte) ← last.bound
  if high < low then refuse .rangeReversed first.part.start last.part.stop
  else
    let low ← flags.take low first.part.start first.part.stop (flags.checkMember low lowIsByte)
    let high ← flags.take high last.part.start last.part.stop (flags.checkMember high highIsByte)
    return .range low high

def refuseUnclosed (opening : Part) : Except Fault α :=
  refuse .setUnclosed opening.start opening.stop

def readSetRange (flags : Flags) (opening : Part) (input : List Char) :
    Except Fault (SetPiece × List Char) := do
  let (first, rest) ← readSetItem flags input
  match flags.skip rest with
  | [] => refuseUnclosed opening
  | '-' :: after =>
      match flags.skip after with
      | [] => refuseUnclosed opening
      | ']' :: _ | '-' :: _ => return (⟨← first.alone flags, 0⟩, '-' :: after)
      | start =>
          let (last, rest) ← readSetItem flags start
          return (⟨← first.rangeTo flags last, 0⟩, rest)
  | rest => return (⟨← first.alone flags, 0⟩, rest)

def readHyphens (flags : Flags) (bracket : List Char) :
    (limit : Nat) → List Char → Except Fault (List SetPiece × List Char)
  | limit + 1, '-' :: rest =>
      match flags.skip rest with
      | [] => refuseHere .setUnclosed bracket
      | next => do
          let (pieces, after) ← readHyphens flags bracket limit next
          return (⟨.single '-', 0⟩ :: pieces, after)
  | _, input => .ok ([], input)

structure SetStart where
  negated : Bool
  items : List SetPiece
  opening : Part

def SetStart.rest (start : SetStart) : List Char :=
  start.opening.stop

def afterSetSign (flags : Flags) (bracket rest : List Char) : Except Fault (List Char) :=
  match flags.skip rest with
  | [] => refuse .setUnclosed bracket []
  | next => .ok next

def readNegation (flags : Flags) (bracket : List Char) :
    List Char → Except Fault (Bool × List Char)
  | '^' :: rest => (afterSetSign flags bracket rest).map (true, ·)
  | next => .ok (false, next)

def readSetStart (flags : Flags) (bracket : List Char) : Except Fault SetStart := do
  let next ← afterSetSign flags bracket (bracket.drop 1)
  let (negated, next) ← readNegation flags bracket next
  match ← readHyphens flags bracket next.length next with
  | ([], ']' :: rest) =>
      return ⟨negated, [⟨.single ']', 0⟩], bracket, ← afterSetSign flags bracket rest⟩
  | (pieces, next) => return ⟨negated, pieces, bracket, next⟩

/-- Reads the rest of a set up to its closing bracket. `items` are those read since the last
operation, in reverse order. -/
def readSet (flags : Flags) : (limit : Nat) → (start : SetStart) →
    (pending : Option (SetPiece × SetOperator)) → (items : List SetPiece) → List Char →
    Except Fault (SetPiece × List Char)
  | 0, start, _, _, _ => refuseUnclosed start.opening
  | limit + 1, start, pending, items, input =>
      let whole := SetPiece.combine flags pending (.join items.reverse)
      match flags.skip input with
      | [] => refuseUnclosed start.opening
      | ']' :: rest => do
          let set ← flags.take .nothing start.opening.start rest
            (flags.finish start.negated whole.set)
          return (⟨set, 1 + whole.depth⟩, rest)
      | '&' :: '&' :: rest => readSet flags limit start (some (whole, .intersection)) [] rest
      | '-' :: '-' :: rest => readSet flags limit start (some (whole, .difference)) [] rest
      | '~' :: '~' :: rest =>
          readSet flags limit start (some (whole, .symmetricDifference)) [] rest
      | '[' :: rest => do
          match ← readAsciiSet? flags ('[' :: rest) with
          | some (set, after) => readSet flags limit start pending (⟨set, 0⟩ :: items) after
          | none => do
              let inner ← readSetStart flags ('[' :: rest)
              let (piece, after) ← readSet flags limit inner none inner.items.reverse inner.rest
              readSet flags limit start pending (piece :: items) after
      | next => do
          let (piece, after) ← readSetRange flags start.opening next
          readSet flags limit start pending (piece :: items) after

/-! ### Groups and repetitions -/

def Flags.change? (flags : Flags) (value : Bool) : Char → Option Flags
  | 'i' => some { flags with ignoreCase := value }
  | 'm' => some { flags with multiLine := value }
  | 's' => some { flags with dotAll := value }
  | 'R' => some { flags with anyLineEnd := value }
  | 'u' => some { flags with anyScript := value }
  | 'x' => some { flags with verbose := value }
  | 'U' => some flags
  | _ => none

def nextPart (input : List Char) : Part :=
  ⟨input, input.drop 1⟩

/-- Reads flags up to a colon or a closing parenthesis, which is left. `seen` are the letters and
the hyphen read so far with where they stand, the last one first. Each may stand once, and the
hyphen not at the end. -/
def readFlags : (flags : Flags) → (seen : List (Char × Part)) → List Char →
    Except Fault (Flags × List (Char × Part) × List Char)
  | _, _, [] => refuseHere .flagEnds []
  | flags, seen, c :: rest =>
      let part := nextPart (c :: rest)
      if c == ':' || c == ')' then
        match seen with
        | ('-', hyphen) :: _ => refuse .negationDangling hyphen.start hyphen.stop
        | _ => .ok (flags, seen, c :: rest)
      else if c == '-' then
        match seen.lookup c with
        | some earlier => refuseAgain .negationRepeated earlier part
        | none => readFlags flags ((c, part) :: seen) rest
      else
        match flags.change? (seen.lookup '-').isNone c, seen.lookup c with
        | none, _ => refuseNext .flagUnknown (c :: rest)
        | some _, some earlier => refuseAgain .flagRepeated earlier part
        | some flags, none => readFlags flags ((c, part) :: seen) rest

def isGroupNamePart (first : Bool) (c : Char) : Bool :=
  if first then c == '_' || isAlphabetic c
  else c == '_' || c == '.' || c == '[' || c == ']' || Text.isAlphanumeric c

structure GroupName where
  name : List Char
  part : Part

inductive GroupStart where
  | flags (flags : Flags)
  /-- A group with its own flags; it is captured, perhaps under a name, or not. -/
  | group (flags : Flags) (name : Option GroupName) (captured : Bool)

def readNameParts (first : Bool) : List Char → Except Fault (List Char × List Char)
  | [] => refuseHere .groupNameEnds []
  | c :: rest =>
      if c == '>' then .ok ([], c :: rest)
      else if isGroupNamePart first c then do
        let (name, after) ← readNameParts false rest
        return (c :: name, after)
      else refuseNext .groupNameCharacter (c :: rest)

def readGroupName (input : List Char) : Except Fault (GroupName × List Char) := do
  let (name, stop) ← readNameParts true input
  if name.isEmpty then refuseHere .groupNameEmpty input
  else return (⟨name, input, stop⟩, stop.drop 1)

def afterLookAround? : List Char → Option (List Char)
  | '?' :: '=' :: rest | '?' :: '!' :: rest => some rest
  | '?' :: '<' :: '=' :: rest | '?' :: '<' :: '!' :: rest => some rest
  | _ => none

def readGroupStart (flags : Flags) (parenthesis : List Char) :
    Except Fault (GroupStart × List Char) :=
  let inside := flags.skip (parenthesis.drop 1)
  match afterLookAround? inside with
  | some stop => refuse .lookAround parenthesis stop
  | none =>
      match inside with
      | '?' :: 'P' :: '<' :: rest | '?' :: '<' :: rest => do
          let (name, after) ← readGroupName rest
          return (.group flags (some name) true, after)
      | ['?'] => refuseNext .groupUnclosed parenthesis
      | '?' :: rest => do
          let (changed, seen, after) ← readFlags flags [] rest
          match after with
          | ')' :: after =>
              if seen.isEmpty then refuseHere .repetitionMissing inside
              else return (.flags changed, after)
          | after => return (.group changed none false, after.drop 1)
      | _ => .ok (.group flags none true, inside)

def readDigits (flags : Flags) : (limit : Nat) → List Char → List Char × List Char
  | 0, input => ([], input)
  | limit + 1, input =>
      match input with
      | c :: rest =>
          if c.isDigit then
            let (digits, after) := readDigits flags limit (flags.skip rest)
            (c :: digits, after)
          else ([], input)
      | [] => ([], [])

def readCount (flags : Flags) (input : List Char) : Except Fault Nat × List Char :=
  let start := input.dropWhile Text.isBlank
  let (digits, after) := readDigits flags (start.length + 1) start
  let n := Text.decimalValue digits
  (if digits.isEmpty then refuse .countMissing start after
    else if countLimit < n then refuse .numberInvalid start after
    else .ok n,
    flags.skip (after.dropWhile Text.isBlank))

def dropLazyMark : List Char → List Char
  | '?' :: rest => rest
  | rest => rest

def closeCounts (flags : Flags) (brace : List Char) : List Char → Except Fault (List Char)
  | '\x7d' :: after => .ok (dropLazyMark (flags.skip after))
  | input => refuse .countUnclosed brace input

def readCounts (flags : Flags) (brace : List Char) :
    Except Fault ((Nat × Option Nat) × List Char) := do
  let inside := flags.skip (brace.drop 1)
  let (least, rest) := readCount flags inside
  match rest with
  | [] => refuse .countUnclosed brace []
  | ',' :: rest =>
      match flags.skip rest with
      | [] => refuse .countUnclosed brace []
      | '\x7d' :: after =>
          let stop ← closeCounts flags brace ('\x7d' :: after)
          return ((← least, none), stop)
      | start =>
          let least ← least
          let (most, rest) := readCount flags start
          let most ← most
          let stop ← closeCounts flags brace rest
          if most < least then refuse .countsReversed brace stop
          else return ((least, some (most - least)), stop)
  | rest =>
      let least ← least
      return ((least, some 0), ← closeCounts flags brace rest)

namespace Piece

def empty : Piece := ⟨.empty, 0, 32⟩

def ofSet (set : CharSet) : Piece := ⟨.char set, 0, set.room⟩

def ofLiteral (flags : Flags) (c : Char) (isByte : Bool) : Except Mistake Piece :=
  let single := CharSet.single c
  let room := if isByte then 32 else 32 * c.utf8Size
  if !flags.anyScript && isByte && 128 ≤ c.toNat then .error .strayBytes
  else if !flags.ignoreCase || (!flags.anyScript && 128 ≤ c.toNat) then
    .ok ⟨.char single, 0, room⟩
  else if flags.anyScript then .ok ⟨.char (.anyCase single), 0, 3 * room⟩
  else .ok ⟨.char (.anyAsciiCase single), 0, 3 * room⟩

def dot (flags : Flags) : Except Mistake Piece :=
  if !flags.anyScript then .error .strayBytes
  else if flags.dotAll then .ok (ofSet .everything)
  else if flags.anyLineEnd then
    .ok (ofSet (.complement (.union (.single '\r') (.single '\n'))))
  else .ok (ofSet (.complement (.single '\n')))

def ofAnchor (anchor : Anchor) : Piece := ⟨.anchor anchor, 0, 32⟩

def lineStart (flags : Flags) : Piece :=
  ofAnchor (if !flags.multiLine then .textStart
    else if flags.anyLineEnd then .anyLineStart else .lineStart)

def lineEnd (flags : Flags) : Piece :=
  ofAnchor (if !flags.multiLine then .textEnd
    else if flags.anyLineEnd then .anyLineEnd else .lineEnd)

def ofBrackets (piece : SetPiece) : Piece := ⟨.char piece.set, piece.depth, piece.set.room⟩

def group (captured : Bool) (piece : Piece) : Piece :=
  ⟨piece.node, 1 + piece.depth, piece.room + if captured then 64 else 0⟩

/-- A repetition. Repeating what consumes nothing more than once changes nothing. -/
def iterate (piece : Piece) (least : Nat) (extra : Option Nat) : Piece :=
  let (least, extra) :=
    if piece.node.consumesNothing then
      (min least 1, if least = 0 then some (min 1 (extra.getD 1)) else some 0)
    else (least, extra)
  let room := match extra with
    | none => max least 1 * piece.room + 72
    | some more => least * piece.room + more * (piece.room + 44) + 32
  ⟨.iterate piece.node least extra, 1 + piece.depth, room⟩

def concat : List Piece → Piece
  | [] => empty
  | [piece] => piece
  | pieces =>
      ⟨.seqOf (pieces.map (·.node)), 1 + (pieces.map (·.depth)).foldl max 0,
        (pieces.map (·.room)).foldl (· + ·) 0⟩

def alternatives : List Piece → Piece
  | [piece] => piece
  | pieces =>
      ⟨.altOf (pieces.map (·.node)), 1 + (pieces.map (·.depth)).foldl max 0,
        (pieces.map (·.room + 4)).foldl (· + ·) 64⟩

end Piece

def readPrimitive (flags : Flags) (input : List Char) : Except Fault (Piece × List Char) :=
  match input with
  | [] => refuseHere .escapeEnds []
  | '.' :: rest => do return (← flags.take .empty input rest (Piece.dot flags), rest)
  | '^' :: rest => .ok (.lineStart flags, rest)
  | '$' :: rest => .ok (.lineEnd flags, rest)
  | '\\' :: _ => do
      let (primitive, rest) ← readEscape flags input
      match primitive with
      | .literal c isByte =>
          return (← flags.take .empty input rest (Piece.ofLiteral flags c isByte), rest)
      | .set set => return (.ofSet set, rest)
      | .anchor anchor => return (.ofAnchor anchor, rest)
  | c :: rest => do
      return (← flags.take .empty input rest (Piece.ofLiteral flags c false), rest)

/-- The alternatives of a group. `done` are the branches before the current one and `items` the
constructs of the current one, both in reverse order. An item without a piece is a setting of flags,
which cannot be repeated. -/
structure Progress where
  done : List Piece := []
  items : List (Option Piece) := []
  names : List GroupName := []

namespace Progress

def branch (progress : Progress) : Piece :=
  .concat (progress.items.reverse.map fun item => item.getD .empty)

def whole (progress : Progress) : Piece :=
  .alternatives (progress.branch :: progress.done).reverse

def push (progress : Progress) (piece : Piece) : Progress :=
  { progress with items := some piece :: progress.items }

def next (progress : Progress) : Progress :=
  { progress with done := progress.branch :: progress.done, items := [] }

def repeatLast (progress : Progress) (sign : List Char) (least : Nat) (extra : Option Nat) :
    Except Fault Progress :=
  match progress.items with
  | some piece :: items =>
      .ok { progress with items := some (piece.iterate least extra) :: items }
  | _ => refuseHere .repetitionMissing sign

def addName (progress : Progress) : Option GroupName → Except Fault (List GroupName)
  | none => .ok progress.names
  | some name =>
      match progress.names.find? (·.name == name.name) with
      | some earlier => refuseAgain .groupNameRepeated earlier.part name.part
      | none => .ok (name :: progress.names)

end Progress

def readAlternatives : (limit : Nat) → Flags → (opened : Option (List Char)) → Progress →
    List Char → Except Fault (Progress × List Char)
  | 0, _, _, progress, input => .ok (progress, input)
  | limit + 1, flags, opened, progress, input =>
      match flags.skip input with
      | [] =>
          match opened with
          | some parenthesis => refuseNext .groupUnclosed parenthesis
          | none => .ok (progress, [])
      | ')' :: rest =>
          if opened.isSome then .ok (progress, rest) else refuseNext .groupUnopened (')' :: rest)
      | '|' :: rest => readAlternatives limit flags opened progress.next rest
      | '(' :: rest => do
          match ← readGroupStart flags ('(' :: rest) with
          | (.flags flags, rest) =>
              readAlternatives limit flags opened
                { progress with items := none :: progress.items } rest
          | (.group inner name captured, inside) =>
              let names ← progress.addName name
              let (group, rest) ←
                readAlternatives limit inner (some ('(' :: rest)) ⟨[], [], names⟩ inside
              readAlternatives limit flags opened
                { progress.push (.group captured group.whole) with names := group.names } rest
      | '[' :: rest => do
          let start ← readSetStart flags ('[' :: rest)
          let (set, rest) ←
            readSet flags (start.rest.length + 1) start none start.items.reverse start.rest
          readAlternatives limit flags opened (progress.push (.ofBrackets set)) rest
      | '?' :: rest => do
          let progress ← progress.repeatLast ('?' :: rest) 0 (some 1)
          readAlternatives limit flags opened progress (dropLazyMark rest)
      | '*' :: rest => do
          let progress ← progress.repeatLast ('*' :: rest) 0 none
          readAlternatives limit flags opened progress (dropLazyMark rest)
      | '+' :: rest => do
          let progress ← progress.repeatLast ('+' :: rest) 1 none
          readAlternatives limit flags opened progress (dropLazyMark rest)
      | '\x7b' :: rest => do
          let brace := '\x7b' :: rest
          discard (progress.repeatLast brace 0 none)
          let ((least, extra), rest) ← readCounts flags brace
          let progress ← progress.repeatLast brace least extra
          readAlternatives limit flags opened progress rest
      | start => do
          let (piece, rest) ← readPrimitive flags start
          readAlternatives limit flags opened (progress.push piece) rest

def readWhole (flags : Flags) (input : List Char) : Except Fault Piece :=
  (readAlternatives (input.length + 1) flags none {} input).map fun (progress, _) => progress.whole

def readPattern (ignoreCase : Bool) (input : List Char) : Except Fault Piece := do
  let form ← readWhole { ignoreCase, formOnly := true } input
  if depthLimit < form.depth then refuse (.tooDeep depthLimit) input []
  else readWhole { ignoreCase } input

def parse (text : String) (ignoreCase : Bool) : Except PatternError Node :=
  match readPattern ignoreCase text.toList with
  | .error fault => .error (.malformed text fault)
  | .ok piece => if roomLimit < piece.room then .error .tooLarge else .ok piece.node

end Gallery.Host.Regex
