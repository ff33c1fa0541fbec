import Gallery.Text.Alphanumeric
import Gallery.Text.Blank
import Gallery.Text.RawText

/-!
Files that set variables, one on each line: a name, an equals sign, and a value, which can be
quoted, go on over several lines when it is, use escapes, and mention other variables after a dollar
sign. A number sign starts a comment. Reading stops at the first line that is none of this.
-/

namespace Gallery.VariableFile

/-! Lines -/

inductive LineState where
  | plain
  | space
  | escape
  | doubleQuoted
  | doubleQuotedEscape
  | singleQuoted
  | singleQuotedEscape
  deriving DecidableEq, Repr

def physicalLines (line : List Char) : List Char → List (List Char)
  | [] => if line.isEmpty then [] else [line.reverse]
  | '\n' :: rest => ('\n' :: line).reverse :: physicalLines [] rest
  | c :: rest => physicalLines (c :: line) rest

def startOf : Char → LineState
  | '\\' => .escape
  | '"' => .doubleQuoted
  | '\x27' => .singleQuoted
  | _ => .plain

/-- Reads a line: the state at its end, or none and what stands before a comment. -/
def scanLine (before : List Char) (state : LineState) : List Char → Option LineState × List Char
  | [] => (some state, before.reverse)
  | c :: rest =>
      match state with
      | .space =>
          if c = '#' then (none, before.reverse) else scanLine (c :: before) (startOf c) rest
      | .escape => scanLine (c :: before) .plain rest
      | .plain =>
          let next := if Text.isBlank c && c != '\n' && c != '\r' then LineState.space
            else startOf c
          scanLine (c :: before) next rest
      | .doubleQuoted =>
          scanLine (c :: before)
            (if c = '\\' then .doubleQuotedEscape
              else if c = '"' then .plain else .doubleQuoted) rest
      | .doubleQuotedEscape => scanLine (c :: before) .doubleQuoted rest
      | .singleQuoted =>
          scanLine (c :: before)
            (if c = '\\' then .singleQuotedEscape else if c = '\x27' then .plain
              else .singleQuoted) rest
      | .singleQuotedEscape => scanLine (c :: before) .singleQuoted rest

def withoutEnd (line : List Char) : List Char :=
  match line.reverse with
  | '\n' :: '\r' :: rest | '\n' :: rest => rest.reverse
  | _ => line

def logicalLines (before : List Char) (state : LineState) :
    List (List Char) → List (Option (List Char))
  | [] => if before.isEmpty then [] else [none]
  | line :: rest =>
      if (Text.trimStart (before ++ line)).head? = some '#' then
        some [] :: logicalLines [] .plain rest
      else
        match scanLine [] state line with
        | (none, kept) => some (before ++ kept) :: logicalLines [] .plain rest
        | (some .plain, _) => some (withoutEnd (before ++ line)) :: logicalLines [] .plain rest
        | (some state, _) => logicalLines (before ++ line) state rest

/-! Values -/

inductive Mention where
  | absent
  | bare (name : List Char)
  | braced (name : List Char)
  deriving DecidableEq, Repr

structure ValueState where
  /-- The value so far, backwards. -/
  output : List Char
  singleQuoted : Bool
  doubleQuoted : Bool
  escaped : Bool
  /-- Whether only spaces and a comment may follow. -/
  ended : Bool
  mention : Mention

def ValueState.start : ValueState := ⟨[], false, false, false, false, .absent⟩

def ValueState.addVariable (s : ValueState) (valueOf : String → String) (name : List Char) :
    ValueState :=
  { s with
    output := (valueOf (String.ofList name.reverse)).toList.reverse ++ s.output
    mention := .absent }

def ValueState.step (s : ValueState) (valueOf : String → String) (c : Char) : Option ValueState :=
  let push := fun (s : ValueState) (c : Char) => { s with output := c :: s.output }
  if s.ended then (if c = ' ' ∨ c = '\t' then some s else none)
  else if s.escaped then
    let s := { s with escaped := false }
    if ['\\', '\x27', '"', '$', ' '].contains c then some (push s c)
    else if c = 'n' then some (push s '\n')
    else none
  else if s.singleQuoted then
    some (if c = '\x27' then { s with singleQuoted := false } else push s c)
  else
    match s.mention with
    | .bare name =>
        if Text.isAlphanumeric c then some { s with mention := .bare (c :: name) }
        else if c = '\x7b' ∧ name.isEmpty then some { s with mention := .braced [] }
        else
          let s := s.addVariable valueOf name
          some (if c = '$' then { s with mention := .bare [] } else push s c)
    | .braced name =>
        if c = '\x7d' then some (s.addVariable valueOf name)
        else some { s with mention := .braced (c :: name) }
    | .absent =>
        some (if c = '$' then { s with mention := .bare [] }
          else if s.doubleQuoted then
            (if c = '"' then { s with doubleQuoted := false }
              else if c = '\\' then { s with escaped := true } else push s c)
          else if c = '\x27' then { s with singleQuoted := true }
          else if c = '"' then { s with doubleQuoted := true }
          else if c = '\\' then { s with escaped := true }
          else if c = ' ' ∨ c = '\t' then { s with ended := true }
          else push s c)

def ValueState.finish (s : ValueState) (valueOf : String → String) : Option String :=
  let text := fun (s : ValueState) => some (String.ofList s.output.reverse)
  if s.singleQuoted || s.doubleQuoted then none
  else
    match s.mention with
    | .braced _ => none
    | .bare name => text (s.addVariable valueOf name)
    | .absent => text s

def readValue (valueOf : String → String) (s : ValueState) : List Char → Option String
  | [] => s.finish valueOf
  | c :: rest =>
      if s.ended && c == '#' then s.finish valueOf
      else
        match s.step valueOf c with
        | some s => readValue valueOf s rest
        | none => none

/-! Variables -/

def readName (line : List Char) : Option (String × List Char) :=
  match line with
  | c :: _ =>
      if c.isAlpha || c == '_' then
        let isPart := fun (c : Char) => c.isAlphanum || c == '_' || c == '.'
        some (String.ofList (line.takeWhile isPart), Text.trimStart (line.dropWhile isPart))
      else none
  | [] => none

def readTarget (line : List Char) : Option (String × List Char) :=
  match readName line with
  | some (name, '=' :: rest) => some (name, rest)
  | some ("export", rest) =>
      match readName rest with
      | some (name, '=' :: rest) => some (name, rest)
      | _ => none
  | _ => none

def readLine (valueOf : String → String) (line : List Char) : Option (Option (String × String)) :=
  match Text.trimStart line with
  | [] | '#' :: _ => some none
  | line =>
      match readTarget line with
      | none => none
      | some (name, rest) =>
          match Text.trimStart rest with
          | [] | '#' :: _ => some (some (name, ""))
          | value => (readValue valueOf .start value).map fun value => some (name, value)

/-- The variables that lines set, up to the first line that is none. A variable that is mentioned
has the value that `outer` gives it, or else the last value that the lines before gave it. -/
def readLines (outer : String → Option String) (before : List (String × String)) :
    List (Option (List Char)) → List (String × String)
  | [] | none :: _ => before.reverse
  | some line :: rest =>
      let valueOf := fun name => (outer name).getD ((before.lookup name).getD "")
      match readLine valueOf line with
      | none => before.reverse
      | some none => readLines outer before rest
      | some (some entry) => readLines outer (entry :: before) rest

def readableText (content : Text.RawText) : List Char :=
  match (Text.pieces content).span fun piece => piece.char?.isSome with
  | (all, []) => all.filterMap Text.Piece.char?
  | (before, _) =>
      ((before.filterMap Text.Piece.char?).reverse.dropWhile (· != '\n')).reverse

def read (outer : String → Option String) (content : Text.RawText) : List (String × String) :=
  let text := match readableText content with
    | '\ufeff' :: rest => rest
    | all => all
  readLines outer [] (logicalLines [] .plain (physicalLines [] text))

/-- The value of a variable that is set already, or else by a file. The first value counts. -/
def valueOf? (outer : String → Option String) (entries : List (String × String)) (name : String) :
    Option String :=
  (outer name).or (entries.lookup name)

end Gallery.VariableFile
