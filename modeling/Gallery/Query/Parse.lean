import Gallery.Query.Expr
import Gallery.Query.SyntaxError

/-!
Reading a query.

    query   ::= all { OR all }
    all     ::= operand { [AND] operand }
    operand ::= (NOT | '-') operand | '(' query ')' | '#' name [':' argument] | [symbol] label

Each construct is read from a list of characters and leaves a rest. A construct that does not start
at the input is absent, so that a chain of operands ends there; one that has started and goes wrong
is broken, and so is the whole query. At most `maxNesting` groups and negations enclose an operand.
-/

namespace Gallery.Query

def maxNesting : Nat := 64

inductive Reading (α : Type) where
  | found (value : α) (rest : List Char)
  /-- The construct does not start here. -/
  | absent (error : SyntaxError)
  /-- The construct has started and cannot be completed. -/
  | broken (error : SyntaxError)
  deriving DecidableEq, Repr

namespace Reading

variable {α β : Type}

def andThen (reading : Reading α) (next : α → List Char → Reading β) : Reading β :=
  match reading with
  | found value rest => next value rest
  | absent error => absent error
  | broken error => broken error

def map (f : α → β) (reading : Reading α) : Reading β :=
  reading.andThen fun value rest => found (f value) rest

def required : Reading α → Reading α
  | found value rest => found value rest
  | absent error => broken error
  | broken error => broken error

def optional (input : List Char) : Reading α → Reading (Option α)
  | found value rest => found (some value) rest
  | absent _ => found none input
  | broken error => broken error

end Reading

def skipGaps (input : List Char) : List Char :=
  input.dropWhile isGap

def afterWord? : (word input : List Char) → Option (List Char)
  | [], input => some input
  | _ :: _, [] => none
  | expected :: word, c :: input => if c = expected then afterWord? word input else none

def startsInLabel (input : List Char) : Bool :=
  input.head?.any isLabelChar

def afterKeyword? (word input : List Char) : Option (List Char) :=
  match afterWord? word (skipGaps input) with
  | some rest => if startsInLabel rest then none else some (skipGaps rest)
  | none => none

def afterNegation? (input : List Char) : Option (List Char) :=
  match afterKeyword? ['N', 'O', 'T'] input with
  | some rest => some rest
  | none => (afterWord? ['-'] (skipGaps input)).map skipGaps

def readRun (p : Char → Bool) (input : List Char) : Reading (List Char) :=
  match input.takeWhile p with
  | [] => .absent (.missing input)
  | c :: run => .found (c :: run) (input.dropWhile p)

def readLabel (input : List Char) : Reading String :=
  (readRun isLabelChar input).andThen fun run rest =>
    if isKeyword (String.ofList run) then .absent (.missing input)
    else .found (String.ofList run) rest

def readReference : List Char → Reading Expr
  | [] => .absent (.missing [])
  | c :: rest =>
      if isTypeSymbol c then (readLabel rest).map (Expr.tag · (some c))
      else (readLabel (c :: rest)).map (Expr.tag · none)

/-- Reads quoted text up to the closing quote. A backslash stands before a quote or a backslash that
is meant; before any other character it is kept. -/
def readQuoted? : List Char → Option (List Char × List Char)
  | [] => none
  | '"' :: rest => some ([], rest)
  | '\\' :: [] => none
  | '\\' :: c :: rest =>
      (readQuoted? rest).map fun (text, after) =>
        if c = '"' ∨ c = '\\' then (c :: text, after) else ('\\' :: c :: text, after)
  | c :: rest => (readQuoted? rest).map fun (text, after) => (c :: text, after)

def readCaseFlag : List Char → Option Bool × List Char
  | 'i' :: rest => (some false, rest)
  | 's' :: rest => (some true, rest)
  | rest => (none, rest)

/-- Reads the argument of a pseudo-tag. A label character must not follow a quoted argument. -/
def readArgument (input : List Char) : Reading Argument :=
  match input with
  | '"' :: body =>
      match readQuoted? body with
      | none => .broken ⟨.unterminatedString, input⟩
      | some (text, after) =>
          if startsInLabel (readCaseFlag after).2 then .absent (.missing input)
          else .found ⟨String.ofList text, (readCaseFlag after).1⟩ (readCaseFlag after).2
  | _ => (readRun isBareChar input).map fun run => ⟨String.ofList run, none⟩

def readArgumentPart (input : List Char) : Reading (Option Argument) :=
  match input with
  | ':' :: rest => (readArgument rest).required.map some
  | _ => .found none input

def readInvocation (input : List Char) : Reading Expr :=
  (readRun isLabelChar input).required.andThen fun name rest =>
    (readArgumentPart rest).map (Expr.pseudo (String.ofList name))

/-- Reads further operands of a chain that has begun with `left`, each after a separator. `limit`
bounds their number. -/
def readChain (separator : List Char → Option (List Char)) (item : List Char → Reading Expr)
    (join : Expr → Expr → Expr) : (limit : Nat) → Expr → List Char → Reading Expr
  | 0, left, input => .found left input
  | limit + 1, left, input =>
      match separator input with
      | none => .found left input
      | some start =>
          match item start with
          | .found right rest => readChain separator item join limit (join left right) rest
          | .absent _ => .found left input
          | .broken error => .broken error

def readAll (limit : Nat) (operand : List Char → Reading Expr) (input : List Char) :
    Reading Expr :=
  (operand input).andThen
    (readChain (fun rest => some ((afterKeyword? ['A', 'N', 'D'] rest).getD rest)) operand .and
      limit)

def readQuery (limit : Nat) (operand : List Char → Reading Expr) (input : List Char) :
    Reading Expr :=
  (readAll limit operand input).andThen
    (readChain (afterKeyword? ['O', 'R']) (readAll limit operand) .or limit)

def readGroup (query : List Char → Reading Expr) (body : List Char) : Reading Expr :=
  match query body with
  | .found expr rest =>
      match skipGaps rest with
      | ')' :: after => .found expr (skipGaps after)
      | _ => .broken ⟨.unbalancedParenthesis, rest⟩
  | .absent _ => .broken ⟨.expectedExpression, body⟩
  | .broken error => .broken error

def readLeaf (input : List Char) : Reading Expr :=
  (match input with
    | '#' :: rest => readInvocation rest
    | _ => readReference input).andThen fun expr rest => .found expr (skipGaps rest)

/-- Reads an operand that may be enclosed by `room` more groups and negations. `limit` bounds the
length of a chain. -/
def readOperand (limit : Nat) : (room : Nat) → List Char → Reading Expr
  | room, input =>
      match afterNegation? input, room with
      | some rest, 0 => .broken ⟨.tooDeep, rest⟩
      | some rest, room + 1 => ((readOperand limit room rest).required).map .not
      | none, room =>
          match skipGaps input, room with
          | '(' :: body, 0 => .broken ⟨.tooDeep, body⟩
          | '(' :: body, room + 1 => readGroup (readQuery limit (readOperand limit room)) body
          | start, _ => readLeaf start

/-- Reads the text of a query. White space of any script may follow it. -/
def parse (text : String) : Except SyntaxError Expr :=
  let input := text.toList
  match readQuery input.length (readOperand input.length maxNesting) input with
  | .found expr rest =>
      match Text.trimStart rest with
      | [] => .ok expr
      | ')' :: after => .error ⟨.unbalancedParenthesis, ')' :: after⟩
      | c :: after => .error ⟨.unexpectedToken, c :: after⟩
  | .absent error => .error error
  | .broken error => .error error

end Gallery.Query
