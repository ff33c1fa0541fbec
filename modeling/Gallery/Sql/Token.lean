import Gallery.Sql.Numeral

/-!
The tokens of an expression.
-/

namespace Gallery.Sql

inductive Token where
  | word (text : String)
  | name (text : String)
  | text (text : String)
  | number (numeral : Numeral)
  | mark
  | sign (text : String)
  deriving DecidableEq, Repr

def isWordStart (c : Char) : Bool :=
  c.isAlpha || c == '_' || 128 ≤ c.toNat

def isWordPart (c : Char) : Bool :=
  isWordStart c || c.isDigit

def isSpace (c : Char) : Bool :=
  c == ' ' || c == '\t' || c == '\n' || c == '\x0c' || c == '\r'

def longSigns : List (Char × Char) :=
  [('=', '='), ('<', '>'), ('!', '='), ('<', '='), ('>', '='), ('|', '|')]

def readQuoted (quote : Char) : List Char → Option (List Char × List Char)
  | [] => none
  | [c] => if c = quote then some ([], []) else none
  | c :: d :: rest =>
      if c = quote then
        if d = quote then (readQuoted quote rest).map fun (text, after) => (c :: text, after)
        else some ([], d :: rest)
      else (readQuoted quote (d :: rest)).map fun (text, after) => (c :: text, after)

def readNumber (input : List Char) : Option (Token × List Char) :=
  match Numeral.read? input with
  | some (numeral, rest) => if rest.head?.any isWordPart then none else some (.number numeral, rest)
  | none => none

def readToken (c : Char) (rest : List Char) : Option (Token × List Char) :=
  if c = '\x27' then
    (readQuoted '\x27' rest).map fun (text, after) => (.text (String.ofList text), after)
  else if c = '"' then
    (readQuoted '"' rest).map fun (text, after) => (.name (String.ofList text), after)
  else if c = '?' then some (.mark, rest)
  else if c.isDigit || (c == '.' && rest.head?.any Char.isDigit) then readNumber (c :: rest)
  else if isWordStart c then
    some (.word (String.ofList (c :: rest.takeWhile isWordPart)), rest.dropWhile isWordPart)
  else
    match rest with
    | d :: after =>
        if longSigns.contains (c, d) then some (.sign (String.ofList [c, d]), after)
        else some (.sign c.toString, rest)
    | [] => some (.sign c.toString, rest)

/-- Cuts an input into tokens. Every token takes a character, so `steps` need be no more than there
are characters. -/
def tokensWithin : (steps : Nat) → List Char → Option (List Token)
  | _, [] => some []
  | 0, _ => none
  | steps + 1, c :: rest =>
      if isSpace c then tokensWithin steps rest
      else
        match readToken c rest with
        | none => none
        | some (token, after) => (tokensWithin steps after).map (token :: ·)

def tokens (text : List Char) : Option (List Token) :=
  tokensWithin text.length text

end Gallery.Sql
