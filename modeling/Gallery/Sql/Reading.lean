import Gallery.Sql.Expression
import Gallery.Sql.Token

/-!
Reading expressions from tokens. From weakest to strongest, the operators are `OR`, `AND`, the
prefix `NOT`, equality, order, sum, product, joining of texts, and the prefix minus. Operators of
one strength group to the left.
-/

namespace Gallery.Sql

structure Unread where
  tokens : List Token
  parameters : List String

abbrev Read (α : Type) := Option (α × Unread)

/-- The strengths of operators, weakest first. -/
inductive Strength where
  | or
  | and
  | not
  | equality
  | order
  | sum
  | product
  | join
  | minus
  | operand
  deriving DecidableEq, Repr

def Strength.next : Strength → Strength
  | or => and
  | and => not
  | not => equality
  | equality => order
  | order => sum
  | sum => product
  | product => join
  | join => minus
  | minus | operand => operand

def keywords : List String :=
  ["AND", "AS", "EXISTS", "FROM", "IS", "LIKE", "NOT", "NULL", "OR", "SELECT", "WHERE"]

def Token.keyword? : Token → Option String
  | .word spelling =>
      let upper := spelling.map Char.toUpper
      if keywords.contains upper then some upper else none
  | _ => none

def Token.name? : Token → Option String
  | .word spelling => if keywords.contains (spelling.map Char.toUpper) then none else some spelling
  | .name quoted => some quoted
  | _ => none

def operator? (strength : Strength) (tokens : List Token) :
    Option ((Expression → Expression → Expression) × List Token) :=
  match tokens with
  | [] => none
  | token :: rest =>
      match strength, token.keyword?, token with
      | .or, some "OR", _ => some (.or, rest)
      | .and, some "AND", _ => some (.and, rest)
      | .equality, some "LIKE", _ => some (.like, rest)
      | .equality, some "IS", _ =>
          match rest with
          | second :: after =>
              if second.keyword? = some "NOT" then some (.distinct, after) else some (.same, rest)
          | [] => none
      | .equality, _, .sign "=" | .equality, _, .sign "==" => some (.compare .equal, rest)
      | .equality, _, .sign "<>" | .equality, _, .sign "!=" => some (.compare .different, rest)
      | .order, _, .sign "<" => some (.compare .less, rest)
      | .order, _, .sign "<=" => some (.compare .atMost, rest)
      | .order, _, .sign ">" => some (.compare .greater, rest)
      | .order, _, .sign ">=" => some (.compare .atLeast, rest)
      | .sum, _, .sign "+" => some (.arithmetic .add, rest)
      | .sum, _, .sign "-" => some (.arithmetic .subtract, rest)
      | .product, _, .sign "*" => some (.arithmetic .multiply, rest)
      | .product, _, .sign "/" => some (.arithmetic .divide, rest)
      | .product, _, .sign "%" => some (.arithmetic .remainder, rest)
      | .join, _, .sign "||" => some (.join, rest)
      | _, _, _ => none

def readSign (text : String) (unread : Unread) : Read Unit :=
  match unread.tokens with
  | .sign found :: rest => if found = text then some ((), { unread with tokens := rest }) else none
  | _ => none

def readKeyword (text : String) (unread : Unread) : Read Unit :=
  match unread.tokens with
  | token :: rest =>
      if token.keyword? = some text then some ((), { unread with tokens := rest }) else none
  | [] => none

def readName (unread : Unread) : Read String :=
  match unread.tokens with
  | token :: rest => token.name?.map fun name => (name, { unread with tokens := rest })
  | [] => none

def readRowName (table : String) (unread : Unread) : Read String :=
  match readKeyword "AS" unread with
  | some (_, unread) => readName unread
  | none => some ((readName unread).getD (table, unread))

def isRowCount (tokens : List Token) : Bool :=
  match tokens with
  | .word name :: .sign "(" :: .sign "*" :: .sign ")" :: _ => name.map Char.toUpper = "COUNT"
  | _ => false

mutual

/-- Reads an expression whose operators outside parentheses have at least the given strength. Every
call takes one step of `fuel`. -/
def readFrom : (fuel : Nat) → Strength → Unread → Read Expression
  | 0, _, _ => none
  | fuel + 1, .not, unread =>
      match readKeyword "NOT" unread with
      | some (_, unread) =>
          (readFrom fuel .not unread).map fun (operand, unread) => (.not operand, unread)
      | none => readFrom fuel .equality unread
  | fuel + 1, .minus, unread =>
      match readSign "-" unread with
      | some (_, unread) =>
          (readFrom fuel .minus unread).map fun (operand, unread) =>
            (.arithmetic .subtract (.value (.integer 0)) operand, unread)
      | none => readFrom fuel .operand unread
  | fuel + 1, .operand, unread => readOperand fuel unread
  | fuel + 1, strength, unread =>
      match readFrom fuel strength.next unread with
      | none => none
      | some (left, unread) => readFurther fuel strength left unread

def readFurther : (fuel : Nat) → Strength → Expression → Unread → Read Expression
  | 0, _, _, _ => none
  | fuel + 1, strength, left, unread =>
      match operator? strength unread.tokens with
      | none => some (left, unread)
      | some (build, rest) =>
          match readFrom fuel strength.next { unread with tokens := rest } with
          | none => none
          | some (right, unread) => readFurther fuel strength (build left right) unread

def readOperand : (fuel : Nat) → Unread → Read Expression
  | 0, _ => none
  | fuel + 1, unread =>
      match unread.tokens with
      | [] => none
      | token :: rest =>
          let after : Unread := { unread with tokens := rest }
          match token with
          | .text text => some (.value (.text text), after)
          | .number numeral => some (.value (numeral.value false), after)
          | .mark =>
              match unread.parameters with
              | [] => some (.value .null, after)
              | value :: values => some (.value (.text value), ⟨rest, values⟩)
          | .sign "(" =>
              match readKeyword "SELECT" after with
              | some (_, after) => readSelection fuel .firstResult after
              | none =>
                  match readFrom fuel .or after with
                  | none => none
                  | some (inner, unread) =>
                      (readSign ")" unread).map fun (_, unread) => (inner, unread)
          | .sign _ => none
          | .word _ | .name _ =>
              match token.keyword? with
              | some "NULL" => some (.value .null, after)
              | some "NOT" => readFrom fuel .not unread
              | some "EXISTS" =>
                  match (readSign "(" after).bind fun (_, after) => readKeyword "SELECT" after with
                  | some (_, after) => readSelection fuel .anyRow after
                  | none => none
              | some _ => none
              | none =>
                  match readName unread with
                  | none => none
                  | some (name, unread) => readAfterName fuel name unread

def readAfterName : (fuel : Nat) → String → Unread → Read Expression
  | 0, _, _ => none
  | fuel + 1, name, unread =>
      match readSign "(" unread with
      | some (_, unread) =>
          match readSign ")" unread with
          | some (_, unread) => some (.call name [], unread)
          | none =>
              (readArguments fuel unread).map fun (arguments, unread) =>
                (.call name arguments, unread)
      | none =>
          match readSign "." unread with
          | some (_, unread) =>
              (readName unread).map fun (column, unread) => (.column (some name) column, unread)
          | none => some (.column none name, unread)

def readArguments : (fuel : Nat) → Unread → Read (List Expression)
  | 0, _ => none
  | fuel + 1, unread =>
      match readFrom fuel .or unread with
      | none => none
      | some (first, unread) =>
          match readSign "," unread with
          | some (_, unread) =>
              (readArguments fuel unread).map fun (others, unread) => (first :: others, unread)
          | none => (readSign ")" unread).map fun (_, unread) => ([first], unread)

def readSelection : (fuel : Nat) → Yield → Unread → Read Expression
  | 0, _, _ => none
  | fuel + 1, yield, unread =>
      let counts := isRowCount unread.tokens
      let head :=
        if counts then some (.value (.integer 1), { unread with tokens := unread.tokens.drop 4 })
        else readFrom fuel .or unread
      match head.bind fun (result, unread) =>
          (readKeyword "FROM" unread).bind fun (_, unread) =>
            (readName unread).bind fun (table, unread) =>
              (readRowName table unread).map fun (row, unread) => (result, table, row, unread) with
      | none => none
      | some (result, table, row, unread) =>
          let yield := if counts && yield = .firstResult then .rowCount else yield
          match readKeyword "WHERE" unread with
          | none =>
              (readSign ")" unread).map fun (_, unread) =>
                (.select yield result table row (.value (.integer 1)), unread)
          | some (_, unread) =>
              match readFrom fuel .or unread with
              | none => none
              | some (condition, unread) =>
                  (readSign ")" unread).map fun (_, unread) =>
                    (.select yield result table row condition, unread)

end

/-- Reads a whole text as an expression, with the values of its parameter marks in order. No token
is visited more than a dozen times. -/
def Expression.read (text : List Char) (parameters : List String) : Option Expression :=
  match tokens text with
  | none => none
  | some tokens =>
      match readFrom (12 * (tokens.length + 1)) .or ⟨tokens, parameters⟩ with
      | some (expression, ⟨[], _⟩) => some expression
      | _ => none

end Gallery.Sql
