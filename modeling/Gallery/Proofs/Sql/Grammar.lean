import Mathlib.Data.List.Basic
import Gallery.Sql.Reading

/-!
The grammar of expressions, said without a reader: which tokens stand for which expression at which
strength. Operators of one strength are not chained; what statements are built from puts
parentheses there. Whatever the grammar gives is what the reader reads, in every context.
-/

namespace Gallery.Sql

/-- The place of a strength in the order of strengths. -/
def Strength.rank : Strength → Nat
  | or => 0
  | and => 1
  | not => 2
  | equality => 3
  | order => 4
  | sum => 5
  | product => 6
  | join => 7
  | minus => 8
  | operand => 9

theorem Strength.rank_le (strength : Strength) : strength.rank ≤ 9 := by
  cases strength <;> decide

theorem Strength.rank_next (strength : Strength) (inner : strength ≠ .operand) :
    strength.next.rank = strength.rank + 1 := by
  cases strength with
  | operand => exact absurd rfl inner
  | or | and | not | equality | order | sum | product | join | minus => rfl

/-- Whether the operators of a strength stand between two operands. -/
def Strength.IsInfix (strength : Strength) : Prop :=
  strength ≠ .not ∧ strength ≠ .minus ∧ strength ≠ .operand

/-- What may follow an expression that is read at the given strength: nothing that continues it. -/
structure Stops (strength : Strength) (rest : List Token) : Prop where
  operator : ∀ other, strength.rank ≤ other.rank → operator? other rest = none
  call : rest.head? ≠ some (.sign "(")
  row : rest.head? ≠ some (.sign ".")

/-- The name of the rows of a table, with the tokens that give it. -/
inductive RowName (table : String) : List Token → String → Prop where
  | own : RowName table [] table
  | given (keyword token : Token) (row : String) (as : keyword.keyword? = some "AS")
      (named : token.name? = some row) : RowName table [keyword, token] row

/-- The parts of a statement that are read on their own. -/
inductive Part where
  | expression (strength : Strength)
  /-- The arguments of a call, with the closing parenthesis. -/
  | arguments
  /-- A selection after its first word, with the closing parenthesis. -/
  | selection (yield : Yield)

/-- `Written part tokens parameters results`: the tokens, with the values of the parameter marks
among them, stand for the results. Only arguments may be several. -/
inductive Written : Part → List Token → List String → List Expression → Prop where
  | text (text : String) :
      Written (.expression .operand) [.text text] [] [.value (.text text)]
  | number (numeral : Numeral) :
      Written (.expression .operand) [.number numeral] [] [.value (numeral.value false)]
  | mark (value : String) : Written (.expression .operand) [.mark] [value] [.value (.text value)]
  | null (token : Token) (keyword : token.keyword? = some "NULL") :
      Written (.expression .operand) [token] [] [.value .null]
  | column (token : Token) (name : String) (named : token.name? = some name) :
      Written (.expression .operand) [token] [] [.column none name]
  | rowColumn (rowToken token : Token) (row name : String) (rowNamed : rowToken.name? = some row)
      (named : token.name? = some name) :
      Written (.expression .operand) [rowToken, .sign ".", token] [] [.column (some row) name]
  | call (token : Token) (name : String) (tokens : List Token) (parameters : List String)
      (arguments : List Expression) (named : token.name? = some name)
      (inside : Written .arguments tokens parameters arguments) :
      Written (.expression .operand) (token :: .sign "(" :: tokens) parameters
        [.call name arguments]
  | group (tokens : List Token) (parameters : List String) (inner : Expression)
      (plain : ∀ token ∈ tokens.head?, token.keyword? ≠ some "SELECT")
      (inside : Written (.expression .or) tokens parameters [inner]) :
      Written (.expression .operand) (.sign "(" :: (tokens ++ [.sign ")"])) parameters [inner]
  | choose (select : Token) (tokens : List Token) (parameters : List String) (result : Expression)
      (keyword : select.keyword? = some "SELECT")
      (inside : Written (.selection .firstResult) tokens parameters [result]) :
      Written (.expression .operand) (.sign "(" :: select :: tokens) parameters [result]
  | exist (first select : Token) (tokens : List Token) (parameters : List String)
      (result : Expression) (exists_ : first.keyword? = some "EXISTS")
      (keyword : select.keyword? = some "SELECT")
      (inside : Written (.selection .anyRow) tokens parameters [result]) :
      Written (.expression .operand) (first :: .sign "(" :: select :: tokens) parameters [result]
  | raise (strength : Strength) (tokens : List Token) (parameters : List String)
      (result : Expression)
      (plain : strength = .not → ∀ token ∈ tokens.head?, token.keyword? ≠ some "NOT")
      (unsigned : strength = .minus → ∀ token ∈ tokens.head?, token ≠ .sign "-")
      (inside : Written (.expression strength.next) tokens parameters [result]) :
      Written (.expression strength) tokens parameters [result]
  | negation (first : Token) (tokens : List Token) (parameters : List String)
      (operand : Expression) (keyword : first.keyword? = some "NOT")
      (inside : Written (.expression .not) tokens parameters [operand]) :
      Written (.expression .not) (first :: tokens) parameters [.not operand]
  | negative (tokens : List Token) (parameters : List String) (operand : Expression)
      (inside : Written (.expression .minus) tokens parameters [operand]) :
      Written (.expression .minus) (.sign "-" :: tokens) parameters
        [.arithmetic .subtract (.value (.integer 0)) operand]
  | binary (strength : Strength) (operator : Token) (further : List Token)
      (build : Expression → Expression → Expression) (tokens others : List Token)
      (parameters values : List String) (left right : Expression) (between : strength.IsInfix)
      (found : ∀ rest, operator? strength (operator :: (further ++ rest)) = some (build, rest))
      (stops : ∀ rest, Stops strength.next (operator :: (further ++ rest)))
      (first : Written (.expression strength.next) tokens parameters [left])
      (second : Written (.expression strength.next) others values [right]) :
      Written (.expression strength) (tokens ++ operator :: (further ++ others))
        (parameters ++ values) [build left right]
  | lastArgument (tokens : List Token) (parameters : List String) (argument : Expression)
      (inside : Written (.expression .or) tokens parameters [argument]) :
      Written .arguments (tokens ++ [.sign ")"]) parameters [argument]
  | argument (tokens others : List Token) (parameters values : List String) (first : Expression)
      (arguments : List Expression) (inside : Written (.expression .or) tokens parameters [first])
      (following : Written .arguments others values arguments) :
      Written .arguments (tokens ++ .sign "," :: others) (parameters ++ values)
        (first :: arguments)
  | selection (yield : Yield) (tokens : List Token) (from_ tableToken : Token)
      (rowTokens : List Token) (where_ : Token) (others : List Token)
      (parameters values : List String) (result : Expression) (table row : String)
      (condition : Expression) (fromKeyword : from_.keyword? = some "FROM")
      (tableNamed : tableToken.name? = some table) (rowNamed : RowName table rowTokens row)
      (whereKeyword : where_.keyword? = some "WHERE")
      (uncounted : ∀ rest, isRowCount (tokens ++ from_ :: rest) = false)
      (head : Written (.expression .or) tokens parameters [result])
      (body : Written (.expression .or) others values [condition]) :
      Written (.selection yield)
        (tokens ++ from_ :: tableToken :: (rowTokens ++ where_ :: (others ++ [.sign ")"])))
        (parameters ++ values) [.select yield result table row condition]

/-! Tokens that are keywords, names or signs. -/

theorem word_of_keyword (token : Token) (keyword : String)
    (known : token.keyword? = some keyword) : ∃ spelling, token = .word spelling := by
  cases token with
  | word spelling => exact ⟨spelling, rfl⟩
  | name | text | number | mark | sign => cases known

theorem keyword_of_name (token : Token) (name : String) (named : token.name? = some name) :
    token.keyword? = none := by
  cases token with
  | word spelling =>
      simp only [Token.name?] at named
      split at named
      · cases named
      · next free => simp only [Token.keyword?, free, Bool.false_eq_true, ↓reduceIte]
  | name quoted => rfl
  | text | number | mark | sign => cases named

theorem operator_none_of_keyword (token : Token) (keyword : String) (rest : List Token)
    (known : token.keyword? = some keyword) (other : keyword ∉ ["OR", "AND", "LIKE", "IS"])
    (strength : Strength) : operator? strength (token :: rest) = none := by
  rcases word_of_keyword token keyword known with ⟨spelling, rfl⟩
  simp only [List.mem_cons, List.not_mem_nil, or_false, not_or] at other
  cases strength <;> simp [operator?, known, other]

theorem stops_of_keyword (strength : Strength) (token : Token) (keyword : String)
    (rest : List Token) (known : token.keyword? = some keyword)
    (other : keyword ∉ ["OR", "AND", "LIKE", "IS"]) : Stops strength (token :: rest) := by
  rcases word_of_keyword token keyword known with ⟨spelling, rfl⟩
  exact ⟨fun other' _ => operator_none_of_keyword _ keyword rest known other other', by simp,
    by simp⟩

theorem stops_closing (strength : Strength) (rest : List Token) :
    Stops strength (.sign ")" :: rest) :=
  ⟨fun other _ => by cases other <;> rfl, by simp, by simp⟩

theorem stops_comma (strength : Strength) (rest : List Token) :
    Stops strength (.sign "," :: rest) :=
  ⟨fun other _ => by cases other <;> rfl, by simp, by simp⟩

theorem stops_nil (strength : Strength) : Stops strength [] :=
  ⟨fun _ _ => rfl, by simp, by simp⟩

theorem stops_next (strength : Strength) (rest : List Token) (stops : Stops strength rest) :
    Stops strength.next rest := by
  refine ⟨fun other bound => stops.operator other ?_, stops.call, stops.row⟩
  have : strength.rank ≤ strength.next.rank := by cases strength <;> decide
  omega

theorem readKeyword_found (token : Token) (keyword : String) (rest : List Token)
    (parameters : List String) (known : token.keyword? = some keyword) :
    readKeyword keyword ⟨token :: rest, parameters⟩ = some ((), ⟨rest, parameters⟩) := by
  simp [readKeyword, known]

theorem readKeyword_none (keyword : String) (tokens : List Token) (parameters : List String)
    (other : ∀ token ∈ tokens.head?, token.keyword? ≠ some keyword) :
    readKeyword keyword ⟨tokens, parameters⟩ = none := by
  cases tokens with
  | nil => rfl
  | cons token rest => simp [readKeyword, other token rfl]

theorem readName_found (token : Token) (name : String) (rest : List Token)
    (parameters : List String) (named : token.name? = some name) :
    readName ⟨token :: rest, parameters⟩ = some (name, ⟨rest, parameters⟩) := by
  simp [readName, named]

theorem readSign_found (text : String) (rest : List Token) (parameters : List String) :
    readSign text ⟨.sign text :: rest, parameters⟩ = some ((), ⟨rest, parameters⟩) := by
  simp [readSign]

theorem readSign_none (text : String) (tokens : List Token) (parameters : List String)
    (other : tokens.head? ≠ some (.sign text)) : readSign text ⟨tokens, parameters⟩ = none := by
  cases tokens with
  | nil => rfl
  | cons token rest =>
      cases token with
      | sign found =>
          have different : found ≠ text := fun same => other (by rw [same]; rfl)
          simp [readSign, different]
      | _ => rfl

theorem readFrom_operator (fuel : Nat) (strength : Strength) (unread : Unread)
    (between : strength.IsInfix) :
    readFrom (fuel + 1) strength unread =
      match readFrom fuel strength.next unread with
      | none => none
      | some (left, unread) => readFurther fuel strength left unread := by
  rcases between with ⟨notNot, notMinus, notOperand⟩
  cases strength <;> first | rfl | contradiction

/-! What is written is read. -/

/-- `Reads part tokens parameters results`: the reader of the part finds the results at the start of
every input that goes on in a way that stops it. -/
def Reads (part : Part) (tokens : List Token) (parameters : List String)
    (results : List Expression) : Prop :=
  tokens ≠ [] ∧
    match part with
    | .expression strength => ∀ fuel rest more result, results = [result] →
        12 * tokens.length ≤ fuel + strength.rank → Stops strength rest →
        readFrom fuel strength ⟨tokens ++ rest, parameters ++ more⟩ = some (result, ⟨rest, more⟩)
    | .arguments => ∀ fuel rest more, 12 * tokens.length ≤ fuel →
        readArguments fuel ⟨tokens ++ rest, parameters ++ more⟩ = some (results, ⟨rest, more⟩)
    | .selection yield => ∀ fuel rest more result, results = [result] →
        12 * tokens.length ≤ fuel →
        readSelection fuel yield ⟨tokens ++ rest, parameters ++ more⟩ =
          some (result, ⟨rest, more⟩)

/-! One step of the reader for each kind of operand. -/

theorem readOperand_name (fuel : Nat) (token : Token) (name : String) (rest : List Token)
    (parameters : List String) (named : token.name? = some name) :
    readOperand (fuel + 1) ⟨token :: rest, parameters⟩ =
      readAfterName fuel name ⟨rest, parameters⟩ := by
  have keyless := keyword_of_name token name named
  cases token with
  | word | name =>
      simp only [readOperand, keyless, readName_found _ name rest parameters named]
  | text | number | mark | sign => cases named

theorem readAfterName_column (fuel : Nat) (name : String) (rest : List Token)
    (parameters : List String) (call : rest.head? ≠ some (.sign "("))
    (row : rest.head? ≠ some (.sign ".")) :
    readAfterName (fuel + 1) name ⟨rest, parameters⟩ =
      some (.column none name, ⟨rest, parameters⟩) := by
  simp only [readAfterName, readSign_none "(" rest parameters call,
    readSign_none "." rest parameters row]

theorem readAfterName_rowColumn (fuel : Nat) (row : String) (token : Token) (name : String)
    (rest : List Token) (parameters : List String) (named : token.name? = some name) :
    readAfterName (fuel + 1) row ⟨.sign "." :: token :: rest, parameters⟩ =
      some (.column (some row) name, ⟨rest, parameters⟩) := by
  simp only [readAfterName, readSign_none "(" (.sign "." :: token :: rest) parameters (by simp),
    readSign_found, readName_found token name rest parameters named, Option.map_some]

theorem readAfterName_call (fuel : Nat) (name : String) (tokens : List Token)
    (parameters : List String) (some_ : tokens.head? ≠ some (.sign ")")) :
    readAfterName (fuel + 1) name ⟨.sign "(" :: tokens, parameters⟩ =
      (readArguments fuel ⟨tokens, parameters⟩).map fun (arguments, unread) =>
        (.call name arguments, unread) := by
  simp only [readAfterName, readSign_found, readSign_none ")" tokens parameters some_]

theorem readOperand_group (fuel : Nat) (tokens rest : List Token) (parameters more : List String)
    (inner : Expression) (plain : ∀ token ∈ tokens.head?, token.keyword? ≠ some "SELECT")
    (inside : readFrom fuel .or ⟨tokens, parameters⟩ = some (inner, ⟨.sign ")" :: rest, more⟩)) :
    readOperand (fuel + 1) ⟨.sign "(" :: tokens, parameters⟩ = some (inner, ⟨rest, more⟩) := by
  simp only [readOperand, readKeyword_none "SELECT" tokens parameters plain, inside,
    readSign_found, Option.map_some]

theorem readOperand_choose (fuel : Nat) (select : Token) (tokens : List Token)
    (parameters : List String) (keyword : select.keyword? = some "SELECT") :
    readOperand (fuel + 1) ⟨.sign "(" :: select :: tokens, parameters⟩ =
      readSelection fuel .firstResult ⟨tokens, parameters⟩ := by
  simp only [readOperand, readKeyword_found select "SELECT" tokens parameters keyword]

theorem readOperand_exist (fuel : Nat) (first select : Token) (tokens : List Token)
    (parameters : List String) (exists_ : first.keyword? = some "EXISTS")
    (keyword : select.keyword? = some "SELECT") :
    readOperand (fuel + 1) ⟨first :: .sign "(" :: select :: tokens, parameters⟩ =
      readSelection fuel .anyRow ⟨tokens, parameters⟩ := by
  rcases word_of_keyword first "EXISTS" exists_ with ⟨spelling, rfl⟩
  simp only [readOperand, exists_, readSign_found, Option.bind_some,
    readKeyword_found select "SELECT" tokens parameters keyword]

theorem readOperand_null (fuel : Nat) (token : Token) (rest : List Token)
    (parameters : List String) (keyword : token.keyword? = some "NULL") :
    readOperand (fuel + 1) ⟨token :: rest, parameters⟩ =
      some (.value .null, ⟨rest, parameters⟩) := by
  rcases word_of_keyword token "NULL" keyword with ⟨spelling, rfl⟩
  simp only [readOperand, keyword]

theorem readFrom_negation (fuel : Nat) (first : Token) (tokens : List Token)
    (parameters : List String) (keyword : first.keyword? = some "NOT") :
    readFrom (fuel + 1) .not ⟨first :: tokens, parameters⟩ =
      (readFrom fuel .not ⟨tokens, parameters⟩).map fun (operand, unread) =>
        (.not operand, unread) := by
  simp only [readFrom, readKeyword_found first "NOT" tokens parameters keyword]

theorem readFrom_negative (fuel : Nat) (tokens : List Token) (parameters : List String) :
    readFrom (fuel + 1) .minus ⟨.sign "-" :: tokens, parameters⟩ =
      (readFrom fuel .minus ⟨tokens, parameters⟩).map fun (operand, unread) =>
        (.arithmetic .subtract (.value (.integer 0)) operand, unread) := by
  simp only [readFrom, readSign_found]

theorem readSelection_found (fuel : Nat) (yield : Yield) (unread : Unread) (result : Expression)
    (table row : String) (condition : Expression) (head from_ named rowed where_ body rest : Unread)
    (uncounted : isRowCount unread.tokens = false)
    (readResult : readFrom fuel .or unread = some (result, head))
    (readFrom_ : readKeyword "FROM" head = some ((), from_))
    (readTable : readName from_ = some (table, named))
    (readRow : readRowName table named = some (row, rowed))
    (readWhere : readKeyword "WHERE" rowed = some ((), where_))
    (readCondition : readFrom fuel .or where_ = some (condition, body))
    (readClosing : readSign ")" body = some ((), rest)) :
    readSelection (fuel + 1) yield unread =
      some (.select yield result table row condition, rest) := by
  simp [readSelection, uncounted, readResult, readFrom_, readTable, readRow, readWhere,
    readCondition, readClosing]

theorem readRowName_found (table row : String) (tokens : List Token) (next : Token)
    (rest : List Token) (parameters : List String) (keyword : next.keyword? = some "WHERE")
    (named : RowName table tokens row) :
    readRowName table ⟨tokens ++ next :: rest, parameters⟩ =
      some (row, ⟨next :: rest, parameters⟩) := by
  cases named with
  | own =>
      have unnamed : next.name? = none := by
        cases named : next.name? with
        | none => rfl
        | some name =>
            rw [keyword_of_name next name named] at keyword
            cases keyword
      have noAs := readKeyword_none "AS" (next :: rest) parameters (by simp [keyword])
      simp only [readRowName, List.nil_append, noAs, readName, unnamed, Option.map_none,
        Option.getD_none]
  | given as token row asKeyword named =>
      simp only [readRowName, List.cons_append, List.nil_append,
        readKeyword_found as "AS" _ parameters asKeyword, readName_found token row _ _ named]

theorem readFurther_none (fuel : Nat) (strength : Strength) (left : Expression)
    (rest : List Token) (parameters : List String) (ends : operator? strength rest = none) :
    readFurther (fuel + 1) strength left ⟨rest, parameters⟩ = some (left, ⟨rest, parameters⟩) := by
  simp only [readFurther, ends]

theorem readFurther_found (fuel : Nat) (strength : Strength) (left right : Expression)
    (build : Expression → Expression → Expression) (tokens others rest : List Token)
    (parameters more : List String) (found : operator? strength tokens = some (build, others))
    (read : readFrom (fuel + 1) strength.next ⟨others, parameters⟩ = some (right, ⟨rest, more⟩))
    (ends : operator? strength rest = none) :
    readFurther (fuel + 2) strength left ⟨tokens, parameters⟩ =
      some (build left right, ⟨rest, more⟩) := by
  simp only [readFurther, found, read, ends]

/-- What is written begins with neither a closing parenthesis nor a selection. -/
theorem written_head (part : Part) (tokens : List Token) (parameters : List String)
    (results : List Expression) (written : Written part tokens parameters results) :
    ∃ first others, tokens = first :: others ∧ first ≠ .sign ")" ∧
      first.keyword? ≠ some "SELECT" := by
  have of_name (token : Token) (name : String) (named : token.name? = some name) :
      token ≠ .sign ")" ∧ token.keyword? ≠ some "SELECT" := by
    refine ⟨?_, by simp [keyword_of_name token name named]⟩
    rintro rfl
    cases named
  have of_keyword (token : Token) (keyword : String) (known : token.keyword? = some keyword)
      (other : keyword ≠ "SELECT") : token ≠ .sign ")" ∧ token.keyword? ≠ some "SELECT" := by
    refine ⟨?_, by simpa [known] using other⟩
    rintro rfl
    cases known
  induction written with
  | text | number | mark | group | choose | negative =>
      exact ⟨_, _, rfl, by simp, by simp [Token.keyword?]⟩
  | null token keyword => exact ⟨_, _, rfl, of_keyword token _ keyword (by simp)⟩
  | column token name named => exact ⟨_, _, rfl, of_name token name named⟩
  | rowColumn rowToken _ row _ rowNamed _ => exact ⟨_, _, rfl, of_name rowToken row rowNamed⟩
  | call token name _ _ _ named => exact ⟨_, _, rfl, of_name token name named⟩
  | exist first _ _ _ _ exists_ => exact ⟨_, _, rfl, of_keyword first _ exists_ (by simp)⟩
  | negation first _ _ _ keyword => exact ⟨_, _, rfl, of_keyword first _ keyword (by simp)⟩
  | raise _ _ _ _ _ _ _ ih => exact ih
  | binary _ _ _ _ _ _ _ _ _ _ _ _ _ _ _ ih _
  | lastArgument _ _ _ _ ih
  | argument _ _ _ _ _ _ _ _ ih _
  | selection _ _ _ _ _ _ _ _ _ _ _ _ _ _ _ _ _ _ _ _ ih _ =>
      rcases ih with ⟨first, others, rfl, different⟩
      exact ⟨first, _, rfl, different⟩

/-! Each production is read, when what it is made of is. -/

/-- What is not empty comes with fuel for a few steps. -/
theorem reads_expression (strength : Strength) (tokens : List Token) (parameters : List String)
    (result : Expression) (nonempty : tokens ≠ [])
    (read : ∀ fuel rest more, 12 * tokens.length ≤ fuel + 3 + strength.rank →
      Stops strength rest → readFrom (fuel + 3) strength ⟨tokens ++ rest, parameters ++ more⟩ =
        some (result, ⟨rest, more⟩)) : Reads (.expression strength) tokens parameters [result] := by
  refine ⟨nonempty, fun fuel rest more _ same enough stops => ?_⟩
  cases same
  have positive := List.length_pos_iff.mpr nonempty
  have bound := strength.rank_le
  obtain ⟨less, rfl⟩ : ∃ less, fuel = less + 3 := ⟨fuel - 3, by omega⟩
  exact read less rest more enough stops

theorem reads_operand (tokens : List Token) (parameters : List String) (result : Expression)
    (nonempty : tokens ≠ [])
    (read : ∀ fuel rest more, 12 * tokens.length ≤ fuel + 12 → Stops .operand rest →
      readOperand (fuel + 2) ⟨tokens ++ rest, parameters ++ more⟩ =
        some (result, ⟨rest, more⟩)) :
    Reads (.expression .operand) tokens parameters [result] := by
  apply reads_expression .operand tokens parameters result nonempty
  intro fuel rest more enough stops
  rw [readFrom]
  exact read fuel rest more enough stops

theorem Reads.expression {strength : Strength} {tokens : List Token} {parameters : List String}
    {result : Expression} (reads : Reads (.expression strength) tokens parameters [result])
    (fuel : Nat) (rest : List Token) (more : List String)
    (enough : 12 * tokens.length ≤ fuel + strength.rank) (stops : Stops strength rest) :
    readFrom fuel strength ⟨tokens ++ rest, parameters ++ more⟩ = some (result, ⟨rest, more⟩) :=
  reads.2 fuel rest more result rfl enough stops

section Productions

variable (tokens others : List Token) (parameters values : List String)

theorem reads_null (token : Token) (keyword : token.keyword? = some "NULL") :
    Reads (.expression .operand) [token] [] [.value .null] := by
  apply reads_operand _ _ _ (by simp)
  intro fuel rest more _ _
  exact readOperand_null (fuel + 1) token rest more keyword

theorem reads_column (token : Token) (name : String) (named : token.name? = some name) :
    Reads (.expression .operand) [token] [] [.column none name] := by
  apply reads_operand _ _ _ (by simp)
  intro fuel rest more _ stops
  exact (readOperand_name (fuel + 1) token name rest more named).trans
    (readAfterName_column fuel name rest more stops.call stops.row)

theorem reads_rowColumn (rowToken token : Token) (row name : String)
    (rowNamed : rowToken.name? = some row) (named : token.name? = some name) :
    Reads (.expression .operand) [rowToken, .sign ".", token] [] [.column (some row) name] := by
  apply reads_operand _ _ _ (by simp)
  intro fuel rest more _ _
  exact (readOperand_name (fuel + 1) rowToken row _ more rowNamed).trans
    (readAfterName_rowColumn fuel row token name rest more named)

theorem reads_call (token : Token) (name : String) (arguments : List Expression)
    (named : token.name? = some name) (some_ : tokens.head? ≠ some (.sign ")"))
    (inside : Reads .arguments tokens parameters arguments) :
    Reads (.expression .operand) (token :: .sign "(" :: tokens) parameters
      [.call name arguments] := by
  apply reads_operand _ _ _ (by simp)
  intro fuel rest more enough _
  simp only [List.length_cons] at enough
  have read := inside.2 fuel rest more (by omega)
  have open_ : (tokens ++ rest).head? ≠ some (.sign ")") := by
    rwa [List.head?_append_of_ne_nil _ inside.1]
  refine (readOperand_name (fuel + 1) token name _ _ named).trans ?_
  refine (readAfterName_call fuel name (tokens ++ rest) _ open_).trans ?_
  rw [read]
  rfl

theorem reads_group (inner : Expression)
    (plain : ∀ token ∈ tokens.head?, token.keyword? ≠ some "SELECT")
    (inside : Reads (.expression .or) tokens parameters [inner]) :
    Reads (.expression .operand) (.sign "(" :: (tokens ++ [.sign ")"])) parameters [inner] := by
  apply reads_operand _ _ _ (by simp)
  intro fuel rest more enough _
  simp only [List.length_cons, List.length_append, List.length_nil] at enough
  have read := inside.expression (fuel + 1) (.sign ")" :: rest) more (by omega)
    (stops_closing .or rest)
  have unselected : ∀ token ∈ (tokens ++ .sign ")" :: rest).head?,
      token.keyword? ≠ some "SELECT" := by
    rwa [List.head?_append_of_ne_nil _ inside.1]
  simpa using readOperand_group (fuel + 1) _ rest _ more inner unselected read

theorem reads_choose (select : Token) (result : Expression)
    (keyword : select.keyword? = some "SELECT")
    (inside : Reads (.selection .firstResult) tokens parameters [result]) :
    Reads (.expression .operand) (.sign "(" :: select :: tokens) parameters [result] := by
  apply reads_operand _ _ _ (by simp)
  intro fuel rest more enough _
  simp only [List.length_cons] at enough
  exact (readOperand_choose (fuel + 1) select _ _ keyword).trans
    (inside.2 (fuel + 1) rest more result rfl (by omega))

theorem reads_exist (first select : Token) (result : Expression)
    (exists_ : first.keyword? = some "EXISTS") (keyword : select.keyword? = some "SELECT")
    (inside : Reads (.selection .anyRow) tokens parameters [result]) :
    Reads (.expression .operand) (first :: .sign "(" :: select :: tokens) parameters [result] := by
  apply reads_operand _ _ _ (by simp)
  intro fuel rest more enough _
  simp only [List.length_cons] at enough
  exact (readOperand_exist (fuel + 1) first select _ _ exists_ keyword).trans
    (inside.2 (fuel + 1) rest more result rfl (by omega))

/-- Without an operator of its own, a strength reads what the next one does. -/
theorem readFrom_raised (fuel : Nat) (strength : Strength) (rest : List Token)
    (more : List String) (result : Expression) (inner : strength ≠ .operand)
    (plain : strength = .not → ∀ token ∈ tokens.head?, token.keyword? ≠ some "NOT")
    (unsigned : strength = .minus → ∀ token ∈ tokens.head?, token ≠ .sign "-")
    (stops : Stops strength rest)
    (read : readFrom (fuel + 1) strength.next ⟨tokens, parameters⟩ =
      some (result, ⟨rest, more⟩)) :
    readFrom (fuel + 2) strength ⟨tokens, parameters⟩ = some (result, ⟨rest, more⟩) := by
  by_cases isNot : strength = .not
  · subst isNot
    simp only [readFrom, readKeyword_none "NOT" tokens parameters (plain rfl)]
    exact read
  · by_cases isMinus : strength = .minus
    · subst isMinus
      have noSign : tokens.head? ≠ some (.sign "-") := fun same => unsigned rfl _ same rfl
      simp only [readFrom, readSign_none "-" tokens parameters noSign]
      exact read
    · rw [readFrom_operator (fuel + 1) strength _ ⟨isNot, isMinus, inner⟩, read]
      exact readFurther_none fuel strength result rest more
        (stops.operator strength (Nat.le_refl _))

theorem reads_raise (strength : Strength) (result : Expression)
    (plain : strength = .not → ∀ token ∈ tokens.head?, token.keyword? ≠ some "NOT")
    (unsigned : strength = .minus → ∀ token ∈ tokens.head?, token ≠ .sign "-")
    (inside : Reads (.expression strength.next) tokens parameters [result]) :
    Reads (.expression strength) tokens parameters [result] := by
  by_cases inner : strength = .operand
  · subst inner
    exact inside
  · apply reads_expression strength tokens parameters result inside.1
    intro fuel rest more enough stops
    have rank := strength.rank_next inner
    have read := inside.expression (fuel + 2) rest more (by omega) (stops_next strength rest stops)
    have head : (tokens ++ rest).head? = tokens.head? := List.head?_append_of_ne_nil _ inside.1
    exact readFrom_raised _ _ (fuel + 1) strength rest more result inner (head ▸ plain)
      (head ▸ unsigned) stops read

theorem reads_negation (first : Token) (operand : Expression)
    (keyword : first.keyword? = some "NOT")
    (inside : Reads (.expression .not) tokens parameters [operand]) :
    Reads (.expression .not) (first :: tokens) parameters [.not operand] := by
  apply reads_expression _ _ _ _ (by simp)
  intro fuel rest more enough stops
  simp only [List.length_cons] at enough
  have read := inside.expression (fuel + 2) rest more (by omega) stops
  rw [List.cons_append, readFrom_negation (fuel + 2) first _ _ keyword, read]
  rfl

theorem reads_negative (operand : Expression)
    (inside : Reads (.expression .minus) tokens parameters [operand]) :
    Reads (.expression .minus) (.sign "-" :: tokens) parameters
      [.arithmetic .subtract (.value (.integer 0)) operand] := by
  apply reads_expression _ _ _ _ (by simp)
  intro fuel rest more enough stops
  simp only [List.length_cons] at enough
  have read := inside.expression (fuel + 2) rest more (by omega) stops
  rw [List.cons_append, readFrom_negative (fuel + 2), read]
  rfl

theorem reads_binary (strength : Strength) (operator : Token) (further : List Token)
    (build : Expression → Expression → Expression) (left right : Expression)
    (between : strength.IsInfix)
    (found : ∀ rest, operator? strength (operator :: (further ++ rest)) = some (build, rest))
    (stops : ∀ rest, Stops strength.next (operator :: (further ++ rest)))
    (first : Reads (.expression strength.next) tokens parameters [left])
    (second : Reads (.expression strength.next) others values [right]) :
    Reads (.expression strength) (tokens ++ operator :: (further ++ others))
      (parameters ++ values) [build left right] := by
  apply reads_expression _ _ _ _ (by simp)
  intro fuel rest more enough ending
  have positive := List.length_pos_iff.mpr first.1
  have rank := strength.rank_next between.2.2
  simp only [List.length_append, List.length_cons] at enough
  have read := first.expression (fuel + 2) (operator :: (further ++ (others ++ rest)))
    (values ++ more) (by omega) (stops _)
  have tail := second.expression (fuel + 1) rest more (by omega) (stops_next strength rest ending)
  simp only [List.append_assoc, List.cons_append]
  rw [readFrom_operator (fuel + 2) strength _ between, read]
  exact readFurther_found fuel strength left right build _ (others ++ rest) rest _ more (found _)
    tail (ending.operator strength (Nat.le_refl _))

theorem reads_lastArgument (argument : Expression)
    (inside : Reads (.expression .or) tokens parameters [argument]) :
    Reads .arguments (tokens ++ [.sign ")"]) parameters [argument] := by
  refine ⟨by simp, fun fuel rest more enough => ?_⟩
  simp only [List.length_append, List.length_cons, List.length_nil] at enough
  obtain ⟨less, rfl⟩ : ∃ less, fuel = less + 1 := ⟨fuel - 1, by omega⟩
  have read := inside.expression less (.sign ")" :: rest) more (by omega) (stops_closing .or rest)
  have noComma := readSign_none "," (.sign ")" :: rest) more (by simp)
  simp only [List.append_assoc, List.cons_append, List.nil_append, readArguments, read, noComma,
    readSign_found, Option.map_some]

theorem reads_argument (first : Expression) (arguments : List Expression)
    (inside : Reads (.expression .or) tokens parameters [first])
    (following : Reads .arguments others values arguments) :
    Reads .arguments (tokens ++ .sign "," :: others) (parameters ++ values)
      (first :: arguments) := by
  refine ⟨by simp, fun fuel rest more enough => ?_⟩
  simp only [List.length_append, List.length_cons] at enough
  obtain ⟨less, rfl⟩ : ∃ less, fuel = less + 1 := ⟨fuel - 1, by omega⟩
  have read := inside.expression less (.sign "," :: (others ++ rest)) (values ++ more) (by omega)
    (stops_comma .or _)
  have tail := following.2 less rest more (by omega)
  simp only [List.append_assoc, List.cons_append, readArguments, read, readSign_found, tail,
    Option.map_some]

theorem reads_selection (yield : Yield) (from_ tableToken : Token) (rowTokens : List Token)
    (where_ : Token) (result : Expression) (table row : String) (condition : Expression)
    (fromKeyword : from_.keyword? = some "FROM") (tableNamed : tableToken.name? = some table)
    (rowNamed : RowName table rowTokens row) (whereKeyword : where_.keyword? = some "WHERE")
    (uncounted : ∀ rest, isRowCount (tokens ++ from_ :: rest) = false)
    (head : Reads (.expression .or) tokens parameters [result])
    (body : Reads (.expression .or) others values [condition]) :
    Reads (.selection yield)
      (tokens ++ from_ :: tableToken :: (rowTokens ++ where_ :: (others ++ [.sign ")"])))
      (parameters ++ values) [.select yield result table row condition] := by
  refine ⟨by simp, fun fuel rest more _ same enough => ?_⟩
  cases same
  simp only [List.length_append, List.length_cons, List.length_nil] at enough
  obtain ⟨less, rfl⟩ : ∃ less, fuel = less + 1 := ⟨fuel - 1, by omega⟩
  have read := head.expression less
    (from_ :: tableToken :: (rowTokens ++ where_ :: (others ++ .sign ")" :: rest))) (values ++ more)
    (by omega) (stops_of_keyword .or from_ "FROM" _ fromKeyword (by decide))
  have tail := body.expression less (.sign ")" :: rest) more (by omega) (stops_closing .or rest)
  have shape : tokens ++ from_ :: tableToken :: (rowTokens ++ where_ :: (others ++ [.sign ")"])) ++
      rest = tokens ++ from_ :: tableToken ::
        (rowTokens ++ where_ :: (others ++ .sign ")" :: rest)) := by simp
  rw [shape, List.append_assoc]
  exact readSelection_found less yield _ result table row condition _ _ _ _ _ _ _ (uncounted _)
    read (readKeyword_found from_ "FROM" _ _ fromKeyword)
    (readName_found tableToken table _ _ tableNamed)
    (readRowName_found table row rowTokens where_ _ _ whereKeyword rowNamed)
    (readKeyword_found where_ "WHERE" _ _ whereKeyword) tail (readSign_found ")" rest more)

end Productions

/-- Whatever the grammar gives is read. -/
theorem written_reads (part : Part) (tokens : List Token) (parameters : List String)
    (results : List Expression) (written : Written part tokens parameters results) :
    Reads part tokens parameters results := by
  induction written with
  | text | number | mark => exact reads_operand _ _ _ (by simp) fun _ _ _ _ _ => rfl
  | null token keyword => exact reads_null token keyword
  | column token name named => exact reads_column token name named
  | rowColumn rowToken token row name rowNamed named =>
      exact reads_rowColumn rowToken token row name rowNamed named
  | call token name tokens parameters arguments named inside ih =>
      rcases written_head _ _ _ _ inside with ⟨first, others, rfl, different, _⟩
      exact reads_call _ _ token name arguments named (by simpa using different) ih
  | group tokens parameters inner plain inside ih =>
      exact reads_group tokens parameters inner plain ih
  | choose select tokens parameters result keyword inside ih =>
      exact reads_choose tokens parameters select result keyword ih
  | exist first select tokens parameters result exists_ keyword inside ih =>
      exact reads_exist tokens parameters first select result exists_ keyword ih
  | raise strength tokens parameters result plain unsigned inside ih =>
      exact reads_raise tokens parameters strength result plain unsigned ih
  | negation first tokens parameters operand keyword inside ih =>
      exact reads_negation tokens parameters first operand keyword ih
  | negative tokens parameters operand inside ih =>
      exact reads_negative tokens parameters operand ih
  | binary strength operator further build tokens others parameters values left right between found
      stops first second ihFirst ihSecond =>
      exact reads_binary tokens others parameters values strength operator further build left right
        between found stops ihFirst ihSecond
  | lastArgument tokens parameters argument inside ih =>
      exact reads_lastArgument tokens parameters argument ih
  | argument tokens others parameters values first arguments inside following ihInside
      ihFollowing =>
      exact reads_argument tokens others parameters values first arguments ihInside ihFollowing
  | selection yield tokens from_ tableToken rowTokens where_ others parameters values result table
      row condition fromKeyword tableNamed rowNamed whereKeyword uncounted head body ihHead
      ihBody =>
      exact reads_selection tokens others parameters values yield from_ tableToken rowTokens where_
        result table row condition fromKeyword tableNamed rowNamed whereKeyword uncounted ihHead
        ihBody

theorem read_of_written (text : List Char) (found : List Token) (parameters : List String)
    (expression : Expression) (cut : tokens text = some found)
    (written : Written (.expression .or) found parameters [expression]) :
    Expression.read text parameters = some expression := by
  have read := (written_reads _ _ _ _ written).2 (12 * (found.length + 1)) [] [] expression rfl
    (by omega) (stops_nil .or)
  simp only [List.append_nil] at read
  simp only [Expression.read, cut, read]

theorem rank_injective (a b : Strength) (same : a.rank = b.rank) : a = b := by
  cases a <;> cases b <;> first | rfl | cases same

/-- What is written at a strength stands at every weaker one, unless it begins with a prefix
operator that is weaker than its own strength. -/
theorem written_raise (strong weak : Strength) (below : weak.rank ≤ strong.rank)
    (tokens : List Token) (parameters : List String) (result : Expression)
    (plain : Strength.not.rank < strong.rank →
      ∀ token ∈ tokens.head?, token.keyword? ≠ some "NOT")
    (unsigned : Strength.minus.rank < strong.rank → ∀ token ∈ tokens.head?, token ≠ .sign "-")
    (written : Written (.expression strong) tokens parameters [result]) :
    Written (.expression weak) tokens parameters [result] := by
  generalize gap : strong.rank - weak.rank = distance
  induction distance generalizing weak with
  | zero =>
      rw [rank_injective weak strong (by omega)]
      exact written
  | succ distance ih =>
      have inner : weak ≠ .operand := by
        rintro rfl
        have bound := strong.rank_le
        have last : Strength.operand.rank = 9 := rfl
        omega
      have rank := weak.rank_next inner
      exact .raise weak tokens parameters result (fun same => plain (same ▸ by omega))
        (fun same => unsigned (same ▸ by omega)) (ih weak.next (by omega) (by omega))

/-- The text with the values of its parameter marks stands for the expression, as one operand of
`NOT`. -/
def StandsFor (text : List Char) (parameters : List String) (expression : Expression) : Prop :=
  ∃ found, tokens text = some found ∧ Written (.expression .not) found parameters [expression]

theorem StandsFor.read {text : List Char} {parameters : List String} {expression : Expression}
    (stands : StandsFor text parameters expression) :
    Expression.read text parameters = some expression := by
  rcases stands with ⟨found, cut, written⟩
  exact read_of_written text found parameters expression cut
    (written_raise .not .or (by decide) _ _ _ (by simp [Strength.rank]) (by simp [Strength.rank])
      written)

end Gallery.Sql
