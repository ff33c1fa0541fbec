import Gallery.Sql.Operation

/-!
The value of an expression on the rows in scope.
-/

namespace Gallery.Sql

structure Table where
  columns : List (String × Affinity)
  rows : List (List Value)

/-- What expressions can refer to: the tables by name, the files that exist, and patterns. -/
structure World where
  table? : String → Option Table
  fileExists : String → Bool
  engine : Pattern.Engine

structure NamedRow where
  name : String
  columns : List (String × Affinity)
  values : List Value

abbrev Scope := List NamedRow

def sameName (a b : String) : Bool :=
  a.map Char.toLower == b.map Char.toLower

def findColumn? (name : String) : List (String × Affinity) → List Value → Option (Affinity × Value)
  | (column, affinity) :: columns, value :: values =>
      if sameName column name then some (affinity, value) else findColumn? name columns values
  | _, _ => none

/-- The column that a reference stands for: of the innermost row that has it. -/
def Scope.find? (scope : Scope) (row : Option String) (column : String) :
    Option (Affinity × Value) :=
  scope.findSome? fun named =>
    if row.all (sameName named.name) then findColumn? column named.columns named.values else none

def Scope.hasColumn (scope : Scope) (row : Option String) (column : String) : Bool :=
  scope.any fun named =>
    row.all (sameName named.name) && named.columns.any fun entry => sameName entry.1 column

def Expression.affinity? (world : World) (scope : Scope) : Expression → Option Affinity
  | .column row name => (scope.find? row name).map Prod.fst
  | .select .firstResult result table row _ =>
      match world.table? table with
      | none => none
      | some found =>
          result.affinity? world (⟨row, found.columns, found.columns.map fun _ => .null⟩ :: scope)
  | _ => none

def Value.textUpToNul (value : Value) : List Char :=
  ((value.text?.getD "").toList).takeWhile (· != '\x00')

/-- The part of a text from a position on, counted from one, or backwards from the end when it is
negative. -/
def substringFrom (text : List Char) (position : Int) : List Char :=
  if position < 0 then text.drop (text.length - position.natAbs)
  else text.drop (position - 1).toNat

def callAny? (world : World) (name : String) (arguments : List Value) :
    Option (Except FunctionError Value) :=
  match name.map Char.toUpper, arguments with
  | "SUBSTR", [text, start] =>
      some (.ok (if text.isNull || start.isNull then .null
        else
          .text (String.ofList (substringFrom text.textUpToNul start.toNumber.wholePart))))
  | "LENGTH", [text] =>
      some (.ok (if text.isNull then .null else .integer text.textUpToNul.length))
  | "LOWER", [text] =>
      some (.ok (if text.isNull then .null else .text ((text.text?.getD "").map Char.toLower)))
  | "UPPER", [text] =>
      some (.ok (if text.isNull then .null else .text ((text.text?.getD "").map Char.toUpper)))
  | upper, arguments => callFunction? world.engine world.fileExists upper arguments

mutual

def Expression.isResolved (world : World) (scope : Scope) : Expression → Bool
  | .value .. => true
  | .column row name => scope.hasColumn row name
  | .not operand => operand.isResolved world scope
  | .and a b | .or a b | .compare _ a b | .same a b | .distinct a b | .arithmetic _ a b | .join a b
  | .like a b =>
      a.isResolved world scope && b.isResolved world scope
  | .call name arguments =>
      (callAny? world name (arguments.map fun _ => .null)).isSome &&
        Expression.areResolved world scope arguments
  | .select _ result table row condition =>
      match world.table? table with
      | none => false
      | some found =>
          let inner := ⟨row, found.columns, []⟩ :: scope
          result.isResolved world inner && condition.isResolved world inner

def Expression.areResolved (world : World) (scope : Scope) : List Expression → Bool
  | [] => true
  | expression :: rest =>
      expression.isResolved world scope && Expression.areResolved world scope rest

end

mutual

/-- The value of an expression. The right side of a conjunction or a disjunction is left alone when
the left side decides. -/
def Expression.evaluate (world : World) (scope : Scope) : Expression → Except FunctionError Value
  | .value v => .ok v
  | .column row name => .ok (((scope.find? row name).map Prod.snd).getD .null)
  | .not operand => do
      let value ← operand.evaluate world scope
      return ofTruth (value.truth?.map (!·))
  | .and left right => do
      let a ← left.evaluate world scope
      if a.truth? = some false then return truth false
      let b ← right.evaluate world scope
      return ofTruth (bothTrue a.truth? b.truth?)
  | .or left right => do
      let a ← left.evaluate world scope
      if a.truth? = some true then return truth true
      let b ← right.evaluate world scope
      return ofTruth (eitherTrue a.truth? b.truth?)
  | .compare comparison left right => do
      let a ← left.evaluate world scope
      let b ← right.evaluate world scope
      if a.isNull || b.isNull then return .null
      let (a, b) := alignSides (left.affinity? world scope) (right.affinity? world scope) a b
      return truth (comparison.admits (a.order b))
  | .same left right => do
      let a ← left.evaluate world scope
      let b ← right.evaluate world scope
      let (a, b) := alignSides (left.affinity? world scope) (right.affinity? world scope) a b
      return truth (a.order b == .eq)
  | .distinct left right => do
      let a ← left.evaluate world scope
      let b ← right.evaluate world scope
      let (a, b) := alignSides (left.affinity? world scope) (right.affinity? world scope) a b
      return truth (a.order b != .eq)
  | .arithmetic operation left right => do
      let a ← left.evaluate world scope
      let b ← right.evaluate world scope
      return operation.apply a b
  | .join left right => do
      let a ← left.evaluate world scope
      let b ← right.evaluate world scope
      if a.isNull || b.isNull then return .null
      return .text ((a.text?.getD "") ++ (b.text?.getD ""))
  | .like left right => do
      let a ← left.evaluate world scope
      let b ← right.evaluate world scope
      if a.isNull || b.isNull then return .null
      return truth (hasForm (b.text?.getD "").toList (a.text?.getD "").toList)
  | .call name arguments => do
      let values ← Expression.evaluateAll world scope arguments
      (callAny? world name values).getD (.ok .null)
  | .select yield result table row condition =>
      match world.table? table with
      | none => .ok .null
      | some found => do
          let chosen ← found.rows.filterM fun values => do
            let value ← condition.evaluate world (⟨row, found.columns, values⟩ :: scope)
            return value.truth? == some true
          match yield with
          | .anyRow => return truth (!chosen.isEmpty)
          | .rowCount => return .integer chosen.length
          | .firstResult =>
              match chosen with
              | [] => return .null
              | values :: _ => result.evaluate world (⟨row, found.columns, values⟩ :: scope)

def Expression.evaluateAll (world : World) (scope : Scope) :
    List Expression → Except FunctionError (List Value)
  | [] => .ok []
  | expression :: rest => do
      let value ← expression.evaluate world scope
      let values ← Expression.evaluateAll world scope rest
      return value :: values

end

end Gallery.Sql
