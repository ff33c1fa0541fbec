import Gallery.Command.Basic

/-!
Reading the command line. Options stand before the name of the command or among its operands; a
value is attached to its option or follows it. Two dashes alone end the options of a command: all
that follows is an operand, whatever it looks like.
-/

namespace Gallery.Arguments

open Text (RawText)

structure Form where
  name : String
  letter : Option Char
  takesValue : Bool
  deriving DecidableEq, Repr

inductive UsageError where
  | noCommand
  | unknownCommand (word : RawText)
  | unknownOption (word : RawText)
  | missingValue (option : String)
  | unexpectedValue (option : String)
  | repeatedOption (option : String)
  | invalidValue (word : RawText)
  | wrongOperands (command : String)
  deriving DecidableEq, Repr

def UsageError.message : UsageError → String
  | noCommand => "a command is required"
  | unknownCommand word => "unknown command '" ++ word.lossy ++ "'"
  | unknownOption word => "unknown option '" ++ word.lossy ++ "'"
  | missingValue option => "a value is required for '--" ++ option ++ "'"
  | unexpectedValue option => "no value is expected for '--" ++ option ++ "'"
  | repeatedOption option => "'--" ++ option ++ "' cannot be used twice"
  | invalidValue word => "invalid value '" ++ word.lossy ++ "'"
  | wrongOperands command => "wrong number of operands for '" ++ command ++ "'"

/-! Words -/

inductive Word where
  | operand
  | separator
  | option (form : Form) (value : Option RawText)
  | unknown
  deriving DecidableEq, Repr

def attached (word : RawText) : Option RawText :=
  (word.dropWhile (· != 61)).tail?

/-- Tells what a word is. A dash alone is an operand. -/
def classify (forms : List Form) : RawText → Word
  | [45, 45] => .separator
  | 45 :: 45 :: rest =>
      match forms.find? fun form => form.name.toUTF8.toList == rest.takeWhile (· != 61) with
      | some form => .option form (attached rest)
      | none => .unknown
  | 45 :: letter :: rest =>
      match forms.find? fun form => form.letter.any (·.toNat == letter.toNat) with
      | some form =>
          .option form (match rest with
            | [] => none
            | 61 :: value => some value
            | value => some value)
      | none => .unknown
  | _ => .operand

structure Given where
  options : List (String × RawText)
  operands : List RawText
  deriving DecidableEq, Repr

namespace Given

def empty : Given := ⟨[], []⟩

def addOperands (given : Given) (words : List RawText) : Given :=
  { given with operands := given.operands ++ words }

def addOption (given : Given) (name : String) (value : RawText) : Except UsageError Given :=
  if given.options.any (·.1 == name) then .error (.repeatedOption name)
  else .ok { given with options := given.options ++ [(name, value)] }

def value? (given : Given) (name : String) : Option RawText :=
  given.options.lookup name

end Given

/-- Reads options of the given forms and, when `whole` is true, operands. Otherwise reading stops
before the first operand. What is left is returned. -/
def read (forms : List Form) (whole : Bool) (given : Given) :
    List RawText → Except UsageError (Given × List RawText)
  | [] => .ok (given, [])
  | word :: rest =>
      match classify forms word with
      | .operand =>
          if whole then read forms whole (given.addOperands [word]) rest
          else .ok (given, word :: rest)
      | .separator => if whole then .ok (given.addOperands rest, []) else .error .noCommand
      | .unknown => .error (.unknownOption word)
      | .option form (some value) =>
          if form.takesValue then do
            let given ← given.addOption form.name value
            read forms whole given rest
          else .error (.unexpectedValue form.name)
      | .option form none =>
          if form.takesValue then
            match rest with
            | [] => .error (.missingValue form.name)
            | value :: rest =>
                if classify forms value = .operand then do
                  let given ← given.addOption form.name value
                  read forms whole given rest
                else .error (.missingValue form.name)
          else do
            let given ← given.addOption form.name []
            read forms whole given rest

/-! Values -/

def text (word : RawText) : Except UsageError String :=
  match word.text? with
  | some text => .ok text
  | none => .error (.invalidValue word)

def symbol (word : RawText) : Except UsageError Char :=
  match word.text?.map String.toList with
  | some [c] => .ok c
  | _ => .error (.invalidValue word)

def count (word : RawText) : Except UsageError Nat :=
  match word.text?.bind Settings.readCount? with
  | some n => .ok n
  | none => .error (.invalidValue word)

def path (word : RawText) : Except UsageError RawText :=
  if word.isEmpty then .error (.invalidValue word) else .ok word

def optionally (read : RawText → Except UsageError α) :
    Option RawText → Except UsageError (Option α)
  | none => .ok none
  | some word => (read word).map some

/-! Commands -/

def commonForms : List Form :=
  [⟨"database-url", none, true⟩, ⟨"max-nodes", none, true⟩, ⟨"case-sensitive", none, false⟩]

def ownForms? : String → Option (List Form)
  | "add" => some [⟨"tags", some 't', true⟩]
  | "tag-type" => some [⟨"color", some 'c', true⟩]
  | "tag" => some [⟨"type", some 'y', true⟩, ⟨"definition", some 'd', true⟩]
  | "init" | "define" | "search" | "hash" | "similar" | "rehash" | "remove" | "move" | "merge"
  | "rename-tag" | "delete-tag" | "delete-tag-type" | "tags" => some []
  | _ => none

def commonOptions (given : Given) : Except UsageError CommonOptions := do
  return {
    databaseUrl := ← optionally text (given.value? "database-url")
    maxNodes := ← optionally count (given.value? "max-nodes")
    caseSensitive := (given.value? "case-sensitive").isSome }

def defaultColor : String := "ffffff"

def command (name : String) (given : Given) : Except UsageError Command :=
  let option := given.value?
  match name, given.operands with
  | "init", [] => return .init
  | "add", [picture] => do
      let tags ← optionally text (option "tags")
      return .add (← path picture) (Text.words (tags.getD ""))
  | "tag-type", [label, sign] => do
      let color ← optionally text (option "color")
      return .tagType (← text label) (← symbol sign) (color.getD defaultColor)
  | "tag", [label] => do
      return .tag (← text label) (← optionally symbol (option "type"))
        (← optionally text (option "definition"))
  | "define", [label] => return .define (← text label) none
  | "define", [label, definition] => return .define (← text label) (some (← text definition))
  | "search", [query] => return .search (← text query)
  | "hash", [picture] => return .hash (← path picture)
  | "similar", [picture] => return .similar (← path picture)
  | "rehash", [picture] => return .rehash (← path picture)
  | "remove", [picture] => return .remove (← path picture)
  | "move", [picture, newPath] => return .move (← path picture) (← path newPath)
  | "merge", [source, target] => return .merge (← path source) (← path target)
  | "rename-tag", [label, newLabel] => return .renameTag (← text label) (← text newLabel)
  | "delete-tag", [label] => return .deleteTag (← text label)
  | "delete-tag-type", [sign] => return .deleteTagType (← symbol sign)
  | "tags", [] => return .listTags
  | name, _ => .error (.wrongOperands name)

/-- Reads a command line. An option that stands on both sides of the command's name has the value
behind it. -/
def parse (arguments : List RawText) : Except UsageError (CommonOptions × Command) := do
  let (outer, rest) ← read commonForms false .empty arguments
  match rest with
  | [] => throw .noCommand
  | word :: rest =>
      match word.text?.bind fun name => (ownForms? name).map fun forms => (name, forms) with
      | none => throw (.unknownCommand word)
      | some (name, forms) => do
          let (given, _) ← read (forms ++ commonForms) true .empty rest
          let outer ← commonOptions outer
          let options ← commonOptions given
          return (options.within outer, ← command name given)

end Gallery.Arguments
