import Gallery.Files.FileTree
import Gallery.Text.Digits
import Gallery.Text.RawText

/-!
Where a library is stored: the address names a file, or memory that lasts as long as a command.
-/

namespace Gallery.DatabaseUrl

inductive Location where
  | memory
  | file (path : String)
  deriving DecidableEq, Repr

inductive AddressFault where
  | unknownParameter (name : String)
  | unknownValue (name value : String)
  | invalidText
  deriving DecidableEq, Repr

/-- The text without the repetitions of `start` at its start. `steps` bounds their number. -/
def dropRepeated (start : List Char) : (steps : Nat) → List Char → List Char
  | 0, text => text
  | steps + 1, text =>
      if start.isPrefixOf text then dropRepeated start steps (text.drop start.length) else text

def withoutScheme (url : String) : List Char :=
  let text := dropRepeated "sqlite:".toList url.length url.toList
  dropRepeated "//".toList text.length text

/-- The bytes that a text with percent signs stands for: a percent sign and two hexadecimal digits
are one byte. -/
def percentDecode : List Char → Text.RawText
  | '%' :: a :: b :: rest =>
      match Text.hexDigit? a, Text.hexDigit? b with
      | some high, some low => UInt8.ofNat (16 * high + low) :: percentDecode rest
      | _, _ => 37 :: percentDecode (a :: b :: rest)
  | c :: rest => c.toString.toUTF8.toList ++ percentDecode rest
  | [] => []

def parameters (text : List Char) : List (String × String) :=
  (((String.ofList text).splitOn "&").filter (· != "")).map fun pair =>
    match pair.splitOn "=" with
    | [] => ("", "")
    | name :: rest => (name, String.intercalate "=" rest)

def checkParameter : String × String → Except AddressFault Unit
  | ("mode", value) =>
      if ["ro", "rw", "rwc", "memory"].contains value then .ok ()
      else .error (.unknownValue "mode" value)
  | ("cache", value) =>
      if ["private", "shared"].contains value then .ok () else .error (.unknownValue "cache" value)
  | ("immutable", value) =>
      if ["true", "1", "false", "0"].contains value then .ok ()
      else .error (.unknownValue "immutable" value)
  | ("vfs", _) => .ok ()
  | (name, _) => .error (.unknownParameter name)

def locate (url : String) : Except AddressFault Location := do
  let text := withoutScheme url
  let name := text.takeWhile (· != '?')
  let given := parameters (text.drop (name.length + 1))
  for parameter in given do checkParameter parameter
  let path ← match (percentDecode name).text? with
    | some path => pure path
    | none => throw .invalidText
  if path.isEmpty || path = ":memory:" || given.contains ("mode", "memory") then return .memory
  else return .file path

/-- The directory that has to be made for the library with the given address: that of the file, when
the address has a scheme and names a file in a directory. -/
def directory? (url : String) : Option String :=
  let text := url.toList
  let rest? :=
    if "sqlite://".toList.isPrefixOf text then some (text.drop 9)
    else if "sqlite:".toList.isPrefixOf text then some (text.drop 7)
    else none
  match rest?.map (·.takeWhile (· != '?')) with
  | none | some [] | some (':' :: _) => none
  | some file =>
      let names := ((String.ofList file).splitOn "/").dropLast
      if names.isEmpty then none else some (String.intercalate "/" names)

end Gallery.DatabaseUrl
