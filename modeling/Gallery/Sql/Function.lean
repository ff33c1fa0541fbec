import Gallery.Hash.Similarity
import Gallery.Pattern.WholeMatch
import Gallery.Sql.Value

/-!
The functions that statements can call beyond the built-in ones. A call with a missing argument has
a missing value, or in the case of hashes says that they are not alike.
-/

namespace Gallery.Sql

inductive FunctionError where
  | invalidText (name : String)
  | expectedHashes (name : String)
  | invalidPattern (reason : String)
  deriving DecidableEq, Repr

def FunctionError.message : FunctionError → String
  | invalidText name => name ++ ": invalid UTF-8 argument"
  | expectedHashes name => name ++ ": expected integer hashes"
  | invalidPattern reason => "REGEX: " ++ reason

def truth (condition : Bool) : Value :=
  .integer (if condition then 1 else 0)

/-- The last position from which the text goes on with `needle`, counted from one; `index` is the
position of the text's first character. Zero when there is none. -/
def lastOccurrence (needle : List Char) (index : Nat) : List Char → Nat
  | [] => 0
  | c :: rest =>
      let later := lastOccurrence needle (index + 1) rest
      if later ≠ 0 then later else if needle.isPrefixOf (c :: rest) then index else 0

/-- The position of the last occurrence of `needle` in characters, counted from one. Zero when it
does not occur or is empty. -/
def rinstr (text needle : String) : Nat :=
  if needle.isEmpty then 0 else lastOccurrence needle.toList 1 text.toList

structure CachedPattern where
  ignoreCase : Bool
  matcher : String → Bool

section Regex

variable (engine : Pattern.Engine)

/-- Matches a whole text against a pattern. The pattern compiled by an earlier call is used when it
was compiled for the same letter case; otherwise the pattern is compiled and kept. -/
def matchCached (cache : Option CachedPattern) (text pattern flags : String) :
    Except FunctionError (Bool × Option CachedPattern) :=
  let ignoreCase := flags.toList.contains 'i'
  let fresh := fun (_ : Unit) =>
    match Pattern.compile engine pattern flags with
    | .error reason => .error (.invalidPattern reason)
    | .ok matcher => .ok (matcher text, some ⟨ignoreCase, matcher⟩)
  match cache with
  | some kept =>
      if kept.ignoreCase == ignoreCase then .ok (kept.matcher text, some kept) else fresh ()
  | none => fresh ()

def regexCached (cache : Option CachedPattern) (text pattern flags : Value) :
    Except FunctionError (Value × Option CachedPattern) :=
  if text.isNull || pattern.isNull || flags.isNull then .ok (.null, cache)
  else
    match text.text?, pattern.text?, flags.text? with
    | some text, some pattern, some flags =>
        (matchCached engine cache text pattern flags).map fun (matched, cache) =>
          (truth matched, cache)
    | _, _, _ => .error (.invalidText "REGEX")

def regexValue (text pattern flags : Value) : Except FunctionError Value :=
  (regexCached engine none text pattern flags).map Prod.fst

end Regex

def rinstrValue (text needle : Value) : Except FunctionError Value :=
  if text.isNull || needle.isNull then .ok .null
  else
    match text.text?, needle.text? with
    | some text, some needle => .ok (.integer (rinstr text needle))
    | _, _ => .error (.invalidText "RINSTR")

def fileExistsValue (fileExists : String → Bool) (path : Value) : Except FunctionError Value :=
  if path.isNull then .ok .null
  else
    match path.text? with
    | some path => .ok (truth (fileExists path))
    | none => .error (.invalidText "FILE_EXISTS")

def similarHashesValue (a b : Value) : Except FunctionError Value :=
  if a.isNull || b.isNull then .ok (truth false)
  else
    match a, b with
    | .integer a, .integer b =>
        .ok (truth ((PictureHash.ofInt a).isSimilar (PictureHash.ofInt b)))
    | _, _ => .error (.expectedHashes "SIMILAR_HASHES")

def similarityConfidenceValue (a b : Value) : Except FunctionError Value :=
  if a.isNull || b.isNull then .ok (.real 0.0)
  else
    match a, b with
    | .integer a, .integer b =>
        .ok (.real (toDouble ((PictureHash.ofInt a).confidence (PictureHash.ofInt b))))
    | _, _ => .error (.expectedHashes "SIMILARITY_CONFIDENCE")

def callFunction? (engine : Pattern.Engine) (fileExists : String → Bool) (name : String)
    (arguments : List Value) : Option (Except FunctionError Value) :=
  match name, arguments with
  | "REGEX", [text, pattern, flags] => some (regexValue engine text pattern flags)
  | "RINSTR", [text, needle] => some (rinstrValue text needle)
  | "FILE_EXISTS", [path] => some (fileExistsValue fileExists path)
  | "SIMILAR_HASHES", [a, b] => some (similarHashesValue a b)
  | "SIMILARITY_CONFIDENCE", [a, b] => some (similarityConfidenceValue a b)
  | _, _ => none

end Gallery.Sql
