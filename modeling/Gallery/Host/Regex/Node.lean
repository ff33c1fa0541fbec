import Gallery.Host.Regex.CharSet

/-!
The structure of patterns, and what they match. A pattern matches between two positions of a text;
position `i` lies before the character with index `i`. The order in which alternatives and numbers
of repetitions are tried plays no role, since only the existence of a match is asked for.
-/

namespace Gallery.Host.Regex

inductive Anchor where
  | textStart
  | textEnd
  | lineStart
  | lineEnd
  /-- Lines that may also end in a carriage return, with or without a line feed. -/
  | anyLineStart
  | anyLineEnd
  | wordBoundary (anyScript : Bool)
  | noWordBoundary (anyScript : Bool)
  | wordStart (anyScript : Bool)
  | wordEnd (anyScript : Bool)
  | wordStartHalf (anyScript : Bool)
  | wordEndHalf (anyScript : Bool)
  deriving DecidableEq, Repr

def isWordPart (anyScript : Bool) (c : Char) : Bool :=
  if anyScript then isWordChar c else isAsciiWordChar c

def Anchor.holds (before after : Option Char) : Anchor → Bool
  | textStart => before.isNone
  | textEnd => after.isNone
  | lineStart => before.all (· == '\n')
  | lineEnd => after.all (· == '\n')
  | anyLineStart =>
      before.all fun c => c == '\n' || (c == '\r' && after != some '\n')
  | anyLineEnd =>
      after.all fun c => c == '\r' || (c == '\n' && before != some '\r')
  | wordBoundary any => before.any (isWordPart any) != after.any (isWordPart any)
  | noWordBoundary any => before.any (isWordPart any) == after.any (isWordPart any)
  | wordStart any => !before.any (isWordPart any) && after.any (isWordPart any)
  | wordEnd any => before.any (isWordPart any) && !after.any (isWordPart any)
  | wordStartHalf any => !before.any (isWordPart any)
  | wordEndHalf any => !after.any (isWordPart any)

inductive Node where
  | empty
  | char (set : CharSet)
  | anchor (anchor : Anchor)
  | seq (a b : Node)
  | alt (a b : Node)
  /-- `least` repetitions and up to `extra` more, or any number of more. -/
  | iterate (a : Node) (least : Nat) (extra : Option Nat)
  deriving Inhabited

namespace Node

def seqOf : List Node → Node
  | [] => empty
  | [a] => a
  | a :: rest => seq a (seqOf rest)

def altOf : List Node → Node
  | [] => empty
  | [a] => a
  | a :: rest => alt a (altOf rest)

def consumesNothing : Node → Bool
  | empty | anchor _ => true
  | char _ => false
  | seq a b | alt a b => a.consumesNothing && b.consumesNothing
  | iterate a least extra => (least == 0 && extra == some 0) || a.consumesNothing

end Node

end Gallery.Host.Regex
