import Gallery.Text.Blank
import Gallery.Host.Regex.CaseFold
import Gallery.Text.Alphanumeric
import Gallery.Text.Category

/-!
Sets of characters as patterns describe them: ranges, the sets that have names, and their
combinations. Membership follows the description.
-/

namespace Gallery.Host.Regex

def isAlphabetic (c : Char) : Bool :=
  Text.isAlphanumeric c && !Text.isInCategory "Nd" c && !Text.isInCategory "No" c

/-- Whether `c` is part of a word of any script: letters, marks, decimal digits, connecting
punctuation and the two joiners are. -/
def isWordChar (c : Char) : Bool :=
  if c.toNat < 128 then c.isAlphanum || c == '_'
  else isAlphabetic c || ["Mn", "Mc", "Me", "Nd", "Pc"].any (Text.isInCategory · c) ||
    c.toNat == 0x200C || c.toNat == 0x200D

def isAsciiWordChar (c : Char) : Bool :=
  c.isAlphanum || c == '_'

inductive CharSet where
  | nothing
  | range (first last : Char)
  | table (members : Text.CodeSet)
  | word
  | digit
  | blank
  | union (a b : CharSet)
  | intersection (a b : CharSet)
  | difference (a b : CharSet)
  | symmetricDifference (a b : CharSet)
  | complement (a : CharSet)
  | anyCase (a : CharSet)
  | anyAsciiCase (a : CharSet)
  deriving Inhabited

def swapAsciiCase (c : Char) : Char :=
  if c.isLower then c.toUpper else c.toLower

namespace CharSet

def single (c : Char) : CharSet := range c c

def everything : CharSet := complement nothing

def unionOf : List CharSet → CharSet
  | [] => nothing
  | [a] => a
  | a :: rest => union a (unionOf rest)

def contains (c : Char) : CharSet → Bool
  | nothing => false
  | range first last => first ≤ c && c ≤ last
  | table members => members.contains c
  | word => isWordChar c
  | digit => Text.isInCategory "Nd" c
  | blank => Text.isBlank c
  | union a b => a.contains c || b.contains c
  | intersection a b => a.contains c && b.contains c
  | difference a b => a.contains c && !b.contains c
  | symmetricDifference a b => a.contains c != b.contains c
  | complement a => !a.contains c
  | anyCase a => (caseVariants c).any fun d => a.contains d
  | anyAsciiCase a => a.contains c || a.contains (swapAsciiCase c)

def room : CharSet → Nat
  | nothing => 32
  | range _ last => if last.toNat < 128 then 72 else 320
  | table members => 64 * members.ranges.size + 32
  | word => 60000
  | digit => 4500
  | blank => 700
  | union a b | intersection a b | difference a b | symmetricDifference a b => a.room + b.room
  | complement a => a.room + 320
  | anyCase a => 2 * a.room
  | anyAsciiCase a => a.room

end CharSet

end Gallery.Host.Regex
