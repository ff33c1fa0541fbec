/-!
Sets of characters given by ascending, disjoint ranges of code points. The tables of the
character properties hold the distance to the next range and its length, in turn; most of them are
written as text.
Membership is a binary search over the ranges.
-/

namespace Gallery.Text

/-- A set of code points: each pair is the first and the last code point of a range, in
ascending order, no two ranges overlapping. -/
structure CodeSet where
  ranges : Array (Nat × Nat)
  deriving Inhabited

namespace CodeSet

def ofSteps (last : Nat) : List Nat → List (Nat × Nat)
  | gap :: length :: rest =>
      (last + gap, last + gap + length - 1) :: ofSteps (last + gap + length) rest
  | _ => []

def ofNumbers (numbers : List Nat) : CodeSet :=
  ⟨(ofSteps 0 numbers).toArray⟩

def ofLines (lines : List String) : CodeSet :=
  ofNumbers (lines.flatMap fun line => (line.splitOn " ").filterMap String.toNat?)

/-- Looks for `code` among the `width` ranges that start at index `low`. `steps` bounds the number
of halvings. -/
def search (ranges : Array (Nat × Nat)) (code : Nat) : (steps low width : Nat) → Bool
  | 0, _, _ => false
  | steps + 1, low, width =>
      if width = 0 then false else
        match ranges[low + width / 2]? with
        | none => false
        | some (first, last) =>
            if code < first then search ranges code steps low (width / 2)
            else if last < code then
              search ranges code steps (low + width / 2 + 1) (width - width / 2 - 1)
            else true

def contains (set : CodeSet) (c : Char) : Bool :=
  search set.ranges c.toNat (set.ranges.size + 1) 0 set.ranges.size

end CodeSet

end Gallery.Text
