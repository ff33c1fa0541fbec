import Gallery.Host.Regex.Node

/-!
Matching in time linear in the text for every construct. A set of positions is a number whose bit
`i` says whether it holds position `i`; each construct takes the positions where it may begin to
those where it may end.
-/

namespace Gallery.Host.Regex

abbrev Positions := Nat

/-- A pattern prepared for one text: each character set and each anchor is replaced by the positions
where it holds. -/
inductive Plan where
  | empty
  | advance (sites : Positions)
  | hold (sites : Positions)
  | seq (a b : Plan)
  | alt (a b : Plan)
  | iterate (a : Plan) (least : Nat) (extra : Option Nat)
  deriving Repr

def sitesBelow (p : Nat → Bool) : (count : Nat) → (high : Positions) → Positions
  | 0, high => high
  | count + 1, high => sitesBelow p count (2 * high + (p count).toNat)

def sites (p : Nat → Bool) (count : Nat) : Positions :=
  sitesBelow p count 0

namespace Node

def plan (text : Array Char) : Node → Plan
  | .empty => .empty
  | .char set => .advance (sites (fun i => text[i]?.any fun c => set.contains c) text.size)
  | .anchor site =>
      .hold (sites (fun i => site.holds (if i = 0 then none else text[i - 1]?) text[i]?)
        (text.size + 1))
  | .seq a b => .seq (a.plan text) (b.plan text)
  | .alt a b => .alt (a.plan text) (b.plan text)
  | .iterate a least extra => .iterate (a.plan text) least extra

end Node

def repeated (step : Positions → Positions) : (count : Nat) → Positions → Positions
  | 0, here => here
  | count + 1, here => if step here = here then here else repeated step count (step here)

/-- The positions in `reached` and those that up to `rounds` steps from `front` reach. Each round
goes on from the positions that are new. -/
def spread (step : Positions → Positions) :
    (rounds : Nat) → (reached front : Positions) → Positions
  | 0, reached, _ => reached
  | rounds + 1, reached, front =>
      let fresh := step front ^^^ (step front &&& reached)
      if fresh = 0 then reached else spread step rounds (reached ||| fresh) fresh

namespace Plan

/-- The positions where the pattern may end when it begins at one of the given ones. `size` is the
length of the text. -/
def run (size : Nat) : Plan → Positions → Positions
  | empty, here => here
  | advance sites, here => 2 * (here &&& sites)
  | hold sites, here => here &&& sites
  | seq a b, here => b.run size (a.run size here)
  | alt a b, here => a.run size here ||| b.run size here
  | iterate a least extra, here =>
      let start := repeated (a.run size) least here
      spread (a.run size) (extra.getD (size + 1)) start start

end Plan

def Node.occursIn (node : Node) (text : Array Char) : Bool :=
  (node.plan text).run text.size (Nat.pow 2 (text.size + 1) - 1) != 0

end Gallery.Host.Regex
