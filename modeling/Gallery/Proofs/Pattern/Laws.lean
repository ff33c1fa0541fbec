import Gallery.Pattern.WholeMatch

/-!
What is documented of the patterns of an engine: a text is found to match when some stretch of it
does, the anchors match at the ends of the text only, a group matches what its inside does, and
patterns that cannot run into each other match one after the other. Nothing is said of a pattern
that is refused, nor of one that is put together in another way.
-/

namespace Gallery.Pattern

/-- Which stretches of a text, from one position up to another, a pattern matches. -/
abbrev Stretches := (pattern : String) → (ignoreCase : Bool) → (text : String) → Nat → Nat → Prop

def Engine.Accepts (engine : Engine) (pattern : String) (ignoreCase : Bool) : Prop :=
  (engine.build pattern ignoreCase).isOk = true

def grouped (pattern : String) : String :=
  "(?:" ++ pattern ++ ")"

/-- A pattern that stays what it is among others: an anchor, or a group around a pattern that is
accepted without the group, too. -/
inductive Engine.Piece (engine : Engine) (ignoreCase : Bool) : String → Prop where
  | start : Piece engine ignoreCase "^"
  | finish : Piece engine ignoreCase "$"
  | group (pattern : String) (alone : engine.Accepts pattern ignoreCase)
      (closed : engine.Accepts (grouped pattern) ignoreCase) :
      Piece engine ignoreCase (grouped pattern)

/-- The patterns match one after the other. -/
def Chained (stretches : Stretches) (ignoreCase : Bool) (text : String) :
    List String → Nat → Nat → Prop
  | [], first, last => first = last ∧ first ≤ text.length
  | pattern :: rest, first, last =>
      ∃ middle, stretches pattern ignoreCase text first middle ∧
        Chained stretches ignoreCase text rest middle last

structure Engine.Documented (engine : Engine) (stretches : Stretches) : Prop where
  found : ∀ pattern ignoreCase matcher, engine.build pattern ignoreCase = .ok matcher →
    ∀ text, matcher text = true ↔ ∃ first last, stretches pattern ignoreCase text first last
  start : ∀ ignoreCase text first last,
    stretches "^" ignoreCase text first last ↔ first = 0 ∧ last = 0
  finish : ∀ ignoreCase text first last,
    stretches "$" ignoreCase text first last ↔ first = text.length ∧ last = text.length
  group : ∀ pattern ignoreCase text first last, engine.Accepts pattern ignoreCase →
    engine.Accepts (grouped pattern) ignoreCase →
      (stretches (grouped pattern) ignoreCase text first last ↔
        stretches pattern ignoreCase text first last)
  sequence : ∀ pieces ignoreCase text first last,
    (∀ piece ∈ pieces, engine.Piece ignoreCase piece) →
      engine.Accepts (String.join pieces) ignoreCase →
        (stretches (String.join pieces) ignoreCase text first last ↔
          Chained stretches ignoreCase text pieces first last)

end Gallery.Pattern
