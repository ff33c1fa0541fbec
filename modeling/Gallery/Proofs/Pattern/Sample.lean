import Gallery.Proofs.Pattern.Laws

/-!
A small engine: characters that stand for themselves, any character, anchors, groups and
alternatives, and no other syntax. It does what is documented of patterns (`sample_documented`).
-/

namespace Gallery.Pattern.Sample

inductive Node where
  | empty
  | literal (c : Char)
  | any
  | start
  | finish
  | both (first second : Node)
  | either (first second : Node)

def sameChar (ignoreCase : Bool) (c other : Char) : Bool :=
  c == other || (ignoreCase && c.toLower == other.toLower)

/-- The positions up to which a node matches from a position on. -/
def Node.ends (ignoreCase : Bool) (text : List Char) : Node → Nat → List Nat
  | .empty, first => if first ≤ text.length then [first] else []
  | .literal c, first =>
      match text[first]? with
      | some other => if sameChar ignoreCase c other then [first + 1] else []
      | none => []
  | .any, first =>
      match text[first]? with
      | some other => if other == '\n' then [] else [first + 1]
      | none => []
  | .start, first => if first = 0 then [0] else []
  | .finish, first => if first = text.length then [first] else []
  | .both a b, first => (a.ends ignoreCase text first).flatMap (b.ends ignoreCase text)
  | .either a b, first => a.ends ignoreCase text first ++ b.ends ignoreCase text first

/-! Reading a pattern -/

/-- A group that is being read: the alternatives before, and the last one so far. -/
structure Frame where
  before : Option Node
  last : Node

def Frame.fresh : Frame := ⟨none, .empty⟩

def Frame.node (frame : Frame) : Node :=
  match frame.before with
  | none => frame.last
  | some node => .either node frame.last

def Frame.add (frame : Frame) (node : Node) : Frame :=
  { frame with last := .both frame.last node }

/-- What has been read of the start of a group. -/
inductive Opening where
  | none
  | parenthesis
  | questionMark

structure State where
  opening : Opening
  frame : Frame
  around : List Frame

def State.fresh : State := ⟨.none, .fresh, []⟩

/-- What a character is in a pattern. -/
inductive Sign where
  | opens
  | bar
  | closes
  | node (node : Node)
  | reserved

def sign (c : Char) : Sign :=
  match c with
  | '(' => .opens
  | '|' => .bar
  | ')' => .closes
  | '.' => .node .any
  | '^' => .node .start
  | '$' => .node .finish
  | other => if "\\*+?[]\x7b\x7d".toList.contains other then .reserved else .node (.literal other)

def readSign (frame : Frame) (around : List Frame) : Sign → Option State
  | .opens => some ⟨.parenthesis, .fresh, frame :: around⟩
  | .bar => some ⟨.none, ⟨some frame.node, .empty⟩, around⟩
  | .closes => around.head?.map fun outer => ⟨.none, outer.add frame.node, around.tail⟩
  | .node node => some ⟨.none, frame.add node, around⟩
  | .reserved => none

def read : State → Char → Option State
  | ⟨.none, frame, around⟩, c => readSign frame around (sign c)
  | ⟨.parenthesis, frame, around⟩, c =>
      if c = '?' then some ⟨.questionMark, frame, around⟩ else readSign frame around (sign c)
  | ⟨.questionMark, frame, around⟩, c => if c = ':' then some ⟨.none, frame, around⟩ else none

def State.node? (state : State) : Option Node :=
  match state.opening, state.around with
  | .none, [] => some state.frame.node
  | _, _ => none

def parse (pattern : String) : Option Node :=
  (pattern.toList.foldlM read State.fresh).bind State.node?

def occurs (ignoreCase : Bool) (node : Node) (text : String) : Bool :=
  (List.range (text.length + 1)).any fun first =>
    !(node.ends ignoreCase text.toList first).isEmpty

def engine : Engine where
  build pattern ignoreCase :=
    match parse pattern with
    | none => .error "regex parse error"
    | some node => .ok (occurs ignoreCase node)

def stretches : Stretches := fun pattern ignoreCase text first last =>
  ∃ node, parse pattern = some node ∧ last ∈ node.ends ignoreCase text.toList first

/-! Where nodes match -/

variable (ignoreCase : Bool) (text : List Char) (first last : Nat)

theorem mem_ends_both (a b : Node) : last ∈ (Node.both a b).ends ignoreCase text first ↔
    ∃ middle ∈ a.ends ignoreCase text first, last ∈ b.ends ignoreCase text middle := by
  simp [Node.ends]

theorem mem_ends_empty : last ∈ Node.empty.ends ignoreCase text first ↔
    first = last ∧ first ≤ text.length := by
  rw [Node.ends]
  split
  · next within => simp [within, eq_comm]
  · next beyond => simp [beyond]

theorem mem_ends_start : last ∈ Node.start.ends ignoreCase text first ↔ first = 0 ∧ last = 0 := by
  rw [Node.ends]
  split
  · next same => simp [same]
  · next differs => simp [differs]

theorem mem_ends_finish : last ∈ Node.finish.ends ignoreCase text first ↔
    first = text.length ∧ last = text.length := by
  rw [Node.ends]
  split
  · next same => simp [same]
  · next differs => simp [differs]

theorem mem_ends_le (node : Node) (matched : last ∈ node.ends ignoreCase text first) :
    first ≤ text.length ∧ last ≤ text.length := by
  induction node generalizing first last with
  | empty =>
      obtain ⟨rfl, within⟩ := (mem_ends_empty ignoreCase text first last).mp matched
      exact ⟨within, within⟩
  | literal c | any =>
      rw [Node.ends] at matched
      split at matched
      · next other found =>
          have within := (List.getElem?_eq_some_iff.mp found).1
          split at matched <;> simp only [List.mem_singleton, List.not_mem_nil] at matched
          omega
      · cases matched
  | start =>
      obtain ⟨rfl, rfl⟩ := (mem_ends_start ignoreCase text first last).mp matched
      exact ⟨Nat.zero_le _, Nat.zero_le _⟩
  | finish =>
      obtain ⟨rfl, rfl⟩ := (mem_ends_finish ignoreCase text first last).mp matched
      exact ⟨Nat.le_refl _, Nat.le_refl _⟩
  | both a b ihA ihB =>
      obtain ⟨middle, early, late⟩ := (mem_ends_both ignoreCase text first last a b).mp matched
      exact ⟨(ihA first middle early).1, (ihB middle last late).2⟩
  | either a b ihA ihB =>
      rcases List.mem_append.mp matched with left | right
      · exact ihA first last left
      · exact ihB first last right

/-! A pattern is read in the same way inside a group as on its own. -/

def State.within (state : State) (outer : List Frame) : State :=
  { state with around := state.around ++ outer }

theorem readSign_within (frame : Frame) (around outer : List Frame) (sign : Sign) (next : State)
    (done : readSign frame around sign = some next) :
    readSign frame (around ++ outer) sign = some (next.within outer) := by
  cases sign with
  | opens | bar | node =>
      cases done
      rfl
  | closes =>
      cases around with
      | nil => cases done
      | cons enclosing rest =>
          cases done
          rfl
  | reserved => cases done

theorem read_within (state next : State) (outer : List Frame) (c : Char)
    (done : read state c = some next) :
    read (state.within outer) c = some (next.within outer) := by
  obtain ⟨opening, frame, around⟩ := state
  cases opening with
  | none => exact readSign_within frame around outer (sign c) next done
  | parenthesis =>
      by_cases mark : c = '?'
      · subst mark
        cases done
        rfl
      · simp only [State.within, read, mark, ↓reduceIte] at done ⊢
        exact readSign_within frame around outer (sign c) next done
  | questionMark =>
      by_cases mark : c = ':'
      · subst mark
        cases done
        rfl
      · simp only [read, mark, ↓reduceIte] at done
        cases done

theorem foldlM_within (chars : List Char) (state next : State) (outer : List Frame)
    (done : chars.foldlM read state = some next) :
    chars.foldlM read (state.within outer) = some (next.within outer) := by
  induction chars generalizing state with
  | nil =>
      cases done
      rfl
  | cons c rest ih =>
      simp only [List.foldlM_cons, Option.bind_eq_bind, Option.bind_eq_some_iff] at done ⊢
      obtain ⟨middle, first, later⟩ := done
      exact ⟨middle.within outer, read_within state middle outer c first, ih middle later⟩

theorem read_of_parse (pattern : String) (node : Node) (parsed : parse pattern = some node) :
    ∃ frame : Frame, frame.node = node ∧
      pattern.toList.foldlM read State.fresh = some ⟨.none, frame, []⟩ := by
  obtain ⟨⟨opening, frame, around⟩, done, closed⟩ := Option.bind_eq_some_iff.mp parsed
  cases opening with
  | none =>
      cases around with
      | nil => exact ⟨frame, Option.some.inj closed, done⟩
      | cons outer rest => cases closed
  | parenthesis | questionMark => cases closed

/-- The node that a pattern adds to whatever has been read before. -/
def Adds (pattern : String) (node : Node) : Prop :=
  ∀ frame around, pattern.toList.foldlM read ⟨.none, frame, around⟩ =
    some ⟨.none, frame.add node, around⟩

theorem adds_start : Adds "^" .start := by
  intro frame around
  rfl

theorem adds_finish : Adds "$" .finish := by
  intro frame around
  rfl

theorem adds_grouped (pattern : String) (node : Node) (parsed : parse pattern = some node) :
    Adds (grouped pattern) node := by
  intro frame around
  obtain ⟨inside, rfl, done⟩ := read_of_parse pattern node parsed
  have within := foldlM_within _ _ _ (frame :: around) done
  have chars : (grouped pattern).toList = '(' :: '?' :: ':' :: (pattern.toList ++ [')']) := by
    simp [grouped, String.toList_append]
  rw [chars]
  -- What follows the mark is read as on its own.
  show (pattern.toList ++ [')']).foldlM read (State.fresh.within (frame :: around)) = _
  rw [List.foldlM_append, within]
  rfl

/-! What is documented -/

theorem accepts_iff (pattern : String) :
    engine.Accepts pattern ignoreCase ↔ ∃ node, parse pattern = some node := by
  simp only [Engine.Accepts, engine]
  cases parse pattern with
  | none => simp [Except.isOk, Except.toBool]
  | some node => simp [Except.isOk, Except.toBool]

theorem occurs_iff (node : Node) (text : String) : occurs ignoreCase node text = true ↔
    ∃ first last, last ∈ node.ends ignoreCase text.toList first := by
  simp only [occurs, List.any_eq_true, List.mem_range, Bool.not_eq_true',
    List.isEmpty_eq_false_iff_exists_mem]
  constructor
  · rintro ⟨first, _, last, matched⟩
    exact ⟨first, last, matched⟩
  · rintro ⟨first, last, matched⟩
    have bound := (mem_ends_le ignoreCase text.toList first last node matched).1
    rw [String.length_toList] at bound
    exact ⟨first, Nat.lt_succ_of_le bound, last, matched⟩

theorem stretches_of_parse (pattern text : String) (node : Node)
    (parsed : parse pattern = some node) : stretches pattern ignoreCase text first last ↔
      last ∈ node.ends ignoreCase text.toList first := by
  simp [stretches, parsed]

-- What stands before the first node of a pattern takes up nothing of the text.
theorem mem_ends_add (node : Node) :
    last ∈ (Frame.fresh.add node).node.ends ignoreCase text first ↔
      last ∈ node.ends ignoreCase text first := by
  rw [Frame.node, Frame.add, Frame.fresh, mem_ends_both]
  simp only [mem_ends_empty]
  constructor
  · rintro ⟨middle, ⟨rfl, _⟩, matched⟩
    exact matched
  · intro matched
    exact ⟨first, ⟨rfl, (mem_ends_le ignoreCase text first last node matched).1⟩, matched⟩

theorem stretches_of_adds (pattern text : String) (node : Node) (adds : Adds pattern node) :
    stretches pattern ignoreCase text first last ↔
      last ∈ node.ends ignoreCase text.toList first := by
  have parsed : parse pattern = some (Frame.fresh.add node).node := by
    rw [parse, State.fresh, adds]
    rfl
  rw [stretches_of_parse ignoreCase first last pattern text _ parsed, mem_ends_add]

theorem adds_of_piece (piece : String) (valid : engine.Piece ignoreCase piece) :
    ∃ node, Adds piece node := by
  cases valid with
  | start => exact ⟨_, adds_start⟩
  | finish => exact ⟨_, adds_finish⟩
  | group pattern alone =>
      obtain ⟨node, parsed⟩ := (accepts_iff ignoreCase pattern).mp alone
      exact ⟨node, adds_grouped pattern node parsed⟩

/-- Pieces add one node that matches what they match one after the other. -/
theorem adds_pieces (pieces : List String)
    (valid : ∀ piece ∈ pieces, engine.Piece ignoreCase piece) (frame : Frame)
    (around : List Frame) : ∃ next : Frame,
      (String.join pieces).toList.foldlM read ⟨.none, frame, around⟩ =
        some ⟨.none, next, around⟩ ∧ next.before = frame.before ∧
      ∀ (text : String) (first last : Nat),
        last ∈ next.last.ends ignoreCase text.toList first ↔
          ∃ middle ∈ frame.last.ends ignoreCase text.toList first,
            Chained stretches ignoreCase text pieces middle last := by
  induction pieces generalizing frame with
  | nil =>
      refine ⟨frame, rfl, rfl, fun text first last => ?_⟩
      simp only [Chained]
      constructor
      · intro matched
        have bound := (mem_ends_le ignoreCase text.toList first last _ matched).2
        rw [String.length_toList] at bound
        exact ⟨last, matched, rfl, bound⟩
      · rintro ⟨middle, matched, rfl, _⟩
        exact matched
  | cons piece rest ih =>
      obtain ⟨node, adds⟩ := adds_of_piece ignoreCase piece (valid piece List.mem_cons_self)
      obtain ⟨next, done, same, exact⟩ :=
        ih (fun other member => valid other (List.mem_cons_of_mem piece member)) (frame.add node)
      refine ⟨next, ?_, same, fun text first last => ?_⟩
      · rw [String.toList_join, List.flatMap_cons, List.foldlM_append, adds frame around]
        rw [String.toList_join] at done
        exact done
      · simp only [exact, Frame.add, mem_ends_both, Chained,
          stretches_of_adds ignoreCase _ _ piece text node adds]
        constructor
        · rintro ⟨middle, ⟨start, early, late⟩, chained⟩
          exact ⟨start, early, middle, late, chained⟩
        · rintro ⟨start, early, middle, late, chained⟩
          exact ⟨middle, ⟨start, early, late⟩, chained⟩

theorem chained_le (pieces : List String) (text : String)
    (chained : Chained stretches ignoreCase text pieces first last) : first ≤ text.length := by
  cases pieces with
  | nil => exact chained.2
  | cons piece rest =>
      obtain ⟨middle, ⟨node, _, matched⟩, _⟩ := chained
      rw [← String.length_toList]
      exact (mem_ends_le ignoreCase text.toList first middle node matched).1

theorem sample_documented : engine.Documented stretches where
  found pattern ignoreCase matcher built text := by
    cases parsed : parse pattern with
    | none => simp [engine, parsed] at built
    | some node =>
        simp only [engine, parsed, Except.ok.injEq] at built
        rw [← built, occurs_iff]
        simp only [stretches_of_parse ignoreCase _ _ pattern text node parsed]
  start ignoreCase text first last := by
    rw [stretches_of_adds ignoreCase first last "^" text .start adds_start, mem_ends_start]
  finish ignoreCase text first last := by
    rw [stretches_of_adds ignoreCase first last "$" text .finish adds_finish, mem_ends_finish,
      String.length_toList]
  group pattern ignoreCase text first last alone _ := by
    obtain ⟨node, parsed⟩ := (accepts_iff ignoreCase pattern).mp alone
    rw [stretches_of_parse ignoreCase first last pattern text node parsed,
      stretches_of_adds ignoreCase first last _ text node (adds_grouped pattern node parsed)]
  sequence pieces ignoreCase text first last valid _ := by
    obtain ⟨next, done, same, exact⟩ := adds_pieces ignoreCase pieces valid .fresh []
    have parsed : parse (String.join pieces) = some next.last := by
      rw [parse, State.fresh, done]
      simp [State.node?, Frame.node, same, Frame.fresh]
    rw [stretches_of_parse ignoreCase first last _ text _ parsed, exact]
    simp only [Frame.fresh, mem_ends_empty]
    constructor
    · rintro ⟨middle, ⟨rfl, _⟩, chained⟩
      exact chained
    · intro chained
      have within := chained_le ignoreCase first last pieces text chained
      rw [← String.length_toList] at within
      exact ⟨first, ⟨rfl, within⟩, chained⟩

end Gallery.Pattern.Sample
