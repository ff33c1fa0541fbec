/-!
Text that comes from outside as bytes, which need not be valid UTF-8. Reading cuts the bytes into
characters and stray runs; a stray run is the longest start of a character that the next byte breaks
off, or a single byte with which no character starts.
-/

namespace Gallery.Text

abbrev RawText := List UInt8

inductive Piece where
  | char (c : Char)
  | stray (bytes : List UInt8)
  deriving DecidableEq, Repr

def Piece.char? : Piece → Option Char
  | .char c => some c
  | .stray _ => none

def sequenceLength (first : UInt8) : Nat :=
  if first < 0x80 then 1
  else if first < 0xC2 then 0
  else if first < 0xE0 then 2
  else if first < 0xF0 then 3
  else if first < 0xF5 then 4
  else 0

/-- Whether `next` may follow the bytes `before`, the start of a character that is not yet complete.
The second byte is restricted so that no character has two forms and no surrogate has any. -/
def continues (before : List UInt8) (next : UInt8) : Bool :=
  let low : UInt8 := match before with
    | [0xE0] => 0xA0
    | [0xF0] => 0x90
    | _ => 0x80
  let high : UInt8 := match before with
    | [0xED] => 0x9F
    | [0xF4] => 0x8F
    | _ => 0xBF
  low ≤ next && next ≤ high

def assemble : List UInt8 → Char
  | [] => '\x00'
  | first :: rest =>
      let payload := match rest.length with
        | 0 => first.toNat
        | 1 => first.toNat % 32
        | 2 => first.toNat % 16
        | _ => first.toNat % 8
      Char.ofNat (rest.foldl (fun n byte => 64 * n + byte.toNat % 64) payload)

def unfinished (bytes : List UInt8) : List Piece :=
  if bytes.isEmpty then [] else [.stray bytes]

def stepFresh (byte : UInt8) : List Piece × List UInt8 :=
  match sequenceLength byte with
  | 0 => ([.stray [byte]], [])
  | 1 => ([.char (assemble [byte])], [])
  | _ => ([], [byte])

def step (start : List UInt8) (byte : UInt8) : List Piece × List UInt8 :=
  match start with
  | [] => stepFresh byte
  | first :: _ =>
      if continues start byte then
        let bytes := start ++ [byte]
        if bytes.length = sequenceLength first then ([.char (assemble bytes)], []) else ([], bytes)
      else
        let (done, start') := stepFresh byte
        (.stray start :: done, start')

def piecesAfter (start : List UInt8) : RawText → List Piece
  | [] => unfinished start
  | byte :: rest =>
      let (done, start') := step start byte
      done ++ piecesAfter start' rest

def pieces (raw : RawText) : List Piece :=
  piecesAfter [] raw

def RawText.text? (raw : RawText) : Option String :=
  ((pieces raw).mapM Piece.char?).map String.ofList

def RawText.lossy (raw : RawText) : String :=
  String.ofList ((pieces raw).map fun piece => piece.char?.getD '\ufffd')

end Gallery.Text
