import Gallery.Hash.Raster
import Gallery.Text.Quoted
import Gallery.Text.Record

/-!
Reading gray maps and pixel maps in the Netpbm formats: `P2` and `P3` with the samples as text, `P5`
and `P6` with the samples as bytes.
-/

namespace Gallery.Host

inductive NumberFault where
  | empty
  | invalidDigit
  | tooLarge
  deriving DecidableEq, Repr

inductive NumberPlace where
  | header
  | sample
  deriving DecidableEq, Repr

inductive ImageError where
  | noMagic
  | headerEnds
  | unknownMagic (first second : UInt8)
  | nonAsciiHeader (byte : UInt8)
  | nonAsciiSample
  | unreadableNumber (place : NumberPlace) (word : String) (fault : NumberFault)
  | maximumZero
  | maximumTooLarge (n : Nat)
  | samplesEnd
  deriving DecidableEq, Repr

def NumberFault.detail : NumberFault → String
  | empty => "Empty"
  | invalidDigit => "InvalidDigit"
  | tooLarge => "PosOverflow"

def NumberPlace.detail : NumberPlace → String
  | header => "Preamble"
  | sample => "Sample"

def ImageError.detail : ImageError → String
  | noMagic | headerEnds => "UnexpectedPnmHeaderEnd"
  | unknownMagic first second =>
      Text.wrapped "PnmMagicInvalid" ["[" ++ toString first ++ ", " ++ toString second ++ "]"]
  | nonAsciiHeader byte => Text.wrapped "NonAsciiByteInHeader" [toString byte]
  | nonAsciiSample => "NonAsciiSample"
  | unreadableNumber place word fault =>
      Text.wrapped "UnparsableValue" [place.detail, Text.quoted word,
        Text.record "ParseIntError" [("kind", fault.detail)]]
  | maximumZero => "MaxvalZero"
  | maximumTooLarge n => Text.wrapped "MaxvalTooBig" [toString n]
  | samplesEnd => "InputTooShort"

namespace Netpbm

def isSeparator (byte : UInt8) : Bool :=
  byte == 32 || (9 ≤ byte && byte ≤ 13)

/-- Reads the next word of a header after the bytes `word`, and the one separator behind it. A
comment runs from a number sign to the end of the line and is skipped, also inside a word. -/
def readWord (word : List UInt8) (inComment : Bool) :
    List UInt8 → Except ImageError (List UInt8 × List UInt8)
  | [] => if word.isEmpty then .error .headerEnds else .ok (word.reverse, [])
  | byte :: rest =>
      if inComment then readWord word (byte != 10 && byte != 13) rest
      else if byte == 35 then readWord word true rest
      else if isSeparator byte then
        if word.isEmpty then readWord word false rest else .ok (word.reverse, rest)
      else if 128 ≤ byte then .error (.nonAsciiHeader byte)
      else readWord (byte :: word) false rest

def readDigits (limit n : Nat) : List Char → Except NumberFault Nat
  | [] => .ok n
  | c :: rest =>
      if !c.isDigit then .error .invalidDigit
      else if limit < 10 * n + (c.toNat - 48) then .error .tooLarge
      else readDigits limit (10 * n + (c.toNat - 48)) rest

def readDecimal (limit : Nat) : List Char → Except NumberFault Nat
  | [] => .error .empty
  | ['+'] => .error .invalidDigit
  | '+' :: digits => readDigits limit 0 digits
  | digits => readDigits limit 0 digits

def readNumber (place : NumberPlace) (limit : Nat) (word : List UInt8) : Except ImageError Nat :=
  let chars := word.map fun byte => Char.ofNat byte.toNat
  match readDecimal limit chars with
  | .ok n => .ok n
  | .error fault => .error (.unreadableNumber place (String.ofList chars) fault)

def readHeaderNumber (input : List UInt8) : Except ImageError (Nat × List UInt8) := do
  let (word, rest) ← readWord [] false input
  let n ← readNumber .header 0xFFFFFFFF word
  return (n, rest)

def readTextSamples (limit : Nat) :
    (count : Nat) → List UInt8 → (before : Array Nat) → Except ImageError (Array Nat)
  | 0, _, before => .ok before
  | count + 1, input, before => do
      let start := input.dropWhile isSeparator
      let word := start.takeWhile fun byte => !isSeparator byte
      if word.any (128 ≤ ·) then throw .nonAsciiSample
      let n ← readNumber .sample limit word
      readTextSamples limit count ((start.dropWhile fun byte => !isSeparator byte).drop 1)
        (before.push n)

def joinPairs : List UInt8 → List Nat
  | high :: low :: rest => (256 * high.toNat + low.toNat) :: joinPairs rest
  | _ => []

def readByteSamples (wide : Bool) (count : Nat) (input : List UInt8) :
    Except ImageError (Array Nat) :=
  let size := if wide then 2 * count else count
  let bytes := input.take size
  if bytes.length < size then .error .samplesEnd
  else .ok (if wide then joinPairs bytes else bytes.map UInt8.toNat).toArray

def stretch (top maximum sample : Nat) : Nat :=
  if top = maximum then sample
  else
    let factor := Float32.ofNat maximum / Float32.ofNat top
    min maximum (Float32.ofNat sample * factor).round.toUInt64.toNat

def readBody (channels : Nat) (asText : Bool) (input : List UInt8) : Except ImageError Raster := do
  let (width, rest) ← readHeaderNumber input
  let (height, rest) ← readHeaderNumber rest
  let (top, rest) ← readHeaderNumber rest
  if top = 0 then throw .maximumZero
  if 65535 < top then throw (.maximumTooLarge top)
  let maximum := if top ≤ 255 then 255 else 65535
  let count := width * height * channels
  let samples ←
    if asText then readTextSamples maximum count rest #[]
    else readByteSamples (255 < maximum) count rest
  return ⟨width, height, channels, maximum, samples.map (stretch top maximum)⟩

def read : List UInt8 → Except ImageError Raster
  | 80 :: 50 :: rest => readBody 1 true rest
  | 80 :: 51 :: rest => readBody 3 true rest
  | 80 :: 53 :: rest => readBody 1 false rest
  | 80 :: 54 :: rest => readBody 3 false rest
  | first :: second :: _ => .error (.unknownMagic first second)
  | _ => .error .noMagic

end Netpbm

end Gallery.Host
