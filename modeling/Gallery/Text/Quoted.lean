import Gallery.Text.Category
import Gallery.Text.Digits
import Gallery.Text.RawText

/-!
Quoted text: between quotes, with escapes for the quote, the backslash, and every character that
would not show: controls, marks that join the character before them, and unassigned or private
characters.
-/

namespace Gallery.Text

/-- The general categories of characters without a shape of their own; unassigned characters belong
to none of the listed categories. -/
def shapelessCategories : List String := ["Cc", "Cf", "Cs", "Co", "Zl", "Zp", "Zs"]

def isPrintable (c : Char) : Bool :=
  c == ' ' || generalCategories.any fun (code, set) =>
    !shapelessCategories.contains code && set.contains c

def escapeChar (quotes : List Char) (c : Char) : List Char :=
  if c = '\x00' then ['\\', '0']
  else if c = '\t' then ['\\', 't']
  else if c = '\n' then ['\\', 'n']
  else if c = '\r' then ['\\', 'r']
  else if c = '\\' ∨ quotes.contains c then ['\\', c]
  else if graphemeExtend.contains c || !isPrintable c then
    '\\' :: 'u' :: '\x7b' :: (hexText c.toNat ++ ['\x7d'])
  else [c]

def quoted (text : String) : String :=
  String.ofList ('"' :: (text.toList.flatMap (escapeChar ['"']) ++ ['"']))

def quotedChar (c : Char) : String :=
  String.ofList ('\x27' :: (escapeChar ['\x27'] c ++ ['\x27']))

def byteDigits (byte : UInt8) : List Char :=
  (hexDigits 2 byte.toNat).map Char.toUpper

def escapePiece : Piece → List Char
  | .char c => escapeChar ['"', '\x27'] c
  | .stray bytes => bytes.flatMap fun byte => '\\' :: 'x' :: byteDigits byte

def quotedRaw (raw : RawText) : String :=
  String.ofList ('"' :: ((pieces raw).flatMap escapePiece ++ ['"']))

end Gallery.Text
