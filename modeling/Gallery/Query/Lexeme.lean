import Gallery.Text.Alphanumeric
import Gallery.Text.Blank

/-!
The characters and words of the query language. A label is made of letters, numbers and underscores
of any script; a type symbol is any visible character that is neither part of a label nor reserved;
three words are keywords.
-/

namespace Gallery.Query

def pseudoMark : Char := '#'

def reserved : List Char := [pseudoMark, '(', ')', '"', ':', '-']

def keywords : List String := ["AND", "OR", "NOT"]

def isLabelChar (c : Char) : Bool :=
  Text.isAlphanumeric c || c == '_'

def isTypeSymbol (c : Char) : Bool :=
  !Text.isBlank c && !isLabelChar c && !reserved.contains c

def isKeyword (word : String) : Bool :=
  keywords.contains word

def isGap (c : Char) : Bool :=
  c == ' ' || c == '\t' || c == '\r' || c == '\n'

def isBareChar (c : Char) : Bool :=
  !Text.isBlank c && c != '(' && c != ')' && c != '"'

def isLabel (label : String) : Bool :=
  !label.isEmpty && label.toList.all isLabelChar && !isKeyword label

end Gallery.Query
