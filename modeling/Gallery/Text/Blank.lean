/-!
White space of any script (Unicode 16), the removal of it at the ends of a text, and the words
between.
-/

namespace Gallery.Text

def isBlank (c : Char) : Bool :=
  let n := c.toNat
  n == 32 || (9 ≤ n && n ≤ 13) || n == 133 || n == 160 || n == 5760 || (8192 ≤ n && n ≤ 8202) ||
    n == 8232 || n == 8233 || n == 8239 || n == 8287 || n == 12288

def trimStart (text : List Char) : List Char :=
  text.dropWhile isBlank

def trim (text : String) : String :=
  String.ofList (trimStart (trimStart text.toList).reverse).reverse

def isBlankText (text : List Char) : Bool :=
  text.all isBlank

def wordsAfter (word : List Char) : List Char → List String
  | [] => if word.isEmpty then [] else [String.ofList word.reverse]
  | c :: rest =>
      if !isBlank c then wordsAfter (c :: word) rest
      else if word.isEmpty then wordsAfter [] rest
      else String.ofList word.reverse :: wordsAfter [] rest

def words (text : String) : List String :=
  wordsAfter [] text.toList

end Gallery.Text
