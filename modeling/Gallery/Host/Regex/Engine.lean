import Gallery.Pattern.WholeMatch
import Gallery.Host.Regex.Match
import Gallery.Host.Regex.Parse

/-!
The engine of regular expressions with which the program runs. It stands in for a library that is
not part of the program, as far as the patterns of a picture library need one: scripts, ages and
breaks of text have no names here, and the room that a pattern takes is an estimate. What is proved
of the program is proved for every engine, or for those with stated properties.
-/

namespace Gallery.Host.Regex

def engine : Pattern.Engine where
  build pattern ignoreCase :=
    match parse pattern ignoreCase with
    | .ok node => .ok fun text => node.occursIn text.toList.toArray
    | .error error => .error error.message

end Gallery.Host.Regex
