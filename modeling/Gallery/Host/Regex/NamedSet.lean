import Gallery.Host.Regex.CharSet

/-!
Character sets that patterns ask for by name: the general categories. Letter case, blanks, hyphens,
underscores and a leading `is` play no role in a name. Scripts and properties are not known here.
-/

namespace Gallery.Host.Regex

def categoryNames : List (List String × List String) := [
  (["lu", "uppercaseletter"], ["Lu"]),
  (["ll", "lowercaseletter"], ["Ll"]),
  (["lt", "titlecaseletter"], ["Lt"]),
  (["lc", "casedletter"], ["Lu", "Ll", "Lt"]),
  (["lm", "modifierletter"], ["Lm"]),
  (["lo", "otherletter"], ["Lo"]),
  (["l", "letter"], ["Lu", "Ll", "Lt", "Lm", "Lo"]),
  (["mn", "nonspacingmark"], ["Mn"]),
  (["mc", "spacingmark"], ["Mc"]),
  (["me", "enclosingmark"], ["Me"]),
  (["m", "mark", "combiningmark"], ["Mn", "Mc", "Me"]),
  (["nd", "decimalnumber", "digit"], ["Nd"]),
  (["nl", "letternumber"], ["Nl"]),
  (["no", "othernumber"], ["No"]),
  (["n", "number"], ["Nd", "Nl", "No"]),
  (["pc", "connectorpunctuation"], ["Pc"]),
  (["pd", "dashpunctuation"], ["Pd"]),
  (["ps", "openpunctuation"], ["Ps"]),
  (["pe", "closepunctuation"], ["Pe"]),
  (["pi", "initialpunctuation"], ["Pi"]),
  (["pf", "finalpunctuation"], ["Pf"]),
  (["po", "otherpunctuation"], ["Po"]),
  (["p", "punctuation", "punct"], ["Pc", "Pd", "Ps", "Pe", "Pi", "Pf", "Po"]),
  (["sm", "mathsymbol"], ["Sm"]),
  (["sc", "currencysymbol"], ["Sc"]),
  (["sk", "modifiersymbol"], ["Sk"]),
  (["so", "othersymbol"], ["So"]),
  (["s", "symbol"], ["Sm", "Sc", "Sk", "So"]),
  (["zs", "spaceseparator"], ["Zs"]),
  (["zl", "lineseparator"], ["Zl"]),
  (["zp", "paragraphseparator"], ["Zp"]),
  (["z", "separator"], ["Zs", "Zl", "Zp"]),
  (["cc", "control", "cntrl"], ["Cc"]),
  (["cf", "format"], ["Cf"]),
  (["co", "privateuse"], ["Co"])]

def categorySet (codes : List String) : CharSet :=
  .unionOf ((Text.generalCategories.filter fun entry => codes.contains entry.1).map
    fun entry => .table entry.2)

def assigned : CharSet :=
  .unionOf (Text.generalCategories.map fun entry => .table entry.2)

def categoryNamed? (name : String) : Option CharSet :=
  if name == "any" then some .everything
  else if name == "ascii" then some (.range (Char.ofNat 0) (Char.ofNat 127))
  else if name == "assigned" then some assigned
  else if name == "cn" || name == "unassigned" then some (.complement assigned)
  else if name == "c" || name == "other" then
    some (.union (.complement assigned) (categorySet ["Cc", "Cf", "Co"]))
  else (categoryNames.find? (·.1.contains name)).map fun entry => categorySet entry.2

def plainName (name : List Char) : String :=
  let letters := fun (chars : List Char) =>
    (chars.filter fun c => c != ' ' && c != '_' && c != '-' && c.toNat < 128).map Char.toLower
  match name with
  | a :: b :: rest =>
      if a.toLower == 'i' && b.toLower == 's' then
        if letters rest == ['c'] then "isc" else String.ofList (letters rest)
      else String.ofList (letters name)
  | _ => String.ofList (letters name)

def setNamed? (name : List Char) : Option CharSet :=
  categoryNamed? (plainName name)

def isPropertyName (name : List Char) : Bool :=
  ["gc", "generalcategory"].contains (plainName name)

def setValued? (property value : List Char) : Option CharSet :=
  if isPropertyName property then categoryNamed? (plainName value) else none

def asciiSetNamed? (name : List Char) : Option CharSet :=
  let upper := CharSet.range 'A' 'Z'
  let lower := CharSet.range 'a' 'z'
  let digits := CharSet.range '0' '9'
  match String.ofList name with
  | "alnum" => some (.unionOf [digits, upper, lower])
  | "alpha" => some (.unionOf [upper, lower])
  | "ascii" => some (.range (Char.ofNat 0) (Char.ofNat 127))
  | "blank" => some (.unionOf [.single '\t', .single ' '])
  | "cntrl" => some (.unionOf [.range (Char.ofNat 0) (Char.ofNat 31), .single (Char.ofNat 127)])
  | "digit" => some digits
  | "graph" => some (.range '!' '~')
  | "lower" => some lower
  | "print" => some (.range ' ' '~')
  | "punct" =>
      some (.unionOf [.range '!' '/', .range ':' '@', .range '[' (Char.ofNat 96),
        .range (Char.ofNat 123) '~'])
  | "space" => some (.unionOf [.range '\t' '\r', .single ' '])
  | "upper" => some upper
  | "word" => some (.unionOf [digits, upper, .single '_', lower])
  | "xdigit" => some (.unionOf [digits, .range 'A' 'F', .range 'a' 'f'])
  | _ => none

end Gallery.Host.Regex
