import GigListings.Text.CategoryTable
import GigListings.Text.ScriptTable
import GigListings.Text.Class

namespace GigListings.Text

/-! Looking up categories, scripts and a few binary properties by their registered names. -/

structure CategoryRanges where
  starts : Array Nat
  names : Array String
deriving Inhabited

def readCategories (table : CategoryRanges) (start : Nat) : List (List Char) → CategoryRanges
  | length :: name :: rest =>
      readCategories ⟨table.starts.push start, table.names.push (String.ofList name)⟩
        (start + hexValue length) rest
  | _ => table

def categoryRanges : CategoryRanges := readCategories ⟨#[], #[]⟩ 0 (tableTokens categoryTable)

def category (c : Char) : String :=
  categoryRanges.names.getD (countLe categoryRanges.starts c.toNat 0 categoryRanges.starts.size - 1)
    "Cn"

/-- Long names of the categories and groups of categories, with the codes they cover. -/
def categoryNames : List (List String × List String) := [
  (["l", "letter"], ["Lu", "Ll", "Lt", "Lm", "Lo"]),
  (["lc", "casedletter"], ["Lu", "Ll", "Lt"]),
  (["lu", "uppercaseletter"], ["Lu"]), (["ll", "lowercaseletter"], ["Ll"]),
  (["lt", "titlecaseletter"], ["Lt"]), (["lm", "modifierletter"], ["Lm"]),
  (["lo", "otherletter"], ["Lo"]),
  (["m", "mark", "combiningmark"], ["Mn", "Mc", "Me"]),
  (["mn", "nonspacingmark"], ["Mn"]), (["mc", "spacingmark"], ["Mc"]),
  (["me", "enclosingmark"], ["Me"]),
  (["n", "number"], ["Nd", "Nl", "No"]),
  (["nd", "decimalnumber", "digit"], ["Nd"]), (["nl", "letternumber"], ["Nl"]),
  (["no", "othernumber"], ["No"]),
  (["p", "punctuation", "punct"], ["Pc", "Pd", "Ps", "Pe", "Pi", "Pf", "Po"]),
  (["pc", "connectorpunctuation"], ["Pc"]), (["pd", "dashpunctuation"], ["Pd"]),
  (["ps", "openpunctuation"], ["Ps"]), (["pe", "closepunctuation"], ["Pe"]),
  (["pi", "initialpunctuation"], ["Pi"]), (["pf", "finalpunctuation"], ["Pf"]),
  (["po", "otherpunctuation"], ["Po"]),
  (["s", "symbol"], ["Sm", "Sc", "Sk", "So"]),
  (["sm", "mathsymbol"], ["Sm"]), (["sc", "currencysymbol"], ["Sc"]),
  (["sk", "modifiersymbol"], ["Sk"]), (["so", "othersymbol"], ["So"]),
  (["z", "separator"], ["Zs", "Zl", "Zp"]),
  (["zs", "spaceseparator"], ["Zs"]), (["zl", "lineseparator"], ["Zl"]),
  (["zp", "paragraphseparator"], ["Zp"]),
  (["c", "other"], ["Cc", "Cf", "Cs", "Co", "Cn"]),
  (["cc", "control", "cntrl"], ["Cc"]), (["cf", "format"], ["Cf"]),
  (["co", "privateuse"], ["Co"]), (["cs", "surrogate"], ["Cs"]),
  (["cn", "unassigned"], ["Cn"])]

/-- Names are compared without case, blanks, hyphens and underscores. -/
def looseName (name : List Char) : String :=
  String.ofList ((name.map asciiLowerLetter).filter fun c =>
    !(isBlank c || c == '-' || c == '_'))
where
  asciiLowerLetter (c : Char) : Char :=
    if isAsciiUpper c then Char.ofNat (c.toNat + 32) else c

/-- Capital letters, and Roman numerals and framed letters in capitals. -/
def isUppercase (c : Char) : Bool :=
  let code := c.toNat
  category c == "Lu" || (0x2160 ≤ code && code ≤ 0x216F) || (0x24B6 ≤ code && code ≤ 0x24CF) ||
    (0x1F130 ≤ code && code ≤ 0x1F149) || (0x1F150 ≤ code && code ≤ 0x1F169) ||
    (0x1F170 ≤ code && code ≤ 0x1F189)

def isLowercase (c : Char) : Bool := isCased c && !isUppercase c && category c != "Lt"

def binaryProperties : List (List String × (Char → Bool)) := [
  (["alphabetic", "alpha"], isLetter),
  (["whitespace", "wspace", "space"], isBlank),
  (["lowercase", "lower"], isLowercase),
  (["uppercase", "upper"], isUppercase),
  (["cased"], isCased),
  (["caseignorable", "ci"], isCaseIgnorable),
  (["any"], fun _ => true),
  (["assigned"], fun c => category c ≠ "Cn"),
  (["ascii"], fun c => c.toNat < 128)]

def scriptNamed? (name : String) : Option (Char → Bool) :=
  (scriptTable.find? fun (short, long, _) => short = name || long = name).map fun (_, _, table) =>
    let ranges := CodeRanges.ofText table
    fun c => ranges.contains c.toNat

def categoryNamed? (name : String) : Option (Char → Bool) :=
  (categoryNames.find? fun (names, _) => names.contains name).map fun (_, codes) =>
    fun c => codes.contains (category c)

/-- The characters that a property, category or script name stands for. -/
def propertyNamed? (name : List Char) : Option (Char → Bool) :=
  let name := looseName name
  match binaryProperties.find? fun (names, _) => names.contains name with
  | some (_, holds) => some holds
  | none => categoryNamed? name <|> scriptNamed? name

/-- The characters for which a property has a value. -/
def propertyValue? (property value : List Char) : Option (Char → Bool) :=
  let property := looseName property
  if ["gc", "generalcategory"].contains property then categoryNamed? (looseName value)
  else if ["sc", "script", "scx", "scriptextensions"].contains property then
    scriptNamed? (looseName value)
  else none

end GigListings.Text
