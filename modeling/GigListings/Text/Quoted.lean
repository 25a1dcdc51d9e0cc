import GigListings.Text.Category

namespace GigListings.Text

/-! Texts between double quotes, with escapes for what could not be seen. -/

/-- Characters that attach to the one before them without being marks of their own. -/
def attaches (c : Char) : Bool :=
  ["Mn", "Me"].contains (category c) ||
    [0x9BE, 0x9D7, 0xB3E, 0xB57, 0xBBE, 0xBD7, 0xCC2, 0xCD5, 0xCD6, 0xD3E, 0xD57, 0xDCF, 0xDDF,
      0x1B35, 0x302E, 0x302F, 0xFF9E, 0xFF9F, 0x1133E, 0x11357, 0x114B0, 0x114BD, 0x115AF,
      0x11930, 0x1D165, 0x1D16E, 0x1D16F, 0x1D170, 0x1D171, 0x1D172].contains c.toNat

/-- Categories of characters that leave no ink. -/
def inklessCategories : List String := ["Cc", "Cf", "Cs", "Co", "Cn", "Zs", "Zl", "Zp"]

/-- Characters that leave ink, and the space. -/
def isPrintable (c : Char) : Bool := c == ' ' || !inklessCategories.contains (category c)

def escaped (c : Char) : List Char :=
  match c with
  | '"' => ['\\', '"']
  | '\\' => ['\\', '\\']
  | '\n' => ['\\', 'n']
  | '\r' => ['\\', 'r']
  | '\t' => ['\\', 't']
  | '\x00' => ['\\', '0']
  | c =>
      if c.toNat < 128 then
        if 0x20 ≤ c.toNat ∧ c.toNat < 0x7F then [c]
        else ['\\', 'u', '\x7b'] ++ Nat.toDigits 16 c.toNat ++ ['\x7d']
      else if isPrintable c && !attaches c then [c]
      else ['\\', 'u', '\x7b'] ++ Nat.toDigits 16 c.toNat ++ ['\x7d']

def quoted (text : String) : String :=
  String.ofList ('"' :: text.toList.flatMap escaped ++ ['"'])

end GigListings.Text
