import GigListings.Css.Selector
import GigListings.Css.Token
import GigListings.Text.Case

namespace GigListings.Css

open Text

/-! Reading selectors. Brackets that are still open where the text ends are closed there. -/

def lowered (text : String) : String := String.ofList (text.toList.map asciiLower)

def skipBlank : List Token → List Token
  | .blank :: rest => skipBlank rest
  | tokens => tokens

def afterClosing? (closing : Char) (tokens : List Token) : Option (List Token) :=
  match skipBlank tokens with
  | [] => some []
  | .delim c :: rest => if c = closing then some rest else none
  | _ => none

/-! Positions. -/

def nameDashDigits? (text : String) : Option Int :=
  match text.toList with
  | n :: '-' :: d :: digits =>
      if (n == 'n' || n == 'N') && (d :: digits).all isAsciiDigit then
        some (clamped (-digitsValue (d :: digits)))
      else none
  | _ => none

abbrev Progression := Int × Int

def unsignedOffset? (step sign : Int) (tokens : List Token) : Option (Progression × List Token) :=
  match skipBlank tokens with
  | .number false (some offset) :: rest => some ((step, sign * offset), rest)
  | _ => none

def offset? (step : Int) (tokens : List Token) : Option (Progression × List Token) :=
  match skipBlank tokens with
  | .delim '+' :: rest => unsignedOffset? step 1 rest
  | .delim '-' :: rest => unsignedOffset? step (-1) rest
  | .number true (some offset) :: rest => some ((step, offset), rest)
  | _ => some ((step, 0), tokens)

/-- What stands behind a step: the letter alone, with a dash, or with a dash and digits. -/
def progressionAfter? (step : Int) (unit : String) (rest : List Token) :
    Option (Progression × List Token) :=
  match lowered unit with
  | "n" => offset? step rest
  | "n-" => unsignedOffset? step (-1) rest
  | unit => (nameDashDigits? unit).map fun offset => ((step, offset), rest)

def progression? (tokens : List Token) : Option (Progression × List Token) :=
  match skipBlank tokens with
  | .number _ (some offset) :: rest => some ((0, offset), rest)
  | .dimension (some step) unit :: rest => progressionAfter? step unit rest
  | .ident word :: rest =>
      match lowered word with
      | "even" => some ((2, 0), rest)
      | "odd" => some ((2, 1), rest)
      | word =>
          match word.toList with
          | '-' :: unit => progressionAfter? (-1) (String.ofList unit) rest
          | _ => progressionAfter? 1 word rest
  | .delim '+' :: .ident unit :: rest => progressionAfter? 1 unit rest
  | _ => none

/-! Simple selectors. -/

/-- Attributes of pages whose values are compared without regard to case. -/
def caselessAttributes : List String :=
  ["accept", "accept-charset", "align", "alink", "axis", "bgcolor", "charset", "checked", "clear",
    "codetype", "color", "compact", "declare", "defer", "dir", "direction", "disabled", "enctype",
    "face", "frame", "hreflang", "http-equiv", "lang", "language", "link", "media", "method",
    "multiple", "nohref", "noresize", "noshade", "nowrap", "readonly", "rel", "rev", "rules",
    "scope", "scrolling", "selected", "shape", "target", "text", "type", "valign", "valuetype",
    "vlink"]

def typeSelector? : List Token → Option (Option (List Simple) × List Token)
  | .ident _ :: .delim '|' :: _ => none
  | .ident name :: rest => some (some [.typeName name], rest)
  | .delim '*' :: .delim '|' :: .delim '*' :: rest => some (some [], rest)
  | .delim '*' :: .delim '|' :: .ident name :: rest => some (some [.typeName name], rest)
  | .delim '*' :: .delim '|' :: _ => none
  | .delim '*' :: rest => some (some [], rest)
  | .delim '|' :: .delim '*' :: rest => some (some [.never], rest)
  | .delim '|' :: .ident _ :: rest => some (some [.never], rest)
  | .delim '|' :: _ => none
  | tokens => some (none, tokens)

def attributeName? : List Token → Option (Bool × String × List Token)
  | .ident _ :: .delim '|' :: _ => none
  | .ident name :: rest => some (false, name, rest)
  | .delim '*' :: .delim '|' :: .ident name :: rest => some (true, name, rest)
  | .delim '|' :: .ident name :: rest => some (false, name, rest)
  | _ => none

def relation? : Token → Option Relation
  | .delim '=' => some .equal
  | .matcher '~' => some .word
  | .matcher '|' => some .language
  | .matcher '^' => some .lead
  | .matcher '$' => some .tail
  | .matcher '*' => some .within
  | _ => none

/-- The case rule that stands behind a value, or the one that goes with the attribute. -/
def caseRule? (anySpace : Bool) (name : String) (tokens : List Token) :
    Option (CaseRule × List Token) :=
  match skipBlank tokens with
  | .ident flag :: rest =>
      match lowered flag with
      | "i" => some (.ignored, rest)
      | "s" => some (.exact, rest)
      | _ => none
  | rest =>
      some (if !anySpace && caselessAttributes.contains (lowered name) then .ignoredInHtml
        else .exact, rest)

def attributeSelector? (tokens : List Token) : Option (Simple × List Token) := do
  let (anySpace, name, rest) ← attributeName? (skipBlank tokens)
  match afterClosing? ']' rest with
  | some rest => return (.attribute anySpace name none, rest)
  | none =>
      match skipBlank rest with
      | token :: rest =>
          let relation ← relation? token
          let (text, rest) ← match skipBlank rest with
            | .ident text :: rest => some (text, rest)
            | .string text :: rest => some (text, rest)
            | _ => none
          let (case, rest) ← caseRule? anySpace name rest
          let rest ← afterClosing? ']' rest
          return (.attribute anySpace name (some ⟨relation, text, case⟩), rest)
      | [] => none

def first (ofType fromEnd : Bool) : Simple := .nth ⟨ofType, fromEnd, 0, 1⟩

def plainPseudo? (name : String) : Option (List Simple) :=
  match lowered name with
  | "first-child" => some [first false false]
  | "last-child" => some [first false true]
  | "only-child" => some [first false false, first false true]
  | "first-of-type" => some [first true false]
  | "last-of-type" => some [first true true]
  | "only-of-type" => some [first true false, first true true]
  | "root" => some [.root]
  | "empty" => some [.empty]
  | "scope" => some [.scope]
  | _ => none

def nthPseudo? (ofType fromEnd : Bool) (tokens : List Token) :
    Option (List Simple × List Token) := do
  let ((step, offset), rest) ← progression? tokens
  let rest ← afterClosing? ')' rest
  return ([.nth ⟨ofType, fromEnd, step, offset⟩], rest)

/-! Whole selectors. -/

def combinator (spaced : Bool) : List Token → Option Combinator × List Token
  | .blank :: rest => combinator true rest
  | .delim '>' :: rest => (some .child, rest)
  | .delim '+' :: rest => (some .next, rest)
  | .delim '~' :: rest => (some .later, rest)
  | [] => (none, [])
  | .delim ',' :: rest => (none, .delim ',' :: rest)
  | .delim ')' :: rest => (none, .delim ')' :: rest)
  | tokens => (if spaced then some .descendant else none, tokens)

mutual

def simples? : (fuel : Nat) → List Token → Option (List Simple × List Token)
  | 0, _ => none
  | fuel + 1, tokens =>
      let more (found : List Simple) (rest : List Token) : Option (List Simple × List Token) :=
        (simples? fuel rest).map fun (simples, rest) => (found ++ simples, rest)
      match tokens with
      | .id name :: rest => more [.id name] rest
      | .delim '.' :: .ident name :: rest => more [.className name] rest
      | .delim '.' :: _ => none
      | .delim '[' :: rest => do
          let (simple, rest) ← attributeSelector? rest
          more [simple] rest
      | .delim ':' :: .ident name :: rest => do more (← plainPseudo? name) rest
      | .delim ':' :: .function name :: rest => do
          let (found, rest) ← functionPseudo? fuel (lowered name) rest
          more found rest
      | .delim ':' :: _ => none
      | rest => some ([], rest)

def functionPseudo? : (fuel : Nat) → String → List Token → Option (List Simple × List Token)
  | 0, _, _ => none
  | fuel + 1, name, tokens =>
      match name with
      | "nth-child" => nthPseudo? false false tokens
      | "nth-last-child" => nthPseudo? false true tokens
      | "nth-of-type" => nthPseudo? true false tokens
      | "nth-last-of-type" => nthPseudo? true true tokens
      | "not" => do
          let (alternatives, rest) ← alternatives? fuel tokens
          let rest ← afterClosing? ')' rest
          return ([.not alternatives], rest)
      | _ => none

def compound? : (fuel : Nat) → List Token → Option (List Simple × List Token)
  | 0, _ => none
  | fuel + 1, tokens => do
      let (typed, rest) ← typeSelector? (skipBlank tokens)
      let (simples, rest) ← simples? fuel rest
      match typed, simples with
      | none, [] => none
      | typed, simples => return (typed.getD [] ++ simples, rest)

def complexAfter? : (fuel : Nat) → Complex → List Token → Option (Complex × List Token)
  | 0, _, _ => none
  | fuel + 1, left, tokens =>
      match combinator false tokens with
      | (none, rest) => some (left, rest)
      | (some joined, rest) => do
          let (subject, rest) ← compound? fuel rest
          complexAfter? fuel (.after left joined subject) rest

def alternatives? : (fuel : Nat) → List Token → Option (List Complex × List Token)
  | 0, _ => none
  | fuel + 1, tokens => do
      let (subject, rest) ← compound? fuel tokens
      let (complex, rest) ← complexAfter? fuel (.alone subject) rest
      match rest with
      | .delim ',' :: rest =>
          let (more, rest) ← alternatives? fuel rest
          return (complex :: more, rest)
      | rest => return ([complex], rest)

end

structure SelectorFault where
  selector : String
deriving DecidableEq

def SelectorFault.message (fault : SelectorFault) : String :=
  "Invalid CSS selector '" ++ fault.selector ++ "': malformed selector"

namespace Selector

def parse? (text : String) : Option Selector :=
  let tokens := tokens text
  match alternatives? (4 * tokens.length + 8) tokens with
  | some (alternatives, []) => some ⟨alternatives⟩
  | _ => none

def parse (text : String) : Except SelectorFault Selector :=
  match parse? text with
  | some selector => .ok selector
  | none => .error ⟨text⟩

end Selector

end GigListings.Css
