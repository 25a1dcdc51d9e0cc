import GigListings.Pattern.Program
import GigListings.Text.Scan

namespace GigListings

open Text

/-! Reading regular expressions. A text that is not one has no pattern. -/

namespace Pattern

structure Settings where
  caseless : Bool
  multiLine : Bool
  dotAll : Bool
  swapGreed : Bool
  verbose : Bool
  returnLines : Bool
  unicode : Bool

def Settings.plain : Settings := ⟨false, false, false, false, false, false, true⟩

/-- What is left to read, how many groups there are so far, and the names of some. -/
structure Source where
  rest : List Char
  groups : Nat
  names : List (String × Nat)

def Source.setRest (source : Source) (rest : List Char) : Source := { source with rest }

def skipIgnored (settings : Settings) : (fuel : Nat) → List Char → List Char
  | 0, text => text
  | fuel + 1, text =>
      if settings.verbose then
        match skipBlanks text with
        | '#' :: rest => skipIgnored settings fuel (rest.dropWhile (· ≠ '\n'))
        | rest => rest
      else text

def skip (settings : Settings) (text : List Char) : List Char :=
  skipIgnored settings text.length text

/-! Single characters and sets. -/

inductive Escaped where
  | char (c : Char)
  | set (set : CharSet)
  | anchor (anchor : Anchor)

def validChar? (code : Nat) : Option Char :=
  if code.isValidChar then some (Char.ofNat code) else none

/-- A code point in braces, or in exactly `count` base 16 digits. -/
def codePoint? (count : Nat) : List Char → Option (Char × List Char)
  | '\x7b' :: rest =>
      let digits := rest.takeWhile (· ≠ '\x7d')
      match rest.dropWhile (· ≠ '\x7d') with
      | _ :: rest =>
          if digits ≠ [] ∧ digits.all (fun c => (hexDigit? c).isSome) then
            (validChar? (hexValue digits)).map (·, rest)
          else none
      | [] => none
  | text =>
      let digits := text.take count
      if digits.length = count ∧ digits.all (fun c => (hexDigit? c).isSome) then
        (validChar? (hexValue digits)).map (·, text.drop count)
      else none

def negateIf (negated : Bool) (set : CharSet) : CharSet := if negated then .compl set else set

def property? (negated : Bool) : List Char → Option (CharSet × List Char)
  | '\x7b' :: rest =>
      let name := rest.takeWhile (· ≠ '\x7d')
      match rest.dropWhile (· ≠ '\x7d') with
      | [] => none
      | _ :: rest =>
          let (caret, name) := match name with
            | '^' :: name => (true, name)
            | name => (false, name)
          let split := name.takeWhile fun c => c ≠ '=' && c ≠ ':'
          let value := name.drop (split.length + 1)
          let (differs, split) :=
            if (name.drop split.length).head? = some '=' ∧ split.getLast? = some '!' then
              (true, split.dropLast)
            else (false, split)
          let found := if split.length = name.length then propertyNamed? name
            else propertyValue? split value
          found.map fun holds => (negateIf ((negated != caret) != differs) (.all holds), rest)
  | c :: rest =>
      (propertyNamed? [c]).map fun holds => (negateIf negated (.all holds), rest)
  | [] => none

def isAsciiBlank (c : Char) : Bool := c == ' ' || (9 ≤ c.toNat && c.toNat ≤ 13)

def shorthand? (settings : Settings) : Char → Option CharSet
  | 'd' => some (.all (if settings.unicode then isDigit else isAsciiDigit))
  | 's' => some (.all (if settings.unicode then isBlank else isAsciiBlank))
  | 'w' => some (.all (if settings.unicode then isWord else isAsciiWord))
  | _ => none

def isEscapable (c : Char) : Bool :=
  c.toNat < 128 && !isAsciiAlphanumeric c && c ≠ '<' && c ≠ '>'

def foldIf (settings : Settings) (set : CharSet) : CharSet :=
  if settings.caseless then .caseless set else set

def namedEdge? (text : List Char) : Option (Option Anchor × List Char) :=
  match text with
  | '\x7b' :: rest =>
      let rest := skipBlanks rest
      let name := rest.takeWhile fun c => isAsciiLetter c || c == '-'
      match skipBlanks (rest.drop name.length) with
      | '\x7d' :: rest =>
          if name = [] then none
          else
            let anchor := match String.ofList name with
              | "start" => some Anchor.wordStart
              | "end" => some Anchor.wordEnd
              | "start-half" => some Anchor.wordStartHalf
              | "end-half" => some Anchor.wordEndHalf
              | _ => none
            some (anchor, rest)
      | _ => none
  | _ => none

def edge? (settings : Settings) (text : List Char) : Option (Escaped × List Char) :=
  match namedEdge? text with
  | some (some edge, rest) => some (.anchor edge, rest)
  | some (none, _) => none
  | none => some (.anchor (if settings.unicode then .wordEdge else .asciiWordEdge), text)

def escape? (settings : Settings) : List Char → Option (Escaped × List Char)
  | [] => none
  | c :: rest =>
      match c with
      | 'x' => (codePoint? 2 rest).map fun (c, rest) => (.char c, rest)
      | 'u' => (codePoint? 4 rest).map fun (c, rest) => (.char c, rest)
      | 'U' => (codePoint? 8 rest).map fun (c, rest) => (.char c, rest)
      | 'p' => (property? false rest).map fun (set, rest) => (.set set, rest)
      | 'P' => (property? true rest).map fun (set, rest) => (.set set, rest)
      | 'a' => some (.char '\x07', rest)
      | 'f' => some (.char '\x0c', rest)
      | 't' => some (.char '\t', rest)
      | 'n' => some (.char '\n', rest)
      | 'r' => some (.char '\r', rest)
      | 'v' => some (.char '\x0b', rest)
      | 'A' => some (.anchor .textStart, rest)
      | 'z' => some (.anchor .textEnd, rest)
      | 'b' => edge? settings rest
      | 'B' => some (.anchor (if settings.unicode then .notWordEdge else .notAsciiWordEdge), rest)
      | '<' => some (.anchor .wordStart, rest)
      | '>' => some (.anchor .wordEnd, rest)
      | c =>
          if isEscapable c then some (.char c, rest)
          else match shorthand? settings c with
            | some set => some (.set set, rest)
            | none => (shorthand? settings (asciiLower c)).bind fun set =>
                if isAsciiUpper c then some (.set (.compl set), rest) else none

def asciiNamed? : String → Option (Char → Bool)
  | "alnum" => some isAsciiAlphanumeric
  | "alpha" => some isAsciiLetter
  | "ascii" => some (·.toNat < 128)
  | "blank" => some fun c => c == ' ' || c == '\t'
  | "cntrl" => some fun c => c.toNat < 32 || c.toNat == 127
  | "digit" => some isAsciiDigit
  | "graph" => some fun c => 33 ≤ c.toNat && c.toNat ≤ 126
  | "lower" => some isAsciiLower
  | "print" => some fun c => 32 ≤ c.toNat && c.toNat ≤ 126
  | "punct" => some fun c => 33 ≤ c.toNat && c.toNat ≤ 126 && !isAsciiAlphanumeric c
  | "space" => some isAsciiBlank
  | "upper" => some isAsciiUpper
  | "word" => some isAsciiWord
  | "xdigit" => some fun c => (hexDigit? c).isSome
  | _ => none

def namedSet? : List Char → Option (CharSet × List Char)
  | ':' :: rest =>
      let (negated, rest) := match rest with
        | '^' :: rest => (true, rest)
        | rest => (false, rest)
      let name := rest.takeWhile fun c => c ≠ ':' && c ≠ ']'
      match rest.drop name.length with
      | ':' :: ']' :: rest =>
          (asciiNamed? (String.ofList name)).map fun holds => (negateIf negated (.all holds), rest)
      | _ => none
  | _ => none

def setItem? (settings : Settings) : List Char → Option (Escaped × List Char)
  | '\\' :: rest =>
      match escape? settings rest with
      | some (.anchor _, _) => none
      | found => found
  | c :: rest => some (.char c, rest)
  | [] => none

def setRange? (settings : Settings) (text : List Char) : Option (CharSet × List Char) :=
  match setItem? settings text with
  | none => none
  | some (item, rest) =>
      let rest := skip settings rest
      let single : CharSet := match item with
        | .char c => .single c
        | .set set => set
        | .anchor _ => .none
      match rest with
      | [] => none
      | '-' :: after =>
          let after := skip settings after
          match after with
          | ']' :: _ => some (single, rest)
          | '-' :: _ => some (single, rest)
          | after =>
              match item, setItem? settings after with
              | .char low, some (.char high, rest) =>
                  if low ≤ high then some (.range low high, rest) else none
              | _, _ => none
      | rest => some (single, rest)

inductive SetOperator where
  | inter
  | diff
  | symmDiff

def SetOperator.apply : SetOperator → CharSet → CharSet → CharSet
  | inter, a, b => .inter a b
  | diff, a, b => .diff a b
  | symmDiff, a, b => .symmDiff a b

/-- The part of a set that was read so far behind the operators before it. -/
structure SetSoFar where
  left : Option (CharSet × SetOperator)
  union : CharSet

/-- Case is set aside in each part before an operator takes it up. -/
def SetSoFar.close (settings : Settings) (read : SetSoFar) : CharSet :=
  let right := foldIf settings read.union
  match read.left with
  | some (left, operator) => operator.apply left right
  | none => right

def SetSoFar.operate (settings : Settings) (read : SetSoFar) (operator : SetOperator) :
    SetSoFar :=
  ⟨some (read.close settings, operator), .none⟩

def SetSoFar.add (read : SetSoFar) (set : CharSet) : SetSoFar :=
  { read with union := .union read.union set }

/-- The hyphens that a set may begin with, or the bracket it may begin with. -/
def setStart (settings : Settings) : (fuel : Nat) → (union : CharSet) → (begun : Bool) →
    List Char → CharSet × List Char
  | fuel + 1, union, begun, '-' :: rest =>
      setStart settings fuel (.union union (.single '-')) (begun || true) (skip settings rest)
  | _, union, false, ']' :: rest => (.union union (.single ']'), skip settings rest)
  | _, union, _, text => (union, text)

mutual

def bracketed? (settings : Settings) : (fuel : Nat) → List Char → Option (CharSet × List Char)
  | 0, _ => none
  | fuel + 1, text =>
      let text := skip settings text
      let (negated, text) := match text with
        | '^' :: rest => (true, skip settings rest)
        | text => (false, text)
      let (union, text) := setStart settings text.length .none false text
      (setRest? settings fuel ⟨none, union⟩ text).map fun (set, rest) =>
        (negateIf negated set, rest)

def setRest? (settings : Settings) :
    (fuel : Nat) → SetSoFar → List Char → Option (CharSet × List Char)
  | 0, _, _ => none
  | fuel + 1, read, text =>
      match skip settings text with
      | [] => none
      | ']' :: rest => some (read.close settings, rest)
      | '[' :: rest =>
          match namedSet? rest with
          | some (set, rest) => setRest? settings fuel (read.add set) rest
          | none =>
              match bracketed? settings fuel rest with
              | some (set, rest) => setRest? settings fuel (read.add set) rest
              | none => none
      | '&' :: '&' :: rest => setRest? settings fuel (read.operate settings .inter) rest
      | '-' :: '-' :: rest => setRest? settings fuel (read.operate settings .diff) rest
      | '~' :: '~' :: rest => setRest? settings fuel (read.operate settings .symmDiff) rest
      | text =>
          match setRange? settings text with
          | some (set, rest) => setRest? settings fuel (read.add set) rest
          | none => none

end

/-! Repetition. -/

def bounds? (text : List Char) : Option (Nat × Option Nat × List Char) :=
  let readCount (text : List Char) : Option (Nat × List Char) :=
    let (digits, rest) := takeRun isAsciiDigit (skipBlanks text)
    match number? digits with
    | some count => if count < 4294967296 then some (count, skipBlanks rest) else none
    | none => none
  match readCount text with
  | none => none
  | some (least, '\x7d' :: rest) => some (least, some least, rest)
  | some (least, ',' :: rest) =>
      match skipBlanks rest with
      | '\x7d' :: rest => some (least, none, rest)
      | rest => match readCount rest with
        | some (most, '\x7d' :: rest) =>
            if least ≤ most then some (least, some most, rest) else none
        | _ => none
  | _ => none

def greed (settings : Settings) : List Char → Bool × List Char
  | '?' :: rest => (settings.swapGreed, rest)
  | rest => (!settings.swapGreed, rest)

/-- Applies the repetition marks that follow something. -/
def repeated? (settings : Settings) : (fuel : Nat) → Pattern → List Char →
    Option (Pattern × List Char)
  | 0, pattern, text => some (pattern, text)
  | fuel + 1, pattern, text =>
      let apply (least : Nat) (most : Option Nat) (rest : List Char) :=
        let (greedy, rest) := greed settings rest
        repeated? settings fuel (.rep ⟨least, most, greedy⟩ pattern) rest
      match skip settings text with
      | '*' :: rest => apply 0 none rest
      | '+' :: rest => apply 1 none rest
      | '?' :: rest => apply 0 (some 1) rest
      | '\x7b' :: rest =>
          match bounds? rest with
          | some (least, most, rest) => apply least most rest
          | none => none
      | rest => some (pattern, rest)

/-! Groups. -/

/-- Switches settings on, or off behind a hyphen, up to the colon or bracket that ends them.
Each may be named once. -/
def settings? : (seen : List Char) → (off : Bool) → Settings → List Char →
    Option (Settings × List Char)
  | _, _, _, [] => none
  | seen, off, settings, c :: rest =>
      let set (settings : Settings) :=
        if seen.contains c then none else settings? (c :: seen) off settings rest
      match c with
      | ':' => if seen.head? = some '-' then none else some (settings, c :: rest)
      | ')' => if seen.head? = some '-' ∨ seen = [] then none else some (settings, c :: rest)
      | '-' => if off then none else settings? (c :: seen) true settings rest
      | 'i' => set { settings with caseless := !off }
      | 'm' => set { settings with multiLine := !off }
      | 's' => set { settings with dotAll := !off }
      | 'U' => set { settings with swapGreed := !off }
      | 'x' => set { settings with verbose := !off }
      | 'R' => set { settings with returnLines := !off }
      | 'u' => set { settings with unicode := !off }
      | _ => none

def isNameStart (c : Char) : Bool := c == '_' || isLetter c

def isNameChar (c : Char) : Bool :=
  c == '_' || c == '.' || c == '[' || c == ']' || isAlphanumeric c

/-- The name of a group up to its closing angle bracket. -/
def groupName? (text : List Char) : Option (String × List Char) :=
  let name := text.takeWhile (· ≠ '>')
  match name, text.drop name.length with
  | c :: more, _ :: rest =>
      if isNameStart c ∧ more.all isNameChar then some (String.ofList name, rest) else none
  | _, _ => none

/-! Whole expressions. -/

def charPattern (settings : Settings) (c : Char) : Pattern := .char (foldIf settings (.single c))

def anyPattern? (settings : Settings) : Option Pattern :=
  if !settings.unicode then none
  else if settings.dotAll then some (.char (.all fun _ => true))
  else if settings.returnLines then some (.char (.all fun c => c ≠ '\n' && c ≠ '\r'))
  else some (.char (.all (· ≠ '\n')))

def lineStart (settings : Settings) : Anchor :=
  if settings.multiLine then
    if settings.returnLines then .returnLineStart else .lineStart
  else .textStart

def lineEnd (settings : Settings) : Anchor :=
  if settings.multiLine then
    if settings.returnLines then .returnLineEnd else .lineEnd
  else .textEnd

def escapedPattern (settings : Settings) : Escaped → Pattern
  | .char c => charPattern settings c
  | .set set => .char (foldIf settings set)
  | .anchor edge => .anchor edge

mutual

def alternatives? : (fuel : Nat) → Settings → Source → Option (Pattern × Source)
  | 0, _, _ => none
  | fuel + 1, settings, source =>
      match branch? fuel settings [] source with
      | none => none
      | some (first, settings, source) =>
          match source.rest with
          | '|' :: rest =>
              (alternatives? fuel settings (source.setRest rest)).map fun (second, source) =>
                (.alt first second, source)
          | _ => some (first, source)

/-- One alternative; `read` holds its parts so far, last first. Settings that it changes
stay changed behind it. -/
def branch? : (fuel : Nat) → Settings → (read : List Pattern) → Source →
    Option (Pattern × Settings × Source)
  | 0, _, _, _ => none
  | fuel + 1, settings, read, source =>
      let finish (rest : List Char) := some (seqAll read.reverse, settings, source.setRest rest)
      let next (pattern : Pattern) (source : Source) :=
        match repeated? settings (source.rest.length + 1) pattern source.rest with
        | some (pattern, rest) => branch? fuel settings (pattern :: read) (source.setRest rest)
        | none => none
      match skip settings source.rest with
      | [] => finish []
      | '|' :: rest => finish ('|' :: rest)
      | ')' :: rest => finish (')' :: rest)
      | '*' :: _ => none
      | '+' :: _ => none
      | '?' :: _ => none
      | '\x7b' :: _ => none
      | '(' :: '?' :: rest =>
          match groupOpening? source rest with
          | some (some (name, rest)) =>
              match group? fuel settings (some name) (source.setRest rest) with
              | some (pattern, source) => next pattern source
              | none => none
          | some none =>
              match settings? [] false settings rest with
              | some (inner, ':' :: rest) =>
                  match body? fuel inner (source.setRest rest) with
                  | some (pattern, source) => next pattern source
                  | none => none
              | some (changed, _ :: rest) =>
                  match skip changed rest with
                  | '*' :: _ => none
                  | '+' :: _ => none
                  | '?' :: _ => none
                  | '\x7b' :: _ => none
                  | rest => branch? fuel changed read (source.setRest rest)
              | _ => none
          | none => none
      | '(' :: rest =>
          match group? fuel settings none (source.setRest rest) with
          | some (pattern, source) => next pattern source
          | none => none
      | '[' :: rest =>
          match bracketed? settings (rest.length + 1) rest with
          | some (set, rest) => next (.char set) (source.setRest rest)
          | none => none
      | '.' :: rest => (anyPattern? settings).bind fun any => next any (source.setRest rest)
      | '^' :: rest => next (.anchor (lineStart settings)) (source.setRest rest)
      | '$' :: rest => next (.anchor (lineEnd settings)) (source.setRest rest)
      | '\\' :: rest =>
          match escape? settings rest with
          | some (escaped, rest) =>
              next (escapedPattern settings escaped) (source.setRest rest)
          | none => none
      | c :: rest => next (charPattern settings c) (source.setRest rest)

/-- A group's alternatives and its closing bracket. -/
def body? : (fuel : Nat) → Settings → Source → Option (Pattern × Source)
  | 0, _, _ => none
  | fuel + 1, settings, source =>
      match alternatives? fuel settings source with
      | some (pattern, source) =>
          match source.rest with
          | ')' :: rest => some (pattern, source.setRest rest)
          | _ => none
      | none => none

/-- A capture group; no two groups share a name. -/
def group? : (fuel : Nat) → Settings → (name : Option String) → Source →
    Option (Pattern × Source)
  | 0, _, _, _ => none
  | fuel + 1, settings, name, source =>
      let index := source.groups + 1
      let names := match name with
        | some name => (name, index) :: source.names
        | none => source.names
      (body? fuel settings ⟨source.rest, index, names⟩).map fun (pattern, source) =>
        (.group index pattern, source)

def groupOpening? (source : Source) : List Char → Option (Option (String × List Char))
  | 'P' :: '<' :: rest => named rest
  | '<' :: '=' :: _ => none
  | '<' :: '!' :: _ => none
  | '<' :: rest => named rest
  | '=' :: _ => none
  | '!' :: _ => none
  | _ => some none
where
  named (rest : List Char) : Option (Option (String × List Char)) :=
    match groupName? rest with
    | some (name, rest) =>
        if (source.names.lookup name).isSome then none else some (some (name, rest))
    | none => none

end

end Pattern

structure CompiledPattern where
  program : Program
  groups : Nat
  names : List (String × Nat)

namespace CompiledPattern

def ofText? (text : String) : Option CompiledPattern :=
  let chars := text.toList
  match Pattern.alternatives? (4 * chars.length + 4) Pattern.Settings.plain ⟨chars, 0, []⟩ with
  | some (pattern, source) =>
      if source.rest = [] ∧ pattern.weight ≤ Pattern.weightLimit then
        some ⟨Program.ofPattern pattern source.groups, source.groups, source.names⟩
      else none
  | none => none

end CompiledPattern

end GigListings
