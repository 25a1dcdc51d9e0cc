namespace GigListings.Link

/-! Text beyond ASCII written in letters, digits and hyphens. -/

namespace Punycode

def base : Nat := 36

def leastThreshold : Nat := 1

def greatestThreshold : Nat := 26

def firstBias : Nat := 72

def firstCode : Nat := 128

def digitChar (digit : Nat) : Char :=
  if digit < 26 then Char.ofNat ('a'.toNat + digit) else Char.ofNat ('0'.toNat + (digit - 26))

def digit? (c : Char) : Option Nat :=
  if 'a' ≤ c ∧ c ≤ 'z' then some (c.toNat - 'a'.toNat)
  else if 'A' ≤ c ∧ c ≤ 'Z' then some (c.toNat - 'A'.toNat)
  else if '0' ≤ c ∧ c ≤ '9' then some (c.toNat - '0'.toNat + 26)
  else none

def settle : (fuel : Nat) → (delta steps : Nat) → Nat
  | 0, _, steps => steps
  | fuel + 1, delta, steps =>
      if 455 < delta then settle fuel (delta / 35) (steps + base)
      else steps + 36 * delta / (delta + 38)

def adapt (delta count : Nat) (first : Bool) : Nat :=
  let delta := if first then delta / 700 else delta / 2
  let delta := delta + delta / count
  settle delta delta 0

def threshold (place bias : Nat) : Nat :=
  if place ≤ bias + leastThreshold then leastThreshold
  else if bias + greatestThreshold ≤ place then greatestThreshold
  else place - bias

/-- A distance in digits of mixed base. -/
def encodeNumber (bias : Nat) : (fuel : Nat) → (place q : Nat) → List Char
  | 0, _, _ => []
  | fuel + 1, place, q =>
      let t := threshold place bias
      if q < t then [digitChar q]
      else digitChar (t + (q - t) % (base - t)) ::
        encodeNumber bias fuel (place + base) ((q - t) / (base - t))

structure Encoder where
  delta : Nat
  bias : Nat
  handled : Nat
  output : List Char

/-- Takes up one character when `code` is the least code not handled yet. -/
def encodeChar (basic code : Nat) (state : Encoder) (c : Char) : Encoder :=
  if c.toNat < code then { state with delta := state.delta + 1 }
  else if c.toNat = code then
    { delta := 0
      bias := adapt state.delta (state.handled + 1) (state.handled == basic)
      handled := state.handled + 1
      output := state.output ++ encodeNumber state.bias (state.delta + 2) base state.delta }
  else state

def encodeFrom (text : List Char) (basic : Nat) : (fuel : Nat) → (code : Nat) → Encoder → List Char
  | 0, _, state => state.output
  | fuel + 1, code, state =>
      match (text.filter (code ≤ ·.toNat)).map Char.toNat with
      | [] => state.output
      | first :: others =>
          let least := others.foldl min first
          let delta := state.delta + (least - code) * (state.handled + 1)
          let state := text.foldl (encodeChar basic least) { state with delta }
          encodeFrom text basic fuel (least + 1) { state with delta := state.delta + 1 }

def encode (text : List Char) : List Char :=
  let basic := text.filter (·.toNat < firstCode)
  let start := if basic = [] then [] else basic ++ ['-']
  encodeFrom text basic.length (text.length + 1) firstCode ⟨0, firstBias, basic.length, start⟩

def decodeNumber (bias : Nat) : (place weight value : Nat) → List Char → Option (Nat × List Char)
  | _, _, _, [] => none
  | place, weight, value, c :: rest =>
      match digit? c with
      | none => none
      | some digit =>
          let value := value + digit * weight
          let t := threshold place bias
          if digit < t then some (value, rest)
          else decodeNumber bias (place + base) (weight * (base - t)) value rest

def decodeFrom : (fuel : Nat) → (code index bias : Nat) → (output : List Char) → List Char →
    Option (List Char)
  | _, _, _, _, output, [] => some output
  | 0, _, _, _, _, _ => none
  | fuel + 1, code, index, bias, output, text =>
      match decodeNumber bias base 1 index text with
      | none => none
      | some (position, rest) =>
          let count := output.length + 1
          let code := code + position / count
          if code.isValidChar then
            let place := position % count
            decodeFrom fuel code (place + 1) (adapt (position - index) count (index == 0))
              (output.take place ++ Char.ofNat code :: output.drop place) rest
          else none

def decode? (text : List Char) : Option (List Char) :=
  let after := (text.reverse.takeWhile (· ≠ '-')).reverse
  let before := text.take (text.length - after.length)
  let basic := before.dropLast
  if basic.all (·.toNat < firstCode) then
    decodeFrom after.length firstCode 0 firstBias basic after
  else none

end Punycode

end GigListings.Link
