import GigListings.Link.Domain
import GigListings.Text.Scan

namespace GigListings.Link

open Text

/-! Hosts: domain names and addresses. -/

inductive Host where
  | domain (name : List Char)
  | ipv4 (address : Nat)
  | ipv6 (pieces : List Nat)
deriving DecidableEq

/-- Why a text is no absolute URL. -/
inductive UrlFault where
  | relative
  | emptyHost
  | domainName
  | domainCharacter
  | ipv4Address
  | ipv6Address
  | port
deriving DecidableEq

def UrlFault.message : UrlFault → String
  | relative => "relative URL without a base"
  | emptyHost => "empty host"
  | domainName => "invalid international domain name"
  | domainCharacter => "invalid domain character"
  | ipv4Address => "invalid IPv4 address"
  | ipv6Address => "invalid IPv6 address"
  | port => "invalid port number"

/-- One part of a numeric address: decimal, or octal or hexadecimal behind a zero. -/
def addressPart? (text : List Char) : Option Nat :=
  match text with
  | [] => none
  | '0' :: x :: digits =>
      if x = 'x' ∨ x = 'X' then
        if digits.all (fun c => (hexDigit? c).isSome) then some (hexValue digits) else none
      else if (x :: digits).all (fun c => '0' ≤ c && c ≤ '7') then
        some ((x :: digits).foldl (fun value c => value * 8 + (c.toNat - '0'.toNat)) 0)
      else none
  | digits => number? digits

def addressParts (text : List Char) : List (List Char) :=
  match (splitOn (· == '.') text).reverse with
  | [] :: rest => if rest = [] then [[]] else rest.reverse
  | parts => parts.reverse

/-- Whether the last part of a domain name makes it a numeric address. -/
def endsInNumber (text : List Char) : Bool :=
  match (addressParts text).getLast? with
  | none => false
  | some last => (last ≠ [] && last.all isAsciiDigit) || (addressPart? last).isSome

/-- The last part fills the bytes that the others leave. -/
def ipv4? (text : List Char) : Option Nat := do
  let parts ← (addressParts text).mapM addressPart?
  let last ← parts.getLast?
  let leading := parts.dropLast
  if 4 < parts.length ∨ leading.any (255 < ·) ∨ Nat.pow 256 (5 - parts.length) ≤ last then none
  else
    let leadingValue := leading.foldl (fun value part => value * 256 + part) 0
    some (leadingValue * Nat.pow 256 (5 - parts.length) + last)

/-- Four decimal bytes without needless zeros. -/
def embeddedIpv4? (text : List Char) : Option (List Nat) := do
  let parts ← (splitOn (· == '.') text).mapM fun part =>
    match part with
    | '0' :: _ :: _ => none
    | part => (number? part).filter (· ≤ 255)
  match parts with
  | [a, b, c, d] => some [a * 256 + b, c * 256 + d]
  | _ => none

def ipv6Pieces? : List (List Char) → Option (List Nat)
  | [] => some []
  | [last] =>
      if last.contains '.' then embeddedIpv4? last
      else if last ≠ [] ∧ last.length ≤ 4 ∧ last.all (fun c => (hexDigit? c).isSome) then
        some [hexValue last]
      else none
  | piece :: rest =>
      if piece ≠ [] ∧ piece.length ≤ 4 ∧ piece.all (fun c => (hexDigit? c).isSome) then
        (ipv6Pieces? rest).map (hexValue piece :: ·)
      else none

def splitDouble? : List Char → Option (List Char × List Char)
  | ':' :: ':' :: rest => some ([], rest)
  | c :: rest => (splitDouble? rest).map fun (before, after) => (c :: before, after)
  | [] => none

def piecesOf? (text : List Char) : Option (List Nat) :=
  if text = [] then some [] else ipv6Pieces? (splitOn (· == ':') text)

def ipv6? (text : List Char) : Option (List Nat) :=
  match splitDouble? text with
  | none => (piecesOf? text).filter (·.length = 8)
  | some (before, after) =>
      if before.contains '.' then none
      else match piecesOf? before, piecesOf? after with
        | some first, some last =>
            if first.length + last.length ≤ 7 then
              some (first ++ List.replicate (8 - first.length - last.length) 0 ++ last)
            else none
        | _, _ => none

/-! Percent encoding, as UTF-8. -/

def percentDecode : List Char → List UInt8
  | '%' :: a :: b :: rest =>
      match hexDigit? a, hexDigit? b with
      | some high, some low => UInt8.ofNat (high * 16 + low) :: percentDecode rest
      | _, _ => '%'.toString.toUTF8.toList ++ percentDecode (a :: b :: rest)
  | c :: rest => c.toString.toUTF8.toList ++ percentDecode rest
  | [] => []
termination_by text => text.length

/-- The text of bytes; what is no UTF-8 leaves a replacement character behind. -/
def decodeBytes (bytes : List UInt8) : List Char :=
  match String.fromUTF8? ⟨bytes.toArray⟩ with
  | some text => text.toList
  | none => ['\uFFFD']

def isForbiddenInDomain (c : Char) : Bool :=
  c.toNat ≤ 0x20 || c.toNat == 0x7F ||
    ['#', '%', '/', ':', '<', '>', '?', '@', '[', '\\', ']', '^', '|'].contains c

def isForbiddenInHost (c : Char) : Bool :=
  c.toNat == 0 || c == '\t' || c == '\n' || c == '\r' ||
    [' ', '#', '/', ':', '<', '>', '?', '@', '[', '\\', ']', '^', '|'].contains c

def bracketed (text : List Char) : Except UrlFault Host :=
  match text.getLast? with
  | some ']' =>
      ((ipv6? text.dropLast).map fun pieces => .ok (.ipv6 pieces)).getD (.error .ipv6Address)
  | _ => .error .ipv6Address

/-- The host that a domain name in ASCII stands for. -/
def Host.ofAscii (name : List Char) : Except UrlFault Host :=
  if name.any isForbiddenInDomain then .error .domainName
  else if name = [] then .error .emptyHost
  else if endsInNumber name then
    ((ipv4? name).map fun address => .ok (.ipv4 address)).getD (.error .ipv4Address)
  else .ok (.domain name)

def Host.ofDomain (text : List Char) : Except UrlFault Host :=
  match text with
  | '[' :: rest => bracketed rest
  | text =>
      match domainToAscii? (decodeBytes (percentDecode text)) with
      | some name => Host.ofAscii name
      | none => .error .domainName

def Host.ofOpaque (text : List Char) : Except UrlFault Host :=
  match text with
  | '[' :: rest => bracketed rest
  | text => if text.any isForbiddenInHost then .error .domainCharacter else .ok (.domain text)

/-! The written form. -/

/-- The start and the length of the longest run of zeros, the first of several. -/
def longestZeros : (index start length : Nat) → (best : Nat × Nat) → List Nat → Nat × Nat
  | _, start, length, best, [] => if best.2 < length then (start, length) else best
  | index, start, length, best, piece :: rest =>
      if piece = 0 then
        longestZeros (index + 1) (if length = 0 then index else start) (length + 1) best rest
      else
        longestZeros (index + 1) 0 0 (if best.2 < length then (start, length) else best) rest

def joinPieces (pieces : List Nat) : List Char :=
  ((pieces.map (Nat.toDigits 16 ·)).intersperse [':']).flatten

def ipv6Chars (pieces : List Nat) : List Char :=
  let (start, length) := longestZeros 0 0 0 (0, 0) pieces
  if 1 < length then
    joinPieces (pieces.take start) ++ [':', ':'] ++ joinPieces (pieces.drop (start + length))
  else joinPieces pieces

def ipv4Chars (address : Nat) : List Char :=
  (([address / 16777216 % 256, address / 65536 % 256, address / 256 % 256, address % 256].map
    (Nat.toDigits 10 ·)).intersperse ['.']).flatten

def Host.chars : Host → List Char
  | domain name => name
  | ipv4 address => ipv4Chars address
  | ipv6 pieces => '[' :: ipv6Chars pieces ++ [']']

end GigListings.Link
