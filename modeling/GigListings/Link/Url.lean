import GigListings.Link.Host

namespace GigListings.Link

open Text

/-! Absolute URLs, as far as their origin and their well-formedness go. -/

inductive SchemeKind where
  | file
  | special
  | other
deriving DecidableEq

structure Url where
  scheme : List Char
  host : Option Host
  port : Option Nat
  path : List Char

def defaultPort? (scheme : List Char) : Option Nat :=
  match String.ofList scheme with
  | "http" => some 80
  | "ws" => some 80
  | "https" => some 443
  | "wss" => some 443
  | "ftp" => some 21
  | _ => none

def schemeKind (scheme : List Char) : SchemeKind :=
  if scheme = "file".toList then .file
  else if (defaultPort? scheme).isSome then .special
  else .other

def isControlOrSpace (c : Char) : Bool := c.toNat ≤ 0x20

/-- Without control characters and spaces around it, and without tabs and line breaks. -/
def cleaned (text : List Char) : List Char :=
  let trimmed := ((text.dropWhile isControlOrSpace).reverse.dropWhile isControlOrSpace).reverse
  trimmed.filter fun c => !(c == '\t' || c == '\n' || c == '\r')

def isSchemeChar (c : Char) : Bool := isAsciiAlphanumeric c || c == '+' || c == '-' || c == '.'

/-- The scheme in lower case and what follows its colon. -/
def scheme? : List Char → Option (List Char × List Char)
  | c :: rest =>
      if isAsciiLetter c then
        let (more, rest) := takeRun isSchemeChar rest
        match rest with
        | ':' :: rest =>
            some ((c :: more).map fun c =>
              if isAsciiUpper c then Char.ofNat (c.toNat + 32) else c, rest)
        | _ => none
      else none
  | [] => none

def isAuthorityEnd (kind : SchemeKind) (c : Char) : Bool :=
  c == '/' || c == '?' || c == '#' || (c == '\\' && kind ≠ .other)

/-- What stands behind the last at-sign. An at-sign with nothing before it may not be followed
by nothing. -/
def afterUserInfo (authority rest : List Char) : Except UrlFault (List Char) :=
  let host := (authority.reverse.takeWhile (· ≠ '@')).reverse
  if host.length = authority.length then .ok authority
  else if host.length + 1 = authority.length ∧ host = [] ∧ rest ≠ [] then .error .emptyHost
  else .ok host

/-- The host's text and the rest, which starts with the colon of a port if there is one. -/
def splitHost : (inBrackets : Bool) → List Char → List Char × List Char
  | _, [] => ([], [])
  | inBrackets, c :: rest =>
      if c = ':' ∧ inBrackets = false then ([], c :: rest)
      else
        let (host, rest) :=
          splitHost (if c = '[' then true else if c = ']' then false else inBrackets) rest
        (c :: host, rest)

def hasUserInfo (authority : List Char) : Bool :=
  let before := (authority.reverse.dropWhile (· ≠ '@')).tail.reverse
  before ≠ [] && before ≠ [':']

/-- A port is at most 65535 and ends before a backslash; the default port of a scheme is left
out. -/
def portOf (scheme text : List Char) : Except UrlFault (Option Nat) :=
  match text.takeWhile (· ≠ '\\') with
  | [] => .ok none
  | digits =>
      match (number? digits).filter (· ≤ 65535) with
      | some port => .ok (if defaultPort? scheme = some port then none else some port)
      | none => .error .port

def hostAndPort (scheme : List Char) (kind : SchemeKind) (authority rest : List Char) :
    Except UrlFault (Host × Option Nat) := do
  let text ← afterUserInfo authority rest
  let (name, rest) := splitHost false text
  let host ← if kind = .special then
      if name = [] then .error .emptyHost else Host.ofDomain name
    else if name = [] ∧ hasUserInfo authority then .error .emptyHost
    else Host.ofOpaque name
  match rest with
  | ':' :: digits =>
      if name = [] then .error .emptyHost else return (host, ← portOf scheme digits)
  | _ => return (host, none)

def isSlash (c : Char) : Bool := c == '/' || c == '\\'

def withAuthority (scheme : List Char) (kind : SchemeKind) (text : List Char) :
    Except UrlFault Url :=
  let authority := text.takeWhile fun c => !isAuthorityEnd kind c
  let path := text.drop authority.length
  (hostAndPort scheme kind authority path).map fun (host, port) => ⟨scheme, some host, port, path⟩

/-- A letter and a colon or bar, which is no host. -/
def isDrive : List Char → Bool
  | [c, mark] => isAsciiLetter c && (mark == ':' || mark == '|')
  | _ => false

def fileUrl (text : List Char) : Except UrlFault Url :=
  match text with
  | a :: b :: rest =>
      if isSlash a ∧ isSlash b then
        let host := rest.takeWhile fun c => !isAuthorityEnd .file c
        let path := rest.drop host.length
        if host = [] ∨ isDrive host then .ok ⟨"file".toList, none, none, path⟩
        else (Host.ofDomain host).map fun host => ⟨"file".toList, some host, none, path⟩
      else .ok ⟨"file".toList, none, none, text⟩
  | text => .ok ⟨"file".toList, none, none, text⟩

namespace Url

def parse (text : List Char) : Except UrlFault Url :=
  match scheme? (cleaned text) with
  | none => .error .relative
  | some (scheme, rest) =>
      match schemeKind scheme with
      | .file => fileUrl rest
      | .special => withAuthority scheme .special (rest.dropWhile isSlash)
      | .other =>
          match rest with
          | '/' :: '/' :: rest => withAuthority scheme .other rest
          | rest => .ok ⟨scheme, none, none, rest⟩

def parse? (text : List Char) : Option Url := (parse text).toOption

def tupleOrigin? (url : Url) : Option (List Char) :=
  match schemeKind url.scheme, url.host with
  | .special, some host =>
      let port := match url.port with
        | some port => ':' :: Nat.toDigits 10 port
        | none => []
      some (url.scheme ++ [':', '/', '/'] ++ host.chars ++ port)
  | _, _ => none

def pathOnly (url : Url) : List Char := url.path.takeWhile fun c => c ≠ '?' && c ≠ '#'

/-- Scheme, host and port; URLs without a domain share the origin `null`, and one that wraps
another has the origin of that. -/
def origin (url : Url) : List Char :=
  let url? := if url.scheme = "blob".toList then parse? url.pathOnly else some url
  ((url?.bind tupleOrigin?)).getD "null".toList

end Url

end GigListings.Link
