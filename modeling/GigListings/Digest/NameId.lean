import GigListings.Digest.Block

namespace GigListings.Digest.Sha1

/-! SHA-1. -/

structure State where
  a : UInt32
  b : UInt32
  c : UInt32
  d : UInt32
  e : UInt32

def State.initial : State := ⟨0x67452301, 0xefcdab89, 0x98badcfe, 0x10325476, 0xc3d2e1f0⟩

def State.add (s t : State) : State := ⟨s.a + t.a, s.b + t.b, s.c + t.c, s.d + t.d, s.e + t.e⟩

def State.words (s : State) : List UInt32 := [s.a, s.b, s.c, s.d, s.e]

def extend : (count : Nat) → List UInt32 → List UInt32
  | 0, latest => latest
  | count + 1, latest =>
      extend count
        (rotateLeft (latest.getD 2 0 ^^^ latest.getD 7 0 ^^^ latest.getD 13 0 ^^^ latest.getD 15 0)
          1 :: latest)

def schedule (block : List UInt32) : List UInt32 := (extend 64 block.reverse).reverse

def parity (b c d : UInt32) : UInt32 := b ^^^ c ^^^ d

def rounds : List ((UInt32 → UInt32 → UInt32 → UInt32) × UInt32) :=
  List.replicate 20 (fun b c d => (b &&& c) ||| (~~~b &&& d), 0x5a827999) ++
  List.replicate 20 (parity, 0x6ed9eba1) ++
  List.replicate 20 (fun b c d => (b &&& c) ||| (b &&& d) ||| (c &&& d), 0x8f1bbcdc) ++
  List.replicate 20 (parity, 0xca62c1d6)

def round (s : State) (mix : UInt32 → UInt32 → UInt32 → UInt32) (constant w : UInt32) : State :=
  ⟨rotateLeft s.a 5 + mix s.b s.c s.d + s.e + constant + w, s.a, rotateLeft s.b 30, s.c, s.d⟩

def compress (s : State) (block : List UInt32) : State :=
  let words := rounds.zip (schedule block)
  s.add (words.foldl (fun s ((mix, constant), w) => round s mix constant w) s)

def digest (message : List UInt8) : List UInt8 :=
  bytes ((blocks message).foldl compress State.initial).words

end GigListings.Digest.Sha1

namespace GigListings.Digest.NameId

/-! Identifiers made from names, in the form of UUIDs of version 5. -/

def linkNamespace : List UInt8 :=
  [0x6b, 0xa7, 0xb8, 0x11, 0x9d, 0xad, 0x11, 0xd1, 0x80, 0xb4, 0x00, 0xc0, 0x4f, 0xd4, 0x30, 0xc8]

/-- Sixteen bytes with the version and the variant set. -/
def stamped (bs : List UInt8) : List UInt8 :=
  ((bs.take 16).modify 6 fun b => (b &&& 0x0f) ||| 0x50).modify 8 fun b => (b &&& 0x3f) ||| 0x80

/-- Thirty-two digits in groups of 8, 4, 4, 4 and 12. -/
def grouped (digits : List Char) : List Char :=
  digits.take 8 ++ '-' :: (digits.drop 8).take 4 ++ '-' :: (digits.drop 12).take 4 ++
    '-' :: (digits.drop 16).take 4 ++ '-' :: digits.drop 20

def ofName (space : List UInt8) (name : String) : String :=
  String.ofList (grouped ((stamped (Sha1.digest (space ++ name.toUTF8.toList))).flatMap hexByte))

end GigListings.Digest.NameId
