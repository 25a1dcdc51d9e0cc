namespace GigListings.Digest

/-! Messages as blocks of sixteen words, the most significant byte of a word first. -/

def word (a b c d : UInt8) : UInt32 :=
  a.toUInt32 <<< 24 ||| b.toUInt32 <<< 16 ||| c.toUInt32 <<< 8 ||| d.toUInt32

def words : List UInt8 → List UInt32
  | a :: b :: c :: d :: rest => word a b c d :: words rest
  | _ => []

def wordBytes (w : UInt32) : List UInt8 :=
  [(w >>> 24).toUInt8, (w >>> 16).toUInt8, (w >>> 8).toUInt8, w.toUInt8]

def bytes (ws : List UInt32) : List UInt8 := ws.flatMap wordBytes

def lengthBytes (length : Nat) : List UInt8 :=
  bytes [UInt32.ofNat (8 * length / UInt32.size), UInt32.ofNat (8 * length)]

def padded (message : List UInt8) : List UInt8 :=
  message ++ 0x80 :: List.replicate ((119 - message.length % 64) % 64) 0 ++
    lengthBytes message.length

/-- Groups of sixteen, the first of them begun with `current` in reverse. -/
def blocksFrom (current : List UInt32) (missing : Nat) : List UInt32 → List (List UInt32)
  | [] => []
  | w :: rest =>
      match missing with
      | 0 | 1 => (w :: current).reverse :: blocksFrom [] 16 rest
      | missing + 1 => blocksFrom (w :: current) missing rest

def blocks (message : List UInt8) : List (List UInt32) := blocksFrom [] 16 (words (padded message))

def rotateLeft (w : UInt32) (count : UInt32) : UInt32 := w <<< count ||| w >>> (32 - count)

def rotateRight (w : UInt32) (count : UInt32) : UInt32 := w >>> count ||| w <<< (32 - count)

def hexByte (b : UInt8) : List Char :=
  [Nat.digitChar (b.toNat / 16), Nat.digitChar (b.toNat % 16)]

def hex (bs : List UInt8) : String := String.ofList (bs.flatMap hexByte)

end GigListings.Digest
