import GigListings.Link.Host
import GigListings.Proofs.Link.Domain
import GigListings.Proofs.Text.Numeral

namespace GigListings.Link

open Text

/-! Hosts that are written are read as the same hosts. -/

/-! Escapes. -/

theorem toUTF8_ofList_cons (c : Char) (text : List Char) :
    (String.ofList (c :: text)).toUTF8.toList =
      c.toString.toUTF8.toList ++ (String.ofList text).toUTF8.toList := by
  have whole : (String.ofList (c :: text)).toUTF8 =
      c.toString.toUTF8 ++ (String.ofList text).toUTF8 := by
    rw [String.toUTF8_eq_toByteArray, String.toUTF8_eq_toByteArray, String.toUTF8_eq_toByteArray,
      String.toByteArray_ofList, String.toByteArray_ofList, Char.toString,
      String.toByteArray_singleton, ← List.utf8Encode_cons]
  rw [whole, byteArray_toList, byteArray_toList, byteArray_toList]
  simp

theorem percentDecode_of_notMem {text : List Char} (noEscape : '%' ∉ text) :
    percentDecode text = (String.ofList text).toUTF8.toList := by
  fun_induction percentDecode text with
  | case1 a b rest high low highDigit lowDigit induction =>
      exact absurd List.mem_cons_self noEscape
  | case2 a b rest noDigits induction => exact absurd List.mem_cons_self noEscape
  | case3 c rest other induction =>
      rw [toUTF8_ofList_cons, induction (List.not_mem_of_not_mem_cons noEscape)]
  | case4 =>
      rw [byteArray_toList]
      rfl

theorem decodeBytes_toUTF8 (text : List Char) :
    decodeBytes (String.ofList text).toUTF8.toList = text := by
  have valid : String.fromUTF8? ⟨(String.ofList text).toUTF8.data⟩ = some (String.ofList text) :=
    dif_pos (String.ofList text).isValidUTF8
  rw [decodeBytes, byteArray_toList, Array.toArray_toList, valid]
  exact String.toList_ofList

theorem decodeBytes_percentDecode {text : List Char} (noEscape : '%' ∉ text) :
    decodeBytes (percentDecode text) = text := by
  rw [percentDecode_of_notMem noEscape, decodeBytes_toUTF8]

/-! Addresses of four bytes. -/

def ipv4Bytes (address : Nat) : List Nat :=
  [address / 16777216 % 256, address / 65536 % 256, address / 256 % 256, address % 256]

theorem ipv4Chars_eq (address : Nat) :
    ipv4Chars address = intercalate ['.'] ((ipv4Bytes address).map (Nat.toDigits 10)) := rfl

theorem ne_of_isAsciiDigit {c : Char} (digit : isAsciiDigit c = true) : c ≠ '.' ∧ IsPlain c := by
  have all := of_isAsciiDigit (fun c => c ≠ '.' ∧ c.toNat < 128 ∧ isAsciiUpper c = false)
    (by decide) digit
  exact all

theorem marker_isPrefixOf_toDigits (n : Nat) : marker.isPrefixOf (Nat.toDigits 10 n) = false := by
  rw [Bool.eq_false_iff]
  intro leads
  obtain ⟨rest, whole⟩ := List.isPrefixOf_iff_prefix.mp leads
  have first : 'x' ∈ Nat.toDigits 10 n := whole ▸ List.mem_cons_self
  have digit := isAsciiDigit_of_mem_toDigits first
  cases digit

theorem labelToAscii?_toDigits (n : Nat) :
    labelToAscii? (Nat.toDigits 10 n) = some (Nat.toDigits 10 n) := by
  have ascii : isAscii (Nat.toDigits 10 n) = true :=
    List.all_eq_true.mpr fun c member =>
      decide_eq_true (ne_of_isAsciiDigit (isAsciiDigit_of_mem_toDigits member)).2.1
  rw [labelToAscii?, if_neg (by rw [marker_isPrefixOf_toDigits]; decide), if_pos ascii]

theorem domainToAscii?_ipv4Chars (address : Nat) :
    domainToAscii? (ipv4Chars address) = some (ipv4Chars address) := by
  rw [ipv4Chars_eq]
  apply domainToAscii?_intercalate
  · simp [ipv4Bytes]
  · intro label listed
    obtain ⟨n, -, rfl⟩ := List.mem_map.mp listed
    refine ⟨labelToAscii?_toDigits n, fun c member => ?_⟩
    exact (ne_of_isAsciiDigit (isAsciiDigit_of_mem_toDigits member)).symm
  · apply runOneWay_of_ascii
    intro label listed c member
    obtain ⟨digits, isDigits, rfl⟩ := List.mem_map.mp listed
    obtain ⟨n, -, rfl⟩ := List.mem_map.mp isDigits
    rw [shownLabel, if_neg (by rw [marker_isPrefixOf_toDigits]; decide)] at member
    exact (ne_of_isAsciiDigit (isAsciiDigit_of_mem_toDigits member)).2.1

theorem addressParts_intercalate {parts : List (List Char)} {last : List Char}
    (ends : parts.getLast? = some last) (visible : last ≠ [])
    (noPoint : ∀ part ∈ parts, '.' ∉ part) :
    addressParts (intercalate ['.'] parts) = parts := by
  have some : parts ≠ [] := by
    rintro rfl
    cases ends
  rw [addressParts, splitOn_intercalate some noPoint]
  split
  · rename_i rest reversed
    rw [List.getLast?_eq_head?_reverse, reversed, List.head?_cons, Option.some.injEq] at ends
    exact absurd ends.symm visible
  · rw [List.reverse_reverse]

theorem addressParts_ipv4Chars (address : Nat) :
    addressParts (ipv4Chars address) = (ipv4Bytes address).map (Nat.toDigits 10) := by
  rw [ipv4Chars_eq]
  apply addressParts_intercalate (List.getLast?_map ..) Nat.toDigits_ne_nil
  intro part listed point
  obtain ⟨n, -, rfl⟩ := List.mem_map.mp listed
  exact (ne_of_isAsciiDigit (isAsciiDigit_of_mem_toDigits point)).1 rfl

theorem addressPart?_toDigits (n : Nat) : addressPart? (Nat.toDigits 10 n) = some n := by
  unfold addressPart?
  split
  · rename_i empty
    exact absurd empty Nat.toDigits_ne_nil
  · rename_i x digits leading
    cases toDigits_leading_zero leading
  · rw [number?_of_digits Nat.toDigits_ne_nil fun _ => isAsciiDigit_of_mem_toDigits,
      Nat.ofDigitChars_ten_toDigits]

theorem mapM_addressPart? (numbers : List Nat) :
    (numbers.map (Nat.toDigits 10)).mapM addressPart? = some numbers := by
  rw [Option.mapM_eq_some, List.forall₂_map_left_iff, List.forall₂_same]
  exact fun n _ => addressPart?_toDigits n

theorem endsInNumber_ipv4Chars (address : Nat) : endsInNumber (ipv4Chars address) = true := by
  rw [endsInNumber, addressParts_ipv4Chars]
  have digits : (Nat.toDigits 10 (address % 256)).all isAsciiDigit = true :=
    List.all_eq_true.mpr fun c => isAsciiDigit_of_mem_toDigits
  have some : Nat.toDigits 10 (address % 256) ≠ [] := Nat.toDigits_ne_nil
  simp [ipv4Bytes, digits, some]

theorem ipv4?_ipv4Chars {address : Nat} (small : address < 2 ^ 32) :
    ipv4? (ipv4Chars address) = some address := by
  have byte (n : Nat) : n % 256 ≤ 255 := Nat.le_of_lt_succ (Nat.mod_lt n (by decide))
  have last : address % 256 < 256 := Nat.mod_lt address (by decide)
  have whole : ((address / 16777216 % 256 * 256 + address / 65536 % 256) * 256 +
      address / 256 % 256) * 256 + address % 256 = address := by omega
  rw [ipv4?, addressParts_ipv4Chars, mapM_addressPart?]
  simp [ipv4Bytes, byte, last, whole]

theorem foldl_bytes_lt {leading : List Nat} (bytes : leading.any (255 < ·) = false) :
    leading.foldl (fun value part => value * 256 + part) 0 < 256 ^ leading.length := by
  induction leading using List.reverseRecOn with
  | nil => decide
  | append_singleton leading part induction =>
      rw [List.any_append, Bool.or_eq_false_iff] at bytes
      have before := induction bytes.1
      have last : part ≤ 255 := by simpa using bytes.2
      rw [List.foldl_append, List.foldl_cons, List.foldl_nil, List.length_append,
        List.length_singleton, Nat.pow_succ]
      omega

theorem ipv4?_lt {text : List Char} {address : Nat} (read : ipv4? text = some address) :
    address < 2 ^ 32 := by
  obtain ⟨parts, -, rest⟩ := Option.bind_eq_some_iff.mp read
  obtain ⟨last, ends, made⟩ := Option.bind_eq_some_iff.mp rest
  dsimp only at made
  split at made
  · cases made
  · rename_i sound
    rw [not_or, not_or, Nat.not_lt, Bool.not_eq_true, Nat.not_le] at sound
    obtain ⟨few, bytes, small⟩ := sound
    have some : parts ≠ [] := by
      rintro rfl
      cases ends
    have positive := List.length_pos_iff.mpr some
    have leading := foldl_bytes_lt bytes
    rw [List.length_dropLast] at leading
    have whole : 256 ^ (parts.length - 1) * 256 ^ (5 - parts.length) = 2 ^ 32 := by
      rw [← Nat.pow_add, (by omega : parts.length - 1 + (5 - parts.length) = 4)]
      rfl
    rw [← Option.some.inj made, ← whole]
    change last < 256 ^ (5 - parts.length) at small
    change parts.dropLast.foldl (fun value part => value * 256 + part) 0 *
      256 ^ (5 - parts.length) + last < _
    have room := Nat.mul_le_mul_right (256 ^ (5 - parts.length)) (Nat.succ_le_of_lt leading)
    rw [Nat.succ_mul] at room
    omega

/-! Addresses of eight pieces. -/

def IsRun (pieces : List Nat) (run : Nat × Nat) : Prop :=
  ∃ before after, pieces = before ++ List.replicate run.2 0 ++ after ∧ before.length = run.1

theorem IsRun.append {pieces : List Nat} {run : Nat × Nat} (isRun : IsRun pieces run)
    (more : List Nat) : IsRun (pieces ++ more) run := by
  obtain ⟨before, after, rfl, start⟩ := isRun
  exact ⟨before, after ++ more, by rw [List.append_assoc], start⟩

def EndsInRun (seen : List Nat) (start length : Nat) : Prop :=
  length = 0 ∨ ∃ before, seen = before ++ List.replicate length 0 ∧ before.length = start

theorem IsRun.longer {seen : List Nat} {start length : Nat} {best : Nat × Nat}
    (isRun : IsRun seen best) (current : EndsInRun seen start length) :
    IsRun seen (if best.2 < length then (start, length) else best) := by
  split
  · rename_i less
    obtain ⟨before, rfl, rfl⟩ := current.resolve_left (Nat.ne_of_gt (Nat.zero_lt_of_lt less))
    exact ⟨before, [], (List.append_nil _).symm, rfl⟩
  · exact isRun

theorem EndsInRun.next {seen : List Nat} {start length : Nat}
    (current : EndsInRun seen start length) :
    EndsInRun (seen ++ [0]) (if length = 0 then seen.length else start) (length + 1) := by
  right
  split
  · rename_i none
    rw [none]
    exact ⟨seen, rfl, rfl⟩
  · rename_i some
    obtain ⟨before, rfl, same⟩ := current.resolve_left some
    exact ⟨before, by rw [List.replicate_succ', List.append_assoc], same⟩

theorem longestZeros_isRun {seen : List Nat} {start length : Nat} {best : Nat × Nat}
    (isRun : IsRun seen best) (current : EndsInRun seen start length) (pieces : List Nat) :
    IsRun (seen ++ pieces) (longestZeros seen.length start length best pieces) := by
  induction pieces generalizing seen start length best with
  | nil =>
      rw [List.append_nil]
      exact isRun.longer current
  | cons piece rest induction =>
      have further : (seen ++ [piece]).length = seen.length + 1 := List.length_append
      rw [longestZeros, ← further, List.append_cons]
      split
      · rename_i zero
        subst zero
        exact induction (isRun.append [0]) current.next
      · exact induction ((isRun.longer current).append [piece]) (.inl rfl)

theorem piece_toDigits {n : Nat} (small : n < 65536) :
    Nat.toDigits 16 n ≠ [] ∧ (Nat.toDigits 16 n).length ≤ 4 ∧
      (Nat.toDigits 16 n).all (fun c => (hexDigit? c).isSome) = true := by
  refine ⟨Nat.toDigits_ne_nil, (Nat.length_toDigits_le_iff (by decide) (by decide)).mpr small, ?_⟩
  rw [List.all_eq_true]
  intro c member
  obtain ⟨digit, few, rfl⟩ := exists_of_mem_toDigits_hex member
  rw [hexDigit?_digitChar digit few]
  rfl

theorem ne_of_mem_toDigits_hex {n : Nat} {c : Char} (member : c ∈ Nat.toDigits 16 n) :
    c ≠ '.' ∧ c ≠ ':' ∧ isForbiddenInDomain c = false := by
  obtain ⟨digit, few, rfl⟩ := exists_of_mem_toDigits_hex member
  have all : ∀ digit < 16, Nat.digitChar digit ≠ '.' ∧ Nat.digitChar digit ≠ ':' ∧
      isForbiddenInDomain (Nat.digitChar digit) = false := by decide
  exact all digit few

theorem ipv6Pieces?_map {pieces : List Nat} (small : ∀ piece ∈ pieces, piece < 65536) :
    ipv6Pieces? (pieces.map (Nat.toDigits 16)) = some pieces := by
  induction pieces with
  | nil => rfl
  | cons piece rest induction =>
      obtain ⟨first, others⟩ := List.forall_mem_cons.mp small
      have whole := piece_toDigits first
      cases rest with
      | nil =>
          have noPoint : (Nat.toDigits 16 piece).contains '.' = false := by
            rw [Bool.eq_false_iff, Ne, List.contains_iff_mem]
            exact fun point => (ne_of_mem_toDigits_hex point).1 rfl
          rw [List.map_singleton, ipv6Pieces?, noPoint, if_neg Bool.false_ne_true, if_pos whole,
            hexValue_toDigits]
      | cons next rest =>
          rw [List.map_cons, ipv6Pieces?, if_pos whole, induction others, hexValue_toDigits]
          · rfl
          · simp

theorem joinPieces_eq (pieces : List Nat) :
    joinPieces pieces = intercalate [':'] (pieces.map (Nat.toDigits 16)) := rfl

theorem joinPieces_cons (piece next : Nat) (pieces : List Nat) :
    joinPieces (piece :: next :: pieces) =
      Nat.toDigits 16 piece ++ ':' :: joinPieces (next :: pieces) := by
  rw [joinPieces_eq, List.map_cons, List.map_cons, intercalate_cons, List.append_assoc,
    List.singleton_append]
  rfl

theorem exists_joinPieces_cons (piece : Nat) (pieces : List Nat) :
    ∃ c rest, joinPieces (piece :: pieces) = c :: rest ∧ c ∈ Nat.toDigits 16 piece := by
  obtain ⟨c, digits, written⟩ := List.exists_cons_of_ne_nil (@Nat.toDigits_ne_nil piece 16)
  have first : c ∈ Nat.toDigits 16 piece := written ▸ List.mem_cons_self
  cases pieces with
  | nil => exact ⟨c, digits, by simpa [joinPieces] using written, first⟩
  | cons next pieces => exact ⟨c, _, by rw [joinPieces_cons, written, List.cons_append], first⟩

theorem piecesOf?_joinPieces {pieces : List Nat} (small : ∀ piece ∈ pieces, piece < 65536) :
    piecesOf? (joinPieces pieces) = some pieces := by
  cases pieces with
  | nil => rfl
  | cons piece rest =>
      obtain ⟨c, text, written, -⟩ := exists_joinPieces_cons piece rest
      have noColon : ∀ digits ∈ (piece :: rest).map (Nat.toDigits 16), ':' ∉ digits := by
        intro digits listed colon
        obtain ⟨n, -, rfl⟩ := List.mem_map.mp listed
        exact (ne_of_mem_toDigits_hex colon).2.1 rfl
      rw [piecesOf?, if_neg (by rw [written]; exact List.cons_ne_nil _ _), joinPieces_eq,
        splitOn_intercalate (by simp) noColon, ipv6Pieces?_map small]

theorem splitDouble?_cons {c : Char} (other : c ≠ ':') (rest : List Char) :
    splitDouble? (c :: rest) =
      (splitDouble? rest).map fun (before, after) => (c :: before, after) := by
  rw [splitDouble?]
  intro _ same _
  exact other same

theorem splitDouble?_colon {c : Char} (other : c ≠ ':') (rest : List Char) :
    splitDouble? (':' :: c :: rest) =
      (splitDouble? (c :: rest)).map fun (before, after) => (':' :: before, after) := by
  rw [splitDouble?]
  intro more _ same
  exact other (List.cons.inj same).1

theorem splitDouble?_piece {piece : List Char} (noColon : ∀ c ∈ piece, c ≠ ':')
    (rest : List Char) :
    splitDouble? (piece ++ rest) =
      (splitDouble? rest).map fun (before, after) => (piece ++ before, after) := by
  induction piece with
  | nil => simp
  | cons c piece induction =>
      obtain ⟨other, others⟩ := List.forall_mem_cons.mp noColon
      rw [List.cons_append, splitDouble?_cons other, induction others, Option.map_map]
      rfl

theorem splitDouble?_joinPieces (pieces : List Nat) (rest : List Char) :
    splitDouble? (joinPieces pieces ++ rest) =
      (splitDouble? rest).map fun (before, after) => (joinPieces pieces ++ before, after) := by
  have noColon (n : Nat) : ∀ c ∈ Nat.toDigits 16 n, c ≠ ':' :=
    fun c member => (ne_of_mem_toDigits_hex member).2.1
  induction pieces with
  | nil => exact splitDouble?_piece (List.forall_mem_nil _) rest
  | cons piece pieces induction =>
      cases pieces with
      | nil =>
          have alone : joinPieces [piece] = Nat.toDigits 16 piece := by simp [joinPieces]
          rw [alone]
          exact splitDouble?_piece (noColon piece) rest
      | cons next pieces =>
          obtain ⟨c, more, written, first⟩ := exists_joinPieces_cons next pieces
          rw [joinPieces_cons, List.append_assoc, splitDouble?_piece (noColon piece),
            List.cons_append]
          rw [written, List.cons_append] at induction ⊢
          rw [splitDouble?_colon (noColon next c first), induction, Option.map_map,
            Option.map_map]
          cases splitDouble? rest with
          | none => rfl
          | some found => simp

theorem mem_joinPieces {pieces : List Nat} {c : Char} (member : c ∈ joinPieces pieces) :
    c = ':' ∨ ∃ n, c ∈ Nat.toDigits 16 n := by
  rcases mem_intercalate member with colon | ⟨digits, listed, inside⟩
  · exact .inl colon
  · obtain ⟨n, -, rfl⟩ := List.mem_map.mp listed
    exact .inr ⟨n, inside⟩

theorem contains_point_joinPieces (pieces : List Nat) :
    (joinPieces pieces).contains '.' = false := by
  rw [Bool.eq_false_iff, Ne, List.contains_iff_mem]
  intro point
  rcases mem_joinPieces point with colon | ⟨n, digit⟩
  · cases colon
  · exact (ne_of_mem_toDigits_hex digit).1 rfl

theorem ipv6?_ipv6Chars {pieces : List Nat} (eight : pieces.length = 8)
    (small : ∀ piece ∈ pieces, piece < 65536) : ipv6? (ipv6Chars pieces) = some pieces := by
  have nothing : IsRun [] (0, 0) := ⟨[], [], rfl, rfl⟩
  have isRun : IsRun pieces (longestZeros 0 0 0 (0, 0) pieces) :=
    longestZeros_isRun nothing (.inl rfl : EndsInRun [] 0 0) pieces
  rw [ipv6Chars]
  generalize longestZeros 0 0 0 (0, 0) pieces = run at isRun ⊢
  obtain ⟨start, length⟩ := run
  obtain ⟨before, after, rfl, rfl⟩ := isRun
  dsimp only at *
  split
  · rename_i long
    have first : (before ++ List.replicate length 0 ++ after).take before.length = before := by
      rw [List.append_assoc, List.take_left]
    have last :
        (before ++ List.replicate length 0 ++ after).drop (before.length + length) = after := by
      rw [List.drop_left']
      simp
    have found : splitDouble? (joinPieces before ++ ([':', ':'] ++ joinPieces after)) =
        some (joinPieces before, joinPieces after) := by
      rw [splitDouble?_joinPieces]
      simp [splitDouble?]
    simp only [List.length_append, List.length_replicate] at eight
    rw [first, last, List.append_assoc, ipv6?, found]
    simp only [contains_point_joinPieces, Bool.false_eq_true, if_false]
    rw [piecesOf?_joinPieces fun piece member => small piece (by simp [member]),
      piecesOf?_joinPieces fun piece member => small piece (by simp [member])]
    dsimp only
    rw [if_pos (by omega), (by omega : 8 - before.length - after.length = length)]
  · have none : splitDouble? (joinPieces (before ++ List.replicate length 0 ++ after)) = none := by
      have ends := splitDouble?_joinPieces (before ++ List.replicate length 0 ++ after) []
      rwa [List.append_nil] at ends
    rw [ipv6?, none]
    dsimp only
    rw [piecesOf?_joinPieces small, Option.filter_eq_some_iff]
    exact ⟨rfl, decide_eq_true eight⟩

theorem hexValue_lt_of_length {digits : List Char} (short : digits.length ≤ 4) :
    hexValue digits < 65536 :=
  Nat.lt_of_lt_of_le (hexValue_lt digits) (Nat.pow_le_pow_right (by decide) short)

theorem embeddedIpv4?_lt {text : List Char} {pieces : List Nat}
    (read : embeddedIpv4? text = some pieces) : ∀ piece ∈ pieces, piece < 65536 := by
  obtain ⟨parts, each, made⟩ := Option.bind_eq_some_iff.mp read
  have small (part : Nat) (listed : part ∈ parts) : part ≤ 255 := by
    obtain ⟨source, -, found⟩ := Option.exists_of_mem_mapM each listed
    split at found
    · cases found
    · exact of_decide_eq_true (Option.filter_eq_some_iff.mp found).2
  split at made
  · rename_i a b c d
    have bytes : a ≤ 255 ∧ b ≤ 255 ∧ c ≤ 255 ∧ d ≤ 255 := by simpa using small
    rw [← Option.some.inj made]
    intro piece listed
    simp only [List.mem_cons, List.not_mem_nil, or_false] at listed
    omega
  · cases made

theorem ipv6Pieces?_lt {parts : List (List Char)} {pieces : List Nat}
    (read : ipv6Pieces? parts = some pieces) : ∀ piece ∈ pieces, piece < 65536 := by
  fun_induction ipv6Pieces? parts generalizing pieces with
  | case1 =>
      cases read
      exact List.forall_mem_nil _
  | case2 last point => exact embeddedIpv4?_lt read
  | case3 last noPoint sound =>
      cases read
      exact List.forall_mem_singleton.mpr (hexValue_lt_of_length sound.2.1)
  | case4 => cases read
  | case5 first rest some sound induction =>
      obtain ⟨others, readOthers, rfl⟩ := Option.map_eq_some_iff.mp read
      exact List.forall_mem_cons.mpr ⟨hexValue_lt_of_length sound.2.1, induction readOthers⟩
  | case6 => cases read

theorem piecesOf?_lt {text : List Char} {pieces : List Nat} (read : piecesOf? text = some pieces) :
    ∀ piece ∈ pieces, piece < 65536 := by
  rw [piecesOf?] at read
  split at read
  · cases read
    exact List.forall_mem_nil _
  · exact ipv6Pieces?_lt read

theorem ipv6?_spec {text : List Char} {pieces : List Nat} (read : ipv6? text = some pieces) :
    pieces.length = 8 ∧ ∀ piece ∈ pieces, piece < 65536 := by
  rw [ipv6?] at read
  split at read
  · obtain ⟨found, eight⟩ := Option.filter_eq_some_iff.mp read
    exact ⟨of_decide_eq_true eight, piecesOf?_lt found⟩
  · split at read
    · cases read
    · split at read
      · rename_i first last readFirst readLast
        split at read
        · rw [← Option.some.inj read]
          refine ⟨?_, ?_⟩
          · simp only [List.length_append, List.length_replicate]
            omega
          · intro piece listed
            rw [List.mem_append, List.mem_append, List.mem_replicate] at listed
            rcases listed with (before | ⟨-, rfl⟩) | after
            · exact piecesOf?_lt readFirst piece before
            · decide
            · exact piecesOf?_lt readLast piece after
        · cases read
      · cases read

/-! Hosts. -/

def Host.IsRead : Host → Prop
  | domain name => domainToAscii? name = some name ∧ Host.ofAscii name = .ok (.domain name)
  | ipv4 address => address < 2 ^ 32
  | ipv6 pieces => pieces.length = 8 ∧ ∀ piece ∈ pieces, piece < 65536

theorem Host.isRead_of_bracketed {text : List Char} {host : Host}
    (read : bracketed text = .ok host) : host.IsRead := by
  rw [bracketed] at read
  split at read
  · cases found : ipv6? text.dropLast with
    | none =>
        rw [found] at read
        cases read
    | some pieces =>
        rw [found] at read
        cases read
        exact ipv6?_spec found
  · cases read

theorem Host.isRead_of_ofAscii {name : List Char} {host : Host}
    (written : domainToAscii? name = some name) (read : Host.ofAscii name = .ok host) :
    host.IsRead := by
  have whole := read
  rw [Host.ofAscii] at read
  split at read
  · cases read
  · split at read
    · cases read
    · split at read
      · cases found : ipv4? name with
        | none =>
            rw [found] at read
            cases read
        | some address =>
            rw [found] at read
            cases read
            exact ipv4?_lt found
      · cases read
        exact ⟨written, whole⟩

theorem Host.isRead_of_ofDomain {text : List Char} {host : Host}
    (read : Host.ofDomain text = .ok host) : host.IsRead := by
  unfold Host.ofDomain at read
  split at read
  · exact Host.isRead_of_bracketed read
  · split at read
    · rename_i made
      exact Host.isRead_of_ofAscii (domainToAscii?_idem made) read
    · cases read

theorem Host.ofAscii_sound {name : List Char} {host : Host} (read : Host.ofAscii name = .ok host) :
    (∀ c ∈ name, isForbiddenInDomain c = false) ∧ name ≠ [] := by
  rw [Host.ofAscii] at read
  split at read
  · cases read
  · rename_i sound
    split at read
    · cases read
    · rename_i some
      refine ⟨fun c member => ?_, some⟩
      rw [Bool.eq_false_iff]
      exact fun forbidden => sound (List.any_eq_true.mpr ⟨c, member, forbidden⟩)

theorem Host.ofDomain_eq_ofAscii {name : List Char} (written : domainToAscii? name = some name)
    (sound : ∀ c ∈ name, isForbiddenInDomain c = false) :
    Host.ofDomain name = Host.ofAscii name := by
  have noEscape : '%' ∉ name := fun escape => absurd (sound '%' escape) (by decide)
  unfold Host.ofDomain
  split
  · rename_i rest
    exact absurd (sound '[' List.mem_cons_self) (by decide)
  · rw [decodeBytes_percentDecode noEscape, written]

theorem isForbidden_of_mem_ipv4Chars {address : Nat} {c : Char} (member : c ∈ ipv4Chars address) :
    isForbiddenInDomain c = false := by
  rw [ipv4Chars_eq] at member
  rcases mem_intercalate member with rfl | ⟨digits, listed, inside⟩
  · decide
  · obtain ⟨n, -, rfl⟩ := List.mem_map.mp listed
    exact of_isAsciiDigit (isForbiddenInDomain · = false) (by decide)
      (isAsciiDigit_of_mem_toDigits inside)

theorem mem_ipv6Chars {pieces : List Nat} {c : Char} (member : c ∈ ipv6Chars pieces) :
    c = ':' ∨ isForbiddenInDomain c = false := by
  have joined {pieces : List Nat} (member : c ∈ joinPieces pieces) :
      c = ':' ∨ isForbiddenInDomain c = false :=
    (mem_joinPieces member).imp_right fun ⟨n, digit⟩ => (ne_of_mem_toDigits_hex digit).2.2
  rw [ipv6Chars] at member
  dsimp only at member
  split at member
  · rcases List.mem_append.mp member with early | late
    · rcases List.mem_append.mp early with first | double
      · exact joined first
      · left
        simpa using double
    · exact joined late
  · exact joined member

theorem ipv4Chars_ne_nil (address : Nat) : ipv4Chars address ≠ [] := by
  intro empty
  have ends := endsInNumber_ipv4Chars address
  rw [empty] at ends
  cases ends

theorem Host.chars_ne_nil {host : Host} (isRead : host.IsRead) : host.chars ≠ [] := by
  cases host with
  | domain name => exact (Host.ofAscii_sound isRead.2).2
  | ipv4 address => exact ipv4Chars_ne_nil address
  | ipv6 pieces => exact List.cons_ne_nil _ _

theorem Host.ofDomain_chars {host : Host} (isRead : host.IsRead) :
    Host.ofDomain host.chars = .ok host := by
  cases host with
  | domain name =>
      obtain ⟨written, made⟩ := isRead
      exact (Host.ofDomain_eq_ofAscii written (Host.ofAscii_sound made).1).trans made
  | ipv4 address =>
      have sound : ∀ c ∈ ipv4Chars address, isForbiddenInDomain c = false :=
        fun c => isForbidden_of_mem_ipv4Chars
      have allowed : (ipv4Chars address).any isForbiddenInDomain = false := by
        rw [List.any_eq_false]
        exact fun c member => by rw [sound c member]; decide
      refine (Host.ofDomain_eq_ofAscii (domainToAscii?_ipv4Chars address) sound).trans ?_
      rw [Host.ofAscii, allowed, if_neg Bool.false_ne_true, if_neg (ipv4Chars_ne_nil address),
        if_pos (endsInNumber_ipv4Chars address), ipv4?_ipv4Chars isRead]
      rfl
  | ipv6 pieces =>
      change bracketed (ipv6Chars pieces ++ [']']) = _
      rw [bracketed, List.getLast?_concat, List.dropLast_concat,
        ipv6?_ipv6Chars isRead.1 isRead.2]
      rfl

end GigListings.Link
