import GigListings.Link.Resolve
import GigListings.Proofs.Except
import GigListings.Proofs.Link.Host
import GigListings.Proofs.Text.Blank
import Mathlib.Data.List.TakeWhile

namespace GigListings.Link

open Text

/-! Links that are made absolute. A path on the origin of a site is a URL of that origin. -/

/-! The parts of an authority. -/

def IsHostChar (c : Char) : Prop :=
  isForbiddenInDomain c = false ∨ c = ':' ∨ c = '[' ∨ c = ']'

theorem IsHostChar.plain {c : Char} (held : IsHostChar c) :
    isControlOrSpace c = false ∧ c ≠ '/' ∧ c ≠ '\\' ∧ c ≠ '?' ∧ c ≠ '#' ∧ c ≠ '@' := by
  rcases held with allowed | rfl | rfl | rfl
  · rw [isForbiddenInDomain, Bool.or_eq_false_iff, Bool.or_eq_false_iff] at allowed
    obtain ⟨⟨low, -⟩, listed⟩ := allowed
    rw [Bool.eq_false_iff, Ne, List.contains_iff_mem] at listed
    refine ⟨low, ?_, ?_, ?_, ?_, ?_⟩
    all_goals
      rintro rfl
      exact listed (by decide)
  · decide
  · decide
  · decide

theorem isHostChar_of_mem_chars {host : Host} (isRead : host.IsRead) {c : Char}
    (member : c ∈ host.chars) : IsHostChar c := by
  cases host with
  | domain name => exact .inl ((Host.ofAscii_sound isRead.2).1 c member)
  | ipv4 address => exact .inl (isForbidden_of_mem_ipv4Chars member)
  | ipv6 pieces =>
      rcases List.mem_append.mp member with opened | closing
      · rcases List.mem_cons.mp opened with rfl | inside
        · exact .inr (.inr (.inl rfl))
        · rcases mem_ipv6Chars inside with rfl | allowed
          · exact .inr (.inl rfl)
          · exact .inl allowed
      · exact .inr (.inr (.inr (List.mem_singleton.mp closing)))

def portText : Option Nat → List Char
  | some port => ':' :: Nat.toDigits 10 port
  | none => []

theorem isHostChar_of_mem_portText {port : Option Nat} {c : Char} (member : c ∈ portText port) :
    IsHostChar c := by
  cases port with
  | none => cases member
  | some port =>
      rcases List.mem_cons.mp member with rfl | digit
      · exact .inr (.inl rfl)
      · exact .inl (of_isAsciiDigit (isForbiddenInDomain · = false) (by decide)
          (isAsciiDigit_of_mem_toDigits digit))

theorem splitHost_portText (port : Option Nat) :
    splitHost false (portText port) = ([], portText port) := by
  cases port with
  | none => rfl
  | some port => rfl

theorem splitHost_append {name rest : List Char} {after : List Char}
    (inner : ∀ c ∈ name, c ≠ ':' ∧ c ≠ '[' ∧ c ≠ ']')
    (ends : splitHost false rest = ([], after)) :
    splitHost false (name ++ rest) = (name, after) := by
  induction name with
  | nil => exact ends
  | cons c name induction =>
      obtain ⟨⟨noColon, noOpening, noClosing⟩, others⟩ := List.forall_mem_cons.mp inner
      rw [List.cons_append, splitHost, if_neg (fun same => noColon same.1), if_neg noOpening,
        if_neg noClosing, induction others]

theorem splitHost_brackets {name rest after : List Char}
    (inner : ∀ c ∈ name, c ≠ '[' ∧ c ≠ ']') (ends : splitHost false rest = ([], after)) :
    splitHost true (name ++ ']' :: rest) = (name ++ [']'], after) := by
  induction name with
  | nil => simp [splitHost, ends]
  | cons c name induction =>
      obtain ⟨⟨noOpening, noClosing⟩, others⟩ := List.forall_mem_cons.mp inner
      rw [List.cons_append, splitHost, if_neg (by simp), if_neg noOpening, if_neg noClosing,
        induction others]
      rfl

theorem ne_of_isForbiddenInDomain {c : Char} (allowed : isForbiddenInDomain c = false) :
    c ≠ ':' ∧ c ≠ '[' ∧ c ≠ ']' := by
  refine ⟨?_, ?_, ?_⟩
  all_goals
    rintro rfl
    revert allowed
    decide

theorem splitHost_chars {host : Host} (isRead : host.IsRead) (port : Option Nat) :
    splitHost false (host.chars ++ portText port) = (host.chars, portText port) := by
  have ends := splitHost_portText port
  cases host with
  | domain name =>
      exact splitHost_append
        (fun c member => ne_of_isForbiddenInDomain ((Host.ofAscii_sound isRead.2).1 c member)) ends
  | ipv4 address =>
      exact splitHost_append
        (fun c member => ne_of_isForbiddenInDomain (isForbidden_of_mem_ipv4Chars member)) ends
  | ipv6 pieces =>
      have inner : ∀ c ∈ ipv6Chars pieces, c ≠ '[' ∧ c ≠ ']' := by
        intro c member
        rcases mem_ipv6Chars member with rfl | allowed
        · decide
        · exact (ne_of_isForbiddenInDomain allowed).2
      change splitHost false ('[' :: ipv6Chars pieces ++ [']'] ++ portText port) = _
      rw [List.append_assoc, List.singleton_append, List.cons_append, splitHost, if_neg (by simp),
        if_pos rfl, splitHost_brackets inner ends]
      rfl

theorem portOf_toDigits {scheme : List Char} {port : Nat} (small : port ≤ 65535)
    (other : defaultPort? scheme ≠ some port) :
    portOf scheme (Nat.toDigits 10 port) = .ok (some port) := by
  have whole : (Nat.toDigits 10 port).takeWhile (· ≠ '\\') = Nat.toDigits 10 port := by
    rw [List.takeWhile_eq_self_iff]
    intro c member
    exact of_isAsciiDigit (fun c => decide (c ≠ '\\') = true) (by decide)
      (isAsciiDigit_of_mem_toDigits member)
  have read : (number? (Nat.toDigits 10 port)).filter (· ≤ 65535) = some port := by
    rw [number?_of_digits Nat.toDigits_ne_nil fun _ => isAsciiDigit_of_mem_toDigits,
      Nat.ofDigitChars_ten_toDigits, Option.filter_eq_some_iff]
    exact ⟨rfl, decide_eq_true small⟩
  rw [portOf, whole]
  split
  · rename_i empty
    exact absurd empty Nat.toDigits_ne_nil
  · rw [read]
    exact congrArg _ (if_neg other)

theorem portOf_sound {scheme text : List Char} {port : Nat}
    (read : portOf scheme text = .ok (some port)) :
    port ≤ 65535 ∧ defaultPort? scheme ≠ some port := by
  rw [portOf] at read
  split at read
  · cases read
  · split at read
    · rename_i found
      split at read
      · cases read
      · rename_i other
        cases read
        exact ⟨of_decide_eq_true (Option.filter_eq_some_iff.mp found).2, other⟩
    · cases read

/-! URLs of sites. -/

/-- A URL with a host that is read with its scheme, and perhaps with a port of its own. -/
structure Url.IsSite (url : Url) (host : Host) : Prop where
  scheme : url.scheme = "http".toList ∨ url.scheme = "https".toList
  named : url.host = some host
  isRead : host.IsRead
  port : ∀ port, url.port = some port → port ≤ 65535 ∧ defaultPort? url.scheme ≠ some port

theorem isRead_of_hostAndPort {scheme authority rest : List Char} {host : Host}
    {port : Option Nat} (read : hostAndPort scheme .special authority rest = .ok (host, port)) :
    host.IsRead ∧ ∀ number, port = some number →
      number ≤ 65535 ∧ defaultPort? scheme ≠ some number := by
  obtain ⟨text, -, readHost⟩ := Except.bind_eq_ok.mp read
  generalize splitHost false text = parts at readHost
  obtain ⟨name, more⟩ := parts
  dsimp only at readHost
  rw [if_pos rfl] at readHost
  split at readHost
  · cases readHost
  · obtain ⟨found, named, readPort⟩ := Except.bind_eq_ok.mp readHost
    split at readPort
    · obtain ⟨number, digits, made⟩ := Except.bind_eq_ok.mp readPort
      cases made
      refine ⟨Host.isRead_of_ofDomain named, ?_⟩
      rintro number rfl
      exact portOf_sound digits
    · cases readPort
      refine ⟨Host.isRead_of_ofDomain named, ?_⟩
      rintro number ⟨⟩

theorem schemeKind_of_web {scheme : List Char}
    (web : scheme = "http".toList ∨ scheme = "https".toList) : schemeKind scheme = .special := by
  rcases web with rfl | rfl
  · decide
  · decide

theorem scheme_of_fileUrl {text : List Char} {url : Url} (read : fileUrl text = .ok url) :
    url.scheme = "file".toList := by
  unfold fileUrl at read
  split at read
  · split at read
    · dsimp only at read
      split at read
      · cases read
        rfl
      · obtain ⟨host, -, rfl⟩ := Except.map_eq_ok.mp read
        rfl
    · cases read
      rfl
  · cases read
    rfl

theorem isSite_of_withAuthority {scheme text : List Char} {url : Url}
    (read : withAuthority scheme .special text = .ok url)
    (web : url.scheme = "http".toList ∨ url.scheme = "https".toList) :
    ∃ host, url.IsSite host := by
  obtain ⟨⟨host, port⟩, parts, rfl⟩ := Except.map_eq_ok.mp read
  obtain ⟨isRead, sound⟩ := isRead_of_hostAndPort parts
  exact ⟨host, web, rfl, isRead, sound⟩

/-- A text that is read as a URL of the web is one of a site. -/
theorem exists_isSite {base : List Char} {url : Url} (read : Url.parse? base = some url)
    (web : url.scheme = "http".toList ∨ url.scheme = "https".toList) :
    ∃ host, url.IsSite host := by
  have special := schemeKind_of_web web
  have made : Url.parse base = .ok url := by
    rw [Url.parse?] at read
    cases parsed : Url.parse base with
    | error fault =>
        rw [parsed] at read
        cases read
    | ok found =>
        rw [parsed] at read
        cases read
        rfl
  rw [Url.parse] at made
  split at made
  · cases made
  · split at made
    · rw [scheme_of_fileUrl made] at special
      exact absurd special (by decide)
    · exact isSite_of_withAuthority made web
    · rename_i other
      split at made
      · obtain ⟨⟨host, port⟩, -, rfl⟩ := Except.map_eq_ok.mp made
        exact absurd (other.symm.trans special) (by decide)
      · cases made
        exact absurd (other.symm.trans special) (by decide)

theorem Url.IsSite.origin {url : Url} {host : Host} (isSite : url.IsSite host) :
    url.origin = url.scheme ++ [':', '/', '/'] ++ host.chars ++ portText url.port := by
  have noBlob : url.scheme ≠ "blob".toList := by
    rcases isSite.scheme with same | same
    · rw [same]
      decide
    · rw [same]
      decide
  have tuple : url.tupleOrigin? =
      some (url.scheme ++ [':', '/', '/'] ++ host.chars ++ portText url.port) := by
    rw [Url.tupleOrigin?, schemeKind_of_web isSite.scheme, isSite.named]
    cases url.port with
    | none => rfl
    | some port => rfl
  rw [Url.origin, if_neg noBlob, Option.bind_some, tuple, Option.getD_some]

/-! Reading a path on an origin. -/

theorem exists_cleaned {lead : List Char} (visible : ∀ c ∈ lead, isControlOrSpace c = false)
    (text : List Char) : ∃ rest, cleaned (lead ++ '/' :: text) = lead ++ '/' :: rest := by
  have slash : ¬ isControlOrSpace '/' = true := by decide
  have front : (lead ++ '/' :: text).dropWhile isControlOrSpace = lead ++ '/' :: text := by
    cases lead with
    | nil => exact List.dropWhile_cons_of_neg slash
    | cons c lead => exact List.dropWhile_cons_of_neg (by simp [visible c List.mem_cons_self])
  have back : (text.reverse ++ '/' :: lead.reverse).dropWhile isControlOrSpace =
      text.reverse.dropWhile isControlOrSpace ++ '/' :: lead.reverse := by
    rw [List.dropWhile_append, List.dropWhile_cons_of_neg slash]
    split
    · rename_i none
      rw [List.isEmpty_iff.mp none, List.nil_append]
    · rfl
  have kept : lead.filter (fun c => !(c == '\t' || c == '\n' || c == '\r')) = lead := by
    rw [List.filter_eq_self]
    intro c member
    have control := visible c member
    rw [Bool.not_eq_true', Bool.eq_false_iff]
    intro blank
    simp only [Bool.or_eq_true, beq_iff_eq] at blank
    rcases blank with (rfl | rfl) | rfl
    · cases control
    · cases control
    · cases control
  refine ⟨(text.reverse.dropWhile isControlOrSpace).reverse.filter
    fun c => !(c == '\t' || c == '\n' || c == '\r'), ?_⟩
  rw [cleaned, front, List.reverse_append, List.reverse_cons, List.append_assoc,
    List.singleton_append, back, List.reverse_append, List.reverse_cons, List.reverse_reverse,
    List.append_assoc, List.singleton_append, List.filter_append, kept]
  rfl

theorem scheme?_web {scheme : List Char} (web : scheme = "http".toList ∨ scheme = "https".toList)
    (rest : List Char) :
    scheme? (scheme ++ [':', '/', '/'] ++ rest) = some (scheme, '/' :: '/' :: rest) := by
  rcases web with rfl | rfl
  · rfl
  · rfl

theorem afterUserInfo_of_notMem {authority : List Char} (without : '@' ∉ authority)
    (rest : List Char) : afterUserInfo authority rest = .ok authority := by
  have whole : (authority.reverse.takeWhile (· ≠ '@')).reverse = authority := by
    rw [List.takeWhile_eq_self_iff.mpr, List.reverse_reverse]
    intro c member
    rw [decide_eq_true_eq]
    rintro rfl
    exact without (List.mem_reverse.mp member)
  rw [afterUserInfo, whole]
  exact if_pos rfl

theorem hostAndPort_chars {scheme : List Char} {host : Host} {port : Option Nat}
    (isRead : host.IsRead)
    (sound : ∀ number, port = some number → number ≤ 65535 ∧ defaultPort? scheme ≠ some number)
    (rest : List Char) :
    hostAndPort scheme .special (host.chars ++ portText port) rest = .ok (host, port) := by
  have noAt : '@' ∉ host.chars ++ portText port := by
    intro member
    rcases List.mem_append.mp member with inHost | inPort
    · exact (isHostChar_of_mem_chars isRead inHost).plain.2.2.2.2.2 rfl
    · exact (isHostChar_of_mem_portText inPort).plain.2.2.2.2.2 rfl
  refine Except.bind_eq_ok.mpr ⟨_, afterUserInfo_of_notMem noAt rest, ?_⟩
  rw [splitHost_chars isRead]
  dsimp only
  rw [if_pos rfl, if_neg (Host.chars_ne_nil isRead)]
  refine Except.bind_eq_ok.mpr ⟨host, Host.ofDomain_chars isRead, ?_⟩
  cases port with
  | none => rfl
  | some number =>
      obtain ⟨small, other⟩ := sound number rfl
      refine (if_neg (Host.chars_ne_nil isRead)).trans ?_
      exact Except.bind_eq_ok.mpr ⟨some number, portOf_toDigits small other, rfl⟩

theorem withAuthority_chars {scheme : List Char} {host : Host} {port : Option Nat}
    (isRead : host.IsRead)
    (sound : ∀ number, port = some number → number ≤ 65535 ∧ defaultPort? scheme ≠ some number)
    (rest : List Char) :
    withAuthority scheme .special (host.chars ++ portText port ++ '/' :: rest) =
      .ok ⟨scheme, some host, port, '/' :: rest⟩ := by
  have inside : ∀ c ∈ host.chars ++ portText port, (!isAuthorityEnd .special c) = true := by
    intro c member
    have held : IsHostChar c := (List.mem_append.mp member).elim
      (isHostChar_of_mem_chars isRead) isHostChar_of_mem_portText
    obtain ⟨-, noSlash, noBackslash, noQuestion, noHash, -⟩ := held.plain
    simp [isAuthorityEnd, noSlash, noBackslash, noQuestion, noHash]
  have authority : (host.chars ++ portText port ++ '/' :: rest).takeWhile
      (fun c => !isAuthorityEnd .special c) = host.chars ++ portText port := by
    rw [List.takeWhile_append_of_pos inside, List.takeWhile_cons_of_neg (by decide),
      List.append_nil]
  rw [withAuthority, authority, List.drop_left, hostAndPort_chars isRead sound]
  rfl

theorem dropWhile_isSlash_chars {host : Host} (isRead : host.IsRead) (rest : List Char) :
    ('/' :: '/' :: (host.chars ++ rest)).dropWhile isSlash = host.chars ++ rest := by
  obtain ⟨c, more, written⟩ := List.exists_cons_of_ne_nil (Host.chars_ne_nil isRead)
  have held := isHostChar_of_mem_chars isRead (written ▸ List.mem_cons_self : c ∈ host.chars)
  have noSlash : ¬ isSlash c = true := by
    simp [isSlash, held.plain.2.1, held.plain.2.2.1]
  rw [List.dropWhile_cons_of_pos rfl, List.dropWhile_cons_of_pos rfl, written, List.cons_append,
    List.dropWhile_cons_of_neg noSlash]

theorem Url.IsSite.origin_visible {url : Url} {host : Host} (isSite : url.IsSite host) :
    ∀ c ∈ url.origin, isControlOrSpace c = false := by
  rw [isSite.origin]
  have lead : (url.scheme ++ [':', '/', '/']).all (!isControlOrSpace ·) = true := by
    rcases isSite.scheme with same | same
    · rw [same]
      decide
    · rw [same]
      decide
  intro c member
  rcases List.mem_append.mp member with early | inPort
  · rcases List.mem_append.mp early with first | inHost
    · exact Bool.not_eq_true' _ ▸ List.all_eq_true.mp lead c first
    · exact (isHostChar_of_mem_chars isSite.isRead inHost).plain.1
  · exact (isHostChar_of_mem_portText inPort).plain.1

theorem Url.IsSite.origin_head {url : Url} {host : Host} (isSite : url.IsSite host)
    (text : List Char) : ∀ c ∈ (url.origin ++ text).head?, isBlank c = false := by
  rw [isSite.origin]
  rcases isSite.scheme with same | same
  · rw [same]
    rintro c ⟨⟩
    decide
  · rw [same]
    rintro c ⟨⟩
    decide

/-- A path on the origin of a site is read as a URL with this host and port. -/
theorem parse?_origin_append {url : Url} {host : Host} (isSite : url.IsSite host)
    (text : List Char) :
    ∃ path, Url.parse? (url.origin ++ '/' :: text) = some { url with path } := by
  obtain ⟨rest, clean⟩ := exists_cleaned isSite.origin_visible text
  refine ⟨'/' :: rest, ?_⟩
  have whole : url.origin ++ '/' :: rest =
      url.scheme ++ [':', '/', '/'] ++ (host.chars ++ (portText url.port ++ '/' :: rest)) := by
    rw [isSite.origin]
    simp only [List.append_assoc]
  rw [Url.parse?, Url.parse, clean, whole, scheme?_web isSite.scheme]
  dsimp only
  rw [schemeKind_of_web isSite.scheme]
  dsimp only
  rw [dropWhile_isSlash_chars isSite.isRead, ← List.append_assoc,
    withAuthority_chars isSite.isRead isSite.port, ← isSite.named]
  rfl

theorem Url.IsSite.origin_path {url : Url} {host : Host} (isSite : url.IsSite host)
    (path : List Char) : Url.origin { url with path } = url.origin := by
  have moved : Url.IsSite { url with path } host :=
    ⟨isSite.scheme, isSite.named, isSite.isRead, isSite.port⟩
  rw [moved.origin, isSite.origin]

/-! Making links absolute. -/

theorem parse?_slash (text : List Char) : Url.parse? ('/' :: text) = none := by
  have visible : ∀ c ∈ ([] : List Char), isControlOrSpace c = false := by simp
  obtain ⟨rest, clean⟩ : ∃ rest, cleaned ('/' :: text) = '/' :: rest :=
    exists_cleaned visible text
  rw [Url.parse?, Url.parse, clean]
  rfl

theorem dropHere_suffix (link : List Char) : dropHere link <:+ link := by
  fun_induction dropHere link with
  | case1 rest induction =>
      exact induction.trans ⟨['.', '/'], rfl⟩
  | case2 text => exact List.suffix_rfl

/-- What stands in a link behind two slashes makes a URL. A link without them passes. -/
def NamesHost (value : List Char) : Prop :=
  ∀ rest, trim value = '/' :: '/' :: rest → (Url.parse? ("https://".toList ++ rest)).isSome

section Resolved

variable {base value link text : List Char} {fragmentPath : Option (List Char)} {url : Url}

theorem resolve?_of_parse (trimmed : trim text = text) (parsed : (Url.parse? text).isSome) :
    resolve? text base fragmentPath = some text := by
  cases text with
  | nil => cases parsed
  | cons c text =>
      rw [resolve?, trimmed]
      exact if_pos parsed

/-- How a link is made absolute. -/
theorem resolve?_cases (read : Url.parse? base = some url)
    (resolved : resolve? value base fragmentPath = some link) :
    ((Url.parse? (trim value)).isSome ∧ link = trim value) ∨
      (∃ rest, trim value = '/' :: '/' :: rest ∧ link = "https://".toList ++ rest) ∨
      (Url.parse? (trim value) = none ∧ (∀ rest, trim value ≠ '/' :: '/' :: rest) ∧
        link = onOrigin url.origin fragmentPath (trim value)) := by
  rw [resolve?] at resolved
  generalize trim value = text at resolved ⊢
  split at resolved
  · cases resolved
  · split at resolved
    · rename_i parsed
      exact .inl ⟨parsed, (Option.some.inj resolved).symm⟩
    · rename_i unread
      rw [Option.not_isSome_iff_eq_none] at unread
      split at resolved
      · rename_i rest _
        exact .inr (.inl ⟨rest, rfl, (Option.some.inj resolved).symm⟩)
      · rename_i noSlashes
        rw [read] at resolved
        exact .inr (.inr ⟨unread, noSlashes, (Option.some.inj resolved).symm⟩)

theorem onOrigin_sound {host : Host} (isSite : url.IsSite host)
    (fragmentPath : Option (List Char)) (ends : text <:+ trim value) :
    trim (onOrigin url.origin fragmentPath text) = onOrigin url.origin fragmentPath text ∧
      ∃ path, Url.parse? (onOrigin url.origin fragmentPath text) = some { url with path } := by
  have start : ∀ c ∈ url.origin.head?, isBlank c = false := by
    have head := isSite.origin_head []
    rwa [List.append_nil] at head
  have slash : isBlank '/' = false := by decide
  fun_cases onOrigin url.origin fragmentPath text with
  | case1 rest =>
      exact ⟨trim_append_of_suffix start slash ((List.suffix_cons _ _).trans ends),
        parse?_origin_append isSite rest⟩
  | case2 rest path =>
      refine ⟨trim_append_of_suffix (isSite.origin_head ('/' :: path)) (by decide)
        ((List.suffix_cons _ _).trans ends), ?_⟩
      rw [List.append_assoc]
      exact parse?_origin_append isSite (path ++ '#' :: rest)
  | case3 noSlash noHash =>
      exact ⟨trim_append_of_suffix start slash ((dropHere_suffix text).trans ends),
        parse?_origin_append isSite _⟩

theorem resolve?_eq_self_iff {host : Host} (isSite : url.IsSite host)
    (read : Url.parse? base = some url) (trimmed : trim text = text) :
    resolve? text base fragmentPath = some text ↔ (Url.parse? text).isSome := by
  constructor
  · intro kept
    obtain ⟨parsed, -⟩ | ⟨rest, slashes, same⟩ | ⟨-, -, same⟩ := resolve?_cases read kept
    · rwa [trimmed] at parsed
    · rw [trimmed] at slashes
      rw [slashes] at same
      cases same
    · obtain ⟨-, path, parsed⟩ := onOrigin_sound isSite fragmentPath (List.suffix_refl (trim text))
      rw [same, parsed]
      rfl
  · exact resolve?_of_parse trimmed

theorem trim_resolved {host : Host} (isSite : url.IsSite host) (read : Url.parse? base = some url)
    (resolved : resolve? value base fragmentPath = some link) : trim link = link := by
  obtain ⟨-, rfl⟩ | ⟨rest, slashes, rfl⟩ | ⟨-, -, rfl⟩ := resolve?_cases read resolved
  · exact trim_trim value
  · have start : ∀ c ∈ "https:/".toList.head?, isBlank c = false := by
      rintro c ⟨⟩
      decide
    have ends : rest <:+ trim value := by
      rw [slashes]
      exact ⟨['/', '/'], rfl⟩
    exact trim_append_of_suffix start (by decide) ends
  · exact (onOrigin_sound isSite fragmentPath List.suffix_rfl).1

theorem parse?_resolved_iff {host : Host} (isSite : url.IsSite host)
    (read : Url.parse? base = some url)
    (resolved : resolve? value base fragmentPath = some link) :
    (Url.parse? link).isSome ↔ NamesHost value := by
  obtain ⟨parsed, rfl⟩ | ⟨rest, slashes, rfl⟩ | ⟨-, noSlashes, rfl⟩ := resolve?_cases read resolved
  · refine iff_of_true parsed fun rest slashes => ?_
    rw [slashes, parse?_slash] at parsed
    cases parsed
  · constructor
    · intro parsed others same
      rw [slashes] at same
      cases same
      exact parsed
    · intro named
      exact named rest slashes
  · refine iff_of_true ?_ fun rest slashes => absurd slashes (noSlashes rest)
    obtain ⟨-, path, parsed⟩ := onOrigin_sound isSite fragmentPath (List.suffix_refl (trim value))
    rw [parsed]
    rfl

/-- A link is made absolute, once and for all, exactly if what stands behind two slashes at its
start makes a URL; and but for such links and those that are absolute it is on the origin of
the base. -/
theorem resolve?_absolute_iff (read : Url.parse? base = some url)
    (web : url.scheme = "http".toList ∨ url.scheme = "https".toList)
    (resolved : resolve? value base fragmentPath = some link) :
    ((Url.parse? link).isSome ↔ NamesHost value) ∧
      (resolve? link base fragmentPath = some link ↔ NamesHost value) ∧
      (Url.parse? (trim value) = none → (∀ rest, trim value ≠ '/' :: '/' :: rest) →
        ∃ found, Url.parse? link = some found ∧ found.origin = url.origin) := by
  obtain ⟨host, isSite⟩ := exists_isSite read web
  have parsed := parse?_resolved_iff isSite read resolved
  refine ⟨parsed, ?_, ?_⟩
  · rw [resolve?_eq_self_iff isSite read (trim_resolved isSite read resolved)]
    exact parsed
  · intro unread noSlashes
    obtain ⟨parsed, -⟩ | ⟨rest, slashes, -⟩ | ⟨-, -, rfl⟩ := resolve?_cases read resolved
    · rw [unread] at parsed
      cases parsed
    · exact absurd slashes (noSlashes rest)
    · obtain ⟨-, path, found⟩ := onOrigin_sound isSite fragmentPath (List.suffix_refl (trim value))
      exact ⟨_, found, isSite.origin_path path⟩

end Resolved

/-- A path on the origin of a page deeper within the site. -/
theorem resolve?_absolute_iff_events :
    resolve? "/events/1".toList "https://x.com/whats-on/".toList none =
        some "https://x.com/events/1".toList ∧
      (Url.parse? "https://x.com/events/1".toList).isSome ∧
      resolve? "https://x.com/events/1".toList "https://x.com/whats-on/".toList none =
        some "https://x.com/events/1".toList ∧
      (Url.parse? "https://x.com/events/1".toList).map Url.origin =
        some "https://x.com".toList := by
  have web : (Url.parse? "https://x.com/whats-on/".toList).map Url.scheme =
      some "https".toList := by decide +kernel
  have origin : (Url.parse? "https://x.com/whats-on/".toList).map Url.origin =
      some "https://x.com".toList := by decide +kernel
  have resolved : resolve? "/events/1".toList "https://x.com/whats-on/".toList none =
      some "https://x.com/events/1".toList := by decide +kernel
  have noSlashes : ∀ rest, trim "/events/1".toList ≠ '/' :: '/' :: rest := by
    intro rest slashes
    have same : trim "/events/1".toList = "/events/1".toList := by decide +kernel
    rw [same] at slashes
    cases slashes
  have named : NamesHost "/events/1".toList := fun rest slashes => absurd slashes (noSlashes rest)
  obtain ⟨url, read, scheme⟩ := Option.map_eq_some_iff.mp web
  rw [read] at origin
  obtain ⟨absolute, kept, placed⟩ := resolve?_absolute_iff read (.inr scheme) resolved
  obtain ⟨found, again, same⟩ := placed (by decide +kernel) noSlashes
  refine ⟨resolved, absolute.mpr named, kept.mpr named, ?_⟩
  rw [again, Option.map_some, same]
  exact origin

/-- Two slashes before no host make no URL, and resolving once more puts the rest on the
origin. -/
theorem not_resolve?_absolute_slashes :
    (Url.parse? "https://x.com".toList).map Url.scheme = some "https".toList ∧
      resolve? "//".toList "https://x.com".toList none = some "https://".toList ∧
      Url.parse? "https://".toList = none ∧
      resolve? "https://".toList "https://x.com".toList none =
        some "https://x.com/https://".toList := by
  decide +kernel

end GigListings.Link
