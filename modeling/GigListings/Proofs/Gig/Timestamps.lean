import GigListings.Proofs.Gig.DateStart
import GigListings.Proofs.Gig.Updated
import Mathlib.Data.List.Forall2

namespace GigListings

open Text

/-! The timestamps of gigs. They are all printed alike, and printed again as they are, but for
those of years that four digits cannot write. -/

namespace Timestamp

/-- What a place of a form admits: any digit for a digit, and any other character for itself. -/
def Admits (place c : Char) : Prop :=
  if isAsciiDigit place then isAsciiDigit c = true else c = place

def form : List Char := "0000-00-00T00:00:00.000Z".toList

/-- A timestamp in the form, from which an instant is read that is printed like it. -/
structure IsCanonical (text : String) : Prop where
  form : List.Forall₂ Admits form text.toList
  reread : ∃ instant, Instant.ofIso? text.toList = some instant ∧ instant.iso = text

theorem admits_digits {digits : List Char} (all : ∀ c ∈ digits, isAsciiDigit c = true) :
    List.Forall₂ Admits (List.replicate digits.length '0') digits := by
  induction digits with
  | nil => exact .nil
  | cons c digits induction =>
      obtain ⟨first, later⟩ := List.forall_mem_cons.mp all
      exact .cons first (induction later)

theorem admits_padded {width n : Nat} (positive : 0 < width) (small : n < 10 ^ width) :
    List.Forall₂ Admits (List.replicate width '0') (padded width n) := by
  have digits := admits_digits fun c (member : c ∈ padded width n) =>
    isAsciiDigit_of_mem_padded member
  rwa [length_padded positive small] at digits

theorem admits_part {width n : Nat} (positive : 0 < width) (small : n < 10 ^ width) {mark : Char}
    (noDigit : isAsciiDigit mark = false) {places rest : List Char}
    (later : List.Forall₂ Admits places rest) :
    List.Forall₂ Admits (List.replicate width '0' ++ mark :: places)
      (padded width n ++ mark :: rest) := by
  have same : Admits mark mark := by
    rw [Admits, noDigit]
    rfl
  exact List.rel_append (admits_padded positive small) (.cons same later)

theorem form_eq :
    form = List.replicate 4 '0' ++ '-' :: (List.replicate 2 '0' ++ '-' :: (List.replicate 2 '0' ++
      'T' :: (List.replicate 2 '0' ++ ':' :: (List.replicate 2 '0' ++ ':' ::
        (List.replicate 2 '0' ++ '.' :: (List.replicate 3 '0' ++ ['Z'])))))) := rfl

theorem admits_isoChars {instant : Instant} (small : IsFourDigitYear instant.year) :
    List.Forall₂ Admits form instant.isoChars := by
  have yearFits : instant.year.toNat < 10 ^ 4 := by
    obtain ⟨least, most⟩ := small
    omega
  rw [Instant.isoChars_eq, yearChars_of_isFourDigitYear small, Instant.behindYear,
    Instant.clockChars, form_eq]
  refine admits_part (by decide) yearFits rfl ?_
  refine admits_part (by decide) instant.utc.date.month_lt rfl ?_
  refine admits_part (by decide) instant.utc.date.day_lt rfl ?_
  refine admits_part (by decide) instant.utc.time.hour_lt rfl ?_
  refine admits_part (by decide) instant.utc.time.minute_lt rfl ?_
  refine admits_part (by decide) instant.utc.time.second_lt rfl ?_
  exact admits_part (by decide) instant.utc.time.millis_lt rfl .nil

theorem isCanonical_iso_iff (instant : Instant) :
    IsCanonical instant.iso ↔ IsFourDigitYear instant.year := by
  have chars : instant.iso.toList = instant.isoChars := String.toList_ofList
  constructor
  · rintro ⟨-, printed, read, -⟩
    rw [chars] at read
    by_contra signed
    rw [Instant.ofIso?_signed signed] at read
    cases read
  · intro small
    refine ⟨?_, ?_⟩
    · rw [chars]
      exact admits_isoChars small
    · rw [chars]
      exact Instant.ofIso?_isoChars small

end Timestamp

open Timestamp

namespace Normalizer

variable {normalizer : Normalizer} {item : Item} {mapping : Option MappingValue}

theorem exists_iso_of_date? {text : String} (found : normalizer.date? item mapping = some text) :
    ∃ instant : Instant, text = instant.iso := by
  obtain ⟨shown, -, read⟩ := Option.bind_eq_some_iff.mp found
  split at read
  · rename_i instant _
    cases read
    exact ⟨instant, rfl⟩
  · split at read
    · rename_i printed _
      cases read
      exact ⟨printed.instant normalizer.dates, rfl⟩
    · cases read

/-- A canonical timestamp is taken as it is, whatever the formats and the dates around. -/
theorem date?_of_isCanonical {text : String} (canonical : IsCanonical text)
    (resolved : mapping.bind (normalizer.resolve? item) = some (.single text)) :
    normalizer.date? item mapping = some text := by
  obtain ⟨-, instant, read, rfl⟩ := canonical
  have shown : normalizer.text? item mapping = some instant.iso := by
    obtain ⟨mapping, rfl, resolves⟩ := Option.bind_eq_some_iff.mp resolved
    have trimmed : trimText instant.iso = instant.iso := by
      rw [trimText, Instant.iso, String.toList_ofList, Instant.trim_isoChars]
    simp [text?, resolves, FieldValue.first?, trimmed, instant.iso_ne_empty]
  simp [date?, shown, read]

theorem date?_of_unresolved (unresolved : mapping.bind (normalizer.resolve? item) = none) :
    normalizer.date? item mapping = none := by
  cases mapping with
  | none => rfl
  | some mapping =>
      rw [Option.bind_some] at unresolved
      simp [date?, text?, unresolved]

theorem exists_gig?_of_date? {start : String}
    (dated : normalizer.date? item (some normalizer.config.mapping.dateStart) = some start) :
    ∃ gig, normalizer.gig? item = some gig ∧ gig.dateStart = start ∧
      gig.dateEnd = normalizer.date? item normalizer.config.mapping.dateEnd := by
  refine ⟨hashed (normalizer.draft item start), ?_, rfl, rfl⟩
  rw [gig?, dated]
  rfl

theorem date?_of_gig? {gig : Gig} (made : normalizer.gig? item = some gig) :
    normalizer.date? item (some normalizer.config.mapping.dateStart) = some gig.dateStart ∧
      normalizer.date? item normalizer.config.mapping.dateEnd = gig.dateEnd := by
  obtain ⟨start, dated, rfl⟩ := Option.map_eq_some_iff.mp made
  exact ⟨dated, rfl⟩

end Normalizer

def Gig.timestamps (gig : Gig) : List String := gig.dateStart :: gig.dateEnd.toList

namespace Normalizer

variable {normalizer : Normalizer} {item : Item}

theorem exists_iso_of_mem_timestamps {gig : Gig} (made : normalizer.gig? item = some gig)
    {text : String} (member : text ∈ gig.timestamps) : ∃ instant : Instant, text = instant.iso := by
  obtain ⟨start, finish⟩ := date?_of_gig? made
  rcases List.mem_cons.mp member with rfl | isEnd
  · exact exists_iso_of_date? start
  · rw [Option.mem_toList.mp isEnd] at finish
    exact exists_iso_of_date? finish

/-- Each timestamp of a gig is printed from an instant, and it is canonical exactly if four digits
can write the year of the instant. An item whose dates come to such timestamps gives a gig with
the same dates, whatever the configuration and the dates around. -/
theorem gig?_timestamps {gig : Gig} (made : normalizer.gig? item = some gig) :
    (∀ text ∈ gig.timestamps, ∃ instant : Instant, text = instant.iso ∧
      (IsCanonical text ↔ IsFourDigitYear instant.year)) ∧
    ((∀ text ∈ gig.timestamps, IsCanonical text) → ∀ (again : Normalizer) (other : Item),
      again.resolve? other again.config.mapping.dateStart = some (.single gig.dateStart) →
      again.config.mapping.dateEnd.bind (again.resolve? other) = gig.dateEnd.map .single →
      ∃ second, again.gig? other = some second ∧
        second.dateStart = gig.dateStart ∧ second.dateEnd = gig.dateEnd) := by
  constructor
  · intro text member
    obtain ⟨instant, rfl⟩ := exists_iso_of_mem_timestamps made member
    exact ⟨instant, rfl, isCanonical_iso_iff instant⟩
  · intro canonical again other start finish
    have dated : again.date? other (some again.config.mapping.dateStart) = some gig.dateStart :=
      date?_of_isCanonical (canonical _ List.mem_cons_self) start
    obtain ⟨second, gives, sameStart, dateEnd⟩ := exists_gig?_of_date? dated
    refine ⟨second, gives, sameStart, ?_⟩
    rw [dateEnd]
    cases isEnd : gig.dateEnd with
    | none =>
        rw [isEnd] at finish
        exact date?_of_unresolved finish
    | some text =>
        rw [isEnd] at finish
        exact date?_of_isCanonical (canonical text (by simp [Gig.timestamps, isEnd])) finish

theorem gig?_timestamps_summer :
    ∃ gig, (ofDates london).gig? [("start", .single "2025-10-26T01:30:00+01:00")] = some gig ∧
      gig.dateStart = "2025-10-26T00:30:00.000Z" ∧
      ∃ second, (ofDates london).gig? [("start", .single "2025-10-26T00:30:00.000Z")] =
        some second ∧ second.dateStart = "2025-10-26T00:30:00.000Z" ∧ second.dateEnd = none := by
  obtain ⟨gig, made, start, finish⟩ := @exists_gig?_of_date? (ofDates london)
    [("start", .single "2025-10-26T01:30:00+01:00")] "2025-10-26T00:30:00.000Z" (by decide +kernel)
  have noEnd : gig.dateEnd = none := finish
  have canonical : ∀ text ∈ gig.timestamps, IsCanonical text := by
    rw [Gig.timestamps, start, noEnd]
    refine List.forall_mem_singleton.mpr ?_
    exact (isCanonical_iso_iff (.ofMillis 1761438600000)).mpr (by decide +kernel)
  have again := (gig?_timestamps made).2 canonical (ofDates london)
    [("start", .single "2025-10-26T00:30:00.000Z")]
  rw [start, noEnd] at again
  exact ⟨gig, made, start, again rfl rfl⟩

/-- A start that is in the year 10000 in universal time is printed with a sign and not read
again. -/
theorem gig?_timestamps_signed :
    ∃ gig, (ofDates ⟨default, none⟩).gig? [("start", .single "9999-12-31T23:59:59-01:00")] =
        some gig ∧
      gig.dateStart = "+10000-01-01T00:59:59.000Z" ∧ ¬IsCanonical gig.dateStart ∧
      (ofDates ⟨default, none⟩).gig? [("start", .single gig.dateStart)] = none := by
  obtain ⟨gig, made, start, -⟩ := @exists_gig?_of_date? (ofDates ⟨default, none⟩)
    [("start", .single "9999-12-31T23:59:59-01:00")] "+10000-01-01T00:59:59.000Z"
    (by decide +kernel)
  refine ⟨gig, made, start, ?_, ?_⟩
  · rw [start]
    rintro ⟨-, instant, read, -⟩
    have unread : Instant.ofIso? "+10000-01-01T00:59:59.000Z".toList = none := by decide +kernel
    rw [unread] at read
    cases read
  · have undated : (ofDates ⟨default, none⟩).date?
        [("start", .single "+10000-01-01T00:59:59.000Z")] (some (.field "start")) = none := by
      decide +kernel
    rw [start]
    exact Option.map_eq_none_iff.mpr undated

end Normalizer

end GigListings
