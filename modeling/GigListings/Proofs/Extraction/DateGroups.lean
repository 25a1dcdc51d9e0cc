import GigListings.Extraction.Page
import GigListings.Proofs.Printed.Reread
import Mathlib.Data.List.Infix

namespace GigListings

open Html

/-! Listings under date headings. An event is read with the nearest heading before it if that shows
a date; the headings before that one, and what stood under them, do not matter. -/

namespace DateGroup

theorem item_dated (text : String) (date : Date) : (DateGroup.mk text (some date)).item =
    [("dateGroup", .single text), ("dateGroupDate", .single date.text)] := by
  have order : "dateGroupDate" ≠ "dateGroup" ∧ ¬"dateGroupDate" < "dateGroup" := by decide
  simp only [item, dateField, textField, Dict.insert, if_neg order.1, if_neg order.2]

end DateGroup

namespace DateGroups

variable {isHeading isEvent : Place → Bool} {group : Place → DateGroup}
  {extract : DateGroup → Place → Extracted}

def openBehind (isHeading : Place → Bool) (group : Place → DateGroup) (before : List Place) :
    Option DateGroup :=
  (before.reverse.find? isHeading).map group

theorem openBehind_heading {place : Place} (heading : isHeading place = true)
    (before : List Place) :
    openBehind isHeading group (before ++ [place]) = some (group place) := by
  rw [openBehind, List.reverse_append, List.reverse_singleton, List.singleton_append,
    List.find?_cons_of_pos heading, Option.map_some]

theorem openBehind_other {place : Place} (other : isHeading place = false)
    (before : List Place) :
    openBehind isHeading group (before ++ [place]) = openBehind isHeading group before := by
  rw [openBehind, List.reverse_append, List.reverse_singleton, List.singleton_append,
    List.find?_cons_of_neg (by simp [other]), openBehind]

/-- What the walk makes of a place behind the places before it. -/
def eventAt? (isHeading isEvent : Place → Bool) (group : Place → DateGroup)
    (extract : DateGroup → Place → Extracted) (before : List Place) (place : Place) :
    Option Extracted :=
  if isHeading place then none
  else ((openBehind isHeading group before).filter fun group => group.date.isSome).bind
    fun group => if isEvent place then some (extract group place) else none

/-- The group that the walk carries is the one that is open behind the places it has passed. -/
theorem walk_eq_filterMap (before places : List Place) :
    walk isHeading isEvent group extract (openBehind isHeading group before) places =
      (places.inits.zip places).filterMap fun entry =>
        eventAt? isHeading isEvent group extract (before ++ entry.1) entry.2 := by
  induction places generalizing before with
  | nil => rfl
  | cons place rest induction =>
      have later : ((rest.inits.map (place :: ·)).zip rest).filterMap (fun entry =>
            eventAt? isHeading isEvent group extract (before ++ entry.1) entry.2) =
          walk isHeading isEvent group extract (openBehind isHeading group (before ++ [place]))
            rest := by
        rw [induction, List.zip_map_left, List.filterMap_map]
        simp only [Function.comp_def, Prod.map_fst, Prod.map_snd, id_eq, List.append_assoc,
          List.singleton_append]
      rw [List.inits_cons, List.zip_cons_cons, List.filterMap_cons, later, List.append_nil, walk,
        eventAt?]
      by_cases heading : isHeading place = true
      · rw [if_pos heading, if_pos heading, openBehind_heading heading]
      · rw [if_neg heading, if_neg heading, openBehind_other (by simpa using heading)]
        cases (openBehind isHeading group before).filter fun group => group.date.isSome with
        | none => rfl
        | some group =>
            by_cases event : isEvent place = true
            · simp only [if_pos event, Option.bind_some]
            · simp only [if_neg event, Option.bind_some]

theorem walk_append_heading {place : Place} (heading : isHeading place = true)
    (current : Option DateGroup) (front rest : List Place) :
    walk isHeading isEvent group extract current (front ++ place :: rest) =
      walk isHeading isEvent group extract current front ++
        walk isHeading isEvent group extract none (place :: rest) := by
  induction front generalizing current with
  | nil => simp only [List.nil_append, walk, if_pos heading]
  | cons other front induction =>
      rw [List.cons_append, walk, walk]
      by_cases next : isHeading other = true
      · rw [if_pos next, if_pos next, induction]
      · simp only [if_neg next, induction]
        cases current.filter fun group => group.date.isSome with
        | none => rfl
        | some group =>
            by_cases event : isEvent other = true
            · simp only [if_pos event, List.cons_append]
            · simp only [if_neg event]

theorem walk_undated {undated : DateGroup} (noDate : undated.date = none) {others : List Place}
    (noHeading : ∀ other ∈ others, isHeading other = false) :
    walk isHeading isEvent group extract (some undated) others = [] := by
  induction others with
  | nil => rfl
  | cons other others induction =>
      have same : (some undated).filter (fun group => group.date.isSome) = none := by
        simp [Option.filter, noDate]
      simp only [walk, noHeading other List.mem_cons_self, Bool.false_eq_true, if_false, same]
      exact induction fun place member => noHeading place (List.mem_cons_of_mem _ member)

end DateGroups

namespace Extractor

variable (extractor : Extractor) (fields : FieldRules) (groups : DateGroups)
  (heading event : Css.Selector)

def eventsAmong (places : List Place) : List Extracted :=
  DateGroups.walk (heading.matches none) (event.matches none) (extractor.dateGroup groups.format)
    (fun group place => extractor.extractInto fields place group.item) none places

def headingDate? (groups : DateGroups) (heading : Place) : Option Date :=
  (extractor.context.formats.parse groups.format ((Part.text.read? heading.element).getD "") none
    extractor.context.dates).toOption.map PrintedDate.date

/-- The event that a place is, given the places before it: it is read behind the text and the date
of the nearest heading before it. Headings are no events, and there are none without a date. -/
def datedEvent? (before : List Place) (place : Place) : Option Extracted :=
  if heading.matches none place = false ∧ event.matches none place = true then do
    let above ← before.reverse.find? (heading.matches none)
    let date ← extractor.headingDate? groups above
    return extractor.extractInto fields place
      [("dateGroup", .single ((Part.text.read? above.element).getD "")),
        ("dateGroupDate", .single date.text)]
  else none

theorem dateGroup_eq (place : Place) : extractor.dateGroup groups.format place =
    ⟨(Part.text.read? place.element).getD "", extractor.headingDate? groups place⟩ := by
  rw [dateGroup, headingDate?]
  cases extractor.context.formats.parse groups.format ((Part.text.read? place.element).getD "") none
    extractor.context.dates <;> rfl

theorem eventAt?_eq_datedEvent? (before : List Place) (place : Place) :
    DateGroups.eventAt? (heading.matches none) (event.matches none)
        (extractor.dateGroup groups.format)
        (fun group place => extractor.extractInto fields place group.item) before place =
      extractor.datedEvent? fields groups heading event before place := by
  rw [DateGroups.eventAt?, datedEvent?, DateGroups.openBehind]
  by_cases isHeading : heading.matches none place = true
  · simp [isHeading]
  · by_cases isEvent : event.matches none place = true
    · rw [if_neg isHeading, if_pos ⟨by simpa using isHeading, isEvent⟩]
      cases before.reverse.find? (heading.matches none) with
      | none => rfl
      | some above =>
          rw [Option.map_some, dateGroup_eq]
          cases date : extractor.headingDate? groups above with
          | none => simp [Option.filter, date]
          | some date =>
              simp [Option.filter, date, isEvent, DateGroup.item_dated]
    · rw [if_neg isHeading, if_neg fun both => isEvent both.2]
      simp [isEvent]

theorem eventsAmong_eq (places : List Place) :
    extractor.eventsAmong fields groups heading event places =
      (places.inits.zip places).filterMap fun entry =>
        extractor.datedEvent? fields groups heading event entry.1 entry.2 := by
  have walked : extractor.eventsAmong fields groups heading event places = _ :=
    DateGroups.walk_eq_filterMap [] places
  simpa only [List.nil_append, eventAt?_eq_datedEvent?] using walked

theorem eventsAmong_append {rest : List Place}
    (headed : ∀ first ∈ rest.head?, heading.matches none first = true) (front : List Place) :
    extractor.eventsAmong fields groups heading event (front ++ rest) =
      extractor.eventsAmong fields groups heading event front ++
        extractor.eventsAmong fields groups heading event rest := by
  cases rest with
  | nil => rw [List.append_nil, eventsAmong, eventsAmong, DateGroups.walk, List.append_nil]
  | cons place rest => exact DateGroups.walk_append_heading (headed place rfl) none front rest

theorem eventsAmong_undated {undated : Place} (isHeading : heading.matches none undated = true)
    (noDate : extractor.headingDate? groups undated = none) {others : List Place}
    (noHeading : ∀ other ∈ others, heading.matches none other = false) :
    extractor.eventsAmong fields groups heading event (undated :: others) = [] := by
  rw [eventsAmong, DateGroups.walk, if_pos isHeading]
  exact DateGroups.walk_undated (by rw [dateGroup_eq]; exact noDate) noHeading

def inListing (name text : String) : Place :=
  ⟨⟨0, ⟨.html, name⟩, [], [.text text]⟩, [], [], [], true⟩

def septemberPart : List Place :=
  [inListing "div" "Ghost Gig", inListing "h3" "2025-09-30", inListing "div" "The Moonlight"]

def undatedPart : List Place := [inListing "div" "Secret Set", inListing "p" "More soon"]

def octoberPart : List Place := [inListing "h3" "2025-10-03", inListing "div" "Night Shift"]

def titleOnly : FieldRules :=
  [("title", ⟨none, "text", false, none, none, none, false, none⟩)]

def autumnExtractor : Extractor := ⟨.builtin, ⟨"", ⟨.epoch, none⟩, .builtin⟩⟩

def named (name : String) : Css.Selector := ⟨[.alone [.typeName name]]⟩

end Extractor

end GigListings
