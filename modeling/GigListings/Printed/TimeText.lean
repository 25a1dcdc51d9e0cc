import GigListings.Calendar.TimeOfDay
import GigListings.Text.Scan

namespace GigListings.TimeText

open Text

/-! Times as listings print them: `19:30`, `7.30pm`, `Doors: 07:00`, `20:00 - 23:00`. -/

def isTimeMark (c : Char) : Bool := c == ':' || c == '.'

structure TwelveHour where
  hour : List Char
  minute : Option (List Char)
  meridiem : Char
deriving DecidableEq

def isMeridiem (c : Char) : Bool := c == 'a' || c == 'p' || c == 'A' || c == 'P'

/-- The `a` or `p` of `am`, `PM`, `p.m` and the like at the start of a text. -/
def meridiemAt? (text : List Char) : Option Char :=
  match skipBlanks text with
  | letter :: rest =>
      if isMeridiem letter then
        match skipBlanks (skipOne (· == '.') rest) with
        | m :: rest =>
            if (m = 'm' ∨ m = 'M') ∧ startsWithWord rest = false then some letter else none
        | [] => none
      else none
  | [] => none

/-- The two digits behind a colon or a point, and the rest. -/
def minuteAt? : List Char → Option (List Char × List Char)
  | mark :: a :: b :: rest =>
      if isTimeMark mark ∧ isDigit a ∧ isDigit b then some ([a, b], rest) else none
  | _ => none

def twelveHourAt? (text : List Char) : Option TwelveHour :=
  let (hour, rest) := takeUpTo isDigit 2 text
  match minuteAt? rest with
  | some (minute, rest) => (meridiemAt? rest).map (⟨hour, some minute, ·⟩)
  | none => (meridiemAt? rest).map (⟨hour, none, ·⟩)

structure TwentyFourHour where
  hour : List Char
  minute : List Char
deriving DecidableEq

def minuteEnd? : List Char → Option (List Char)
  | mark :: a :: b :: rest =>
      if isTimeMark mark ∧ '0' ≤ a ∧ a ≤ '5' ∧ isDigit b ∧ startsWithWord rest = false then
        some [a, b]
      else none
  | _ => none

/-- Two digits can be an hour if they are at most 23. -/
def isHourPair (a b : Char) : Bool :=
  ((a == '0' || a == '1') && isDigit b) || (a == '2' && '0' ≤ b && b ≤ '3')

def twentyFourHourAt? : List Char → Option TwentyFourHour
  | a :: b :: rest =>
      if isDigit a then
        if isDigit b then
          if isHourPair a b then (minuteEnd? rest).map (⟨[a, b], ·⟩) else none
        else (minuteEnd? (b :: rest)).map (⟨[a], ·⟩)
      else none
  | _ => none

/-- The first place, not inside a word, where `at?` reads something that begins with a digit. -/
def findNumber? (at? : List Char → Option α) : (insideWord : Bool) → List Char → Option α
  | _, [] => none
  | insideWord, c :: rest =>
      match (if !insideWord && isDigit c then at? (c :: rest) else none) with
      | some found => some found
      | none => findNumber? at? (isWord c) rest

def findTwelveHour? (text : List Char) : Option TwelveHour :=
  findNumber? twelveHourAt? false text

def findTwentyFourHour? (text : List Char) : Option TwentyFourHour :=
  findNumber? twentyFourHourAt? false text

/-- Twelve is the hour that opens each half of the day. -/
def hourOfDay (hour : Nat) (afternoon : Bool) : Nat := hour % 12 + if afternoon then 12 else 0

def TwelveHour.time? (printed : TwelveHour) : Option TimeOfDay := do
  let hour ← number? printed.hour
  let minute ← (printed.minute.map number?).getD (some 0)
  if 1 ≤ hour ∧ hour ≤ 12 then
    TimeOfDay.ofHourMinute? (hourOfDay hour (asciiLower printed.meridiem == 'p')) minute
  else none

def TwentyFourHour.time? (printed : TwentyFourHour) : Option TimeOfDay := do
  let hour ← number? printed.hour
  let minute ← number? printed.minute
  TimeOfDay.ofHourMinute? hour minute

/-- The first time in a text. A time with `am` or `pm` anywhere wins over one without. -/
def single? (text : List Char) : Option TimeOfDay :=
  match findTwelveHour? text with
  | some printed => printed.time?
  | none => (findTwentyFourHour? text).bind TwentyFourHour.time?

/-! Ranges. -/

def isDash (c : Char) : Bool := c == '-' || c == '–' || c == '—'

/-- The rest behind a separator word, which must be a word of its own. -/
def afterWord? (word text : List Char) : Option (List Char) :=
  match afterLead? word text with
  | some rest => if startsWithWord rest then none else some rest
  | none => none

/-- The rest behind a separator at the start of a text. -/
def afterSeparator? (insideWord : Bool) (text : List Char) : Option (List Char) :=
  match text with
  | [] => none
  | c :: rest =>
      if isDash c then some rest
      else if insideWord then none
      else match afterWord? ['t', 'o'] text with
        | some rest => some rest
        | none => afterWord? ['u', 'n', 't', 'i', 'l'] text

def splitAt? : (insideWord : Bool) → List Char → Option (List Char × List Char)
  | _, [] => none
  | insideWord, c :: rest =>
      match afterSeparator? insideWord (c :: rest) with
      | some after => some ([], after)
      | none => (splitAt? (isWord c) rest).map fun (before, after) => (c :: before, after)

/-- The start of a range and, if something is printed behind the separator, its end. -/
def splitRange (text : List Char) : List Char × Option (List Char) :=
  match splitAt? false text with
  | some (before, after) =>
      let finish := trim after
      (trim before, if finish = [] then none else some finish)
  | none => (trim text, none)

theorem afterLead?_length {lead text rest : List Char} (h : afterLead? lead text = some rest) :
    rest.length + lead.length = text.length := by
  induction lead generalizing text with
  | nil =>
      cases h
      rfl
  | cons c lead ih =>
      cases text with
      | nil => simp [afterLead?] at h
      | cons d text =>
          simp only [afterLead?] at h
          split at h
          · have := ih h
            simp only [List.length_cons]
            omega
          · simp at h

theorem afterWord?_length {word text rest : List Char} (h : afterWord? word text = some rest) :
    rest.length + word.length = text.length := by
  unfold afterWord? at h
  split at h
  · rename_i lead hlead
    split at h
    · simp at h
    · cases h
      exact afterLead?_length hlead
  · simp at h

theorem afterSeparator?_length {insideWord : Bool} {text rest : List Char}
    (h : afterSeparator? insideWord text = some rest) : rest.length < text.length := by
  unfold afterSeparator? at h
  split at h
  · simp at h
  · split at h
    · cases h
      simp
    · split at h
      · simp at h
      · split at h
        · rename_i hword
          cases h
          have := afterWord?_length hword
          simp only [List.length_cons, List.length_nil] at this ⊢
          omega
        · have := afterWord?_length h
          simp only [List.length_cons, List.length_nil] at this ⊢
          omega

theorem splitAt?_length {insideWord : Bool} {text before after : List Char}
    (h : splitAt? insideWord text = some (before, after)) : after.length < text.length := by
  induction text generalizing insideWord before with
  | nil => simp [splitAt?] at h
  | cons c rest ih =>
      simp only [splitAt?] at h
      split at h
      · rename_i hafter
        cases h
        exact afterSeparator?_length hafter
      · rename_i hnone
        cases hsplit : splitAt? (isWord c) rest with
        | none => simp [hsplit] at h
        | some sides =>
            simp only [hsplit, Option.map_some, Option.some.injEq, Prod.mk.injEq] at h
            have := @ih (isWord c) sides.1 (by rw [hsplit, ← h.2])
            simp only [List.length_cons]
            omega

theorem trim_length_le (text : List Char) : (trim text).length ≤ text.length := by
  have hstart := (List.dropWhile_sublist isBlank (l := text)).length_le
  have hend := (List.dropWhile_sublist isBlank (l := (trimStart text).reverse)).length_le
  simp only [List.length_reverse] at hend
  simp only [trim, trimEnd, List.length_reverse]
  exact Nat.le_trans hend hstart

/-- The end of a range is shorter than the range. -/
theorem splitRange_length {text start finish : List Char}
    (h : splitRange text = (start, some finish)) : finish.length < text.length := by
  unfold splitRange at h
  split at h
  · rename_i before after hsplit
    have hafter := splitAt?_length hsplit
    have htrim := trim_length_le after
    simp only [Prod.mk.injEq] at h
    split at h
    · simp at h
    · have heq := Option.some.inj h.2
      rw [← heq]
      omega
  · simp at h

def lastSegment (text : List Char) : List Char :=
  match _h : splitRange text with
  | (_, some finish) => lastSegment finish
  | (_, none) => text
termination_by text.length
decreasing_by exact splitRange_length _h

/-! Whole texts. -/

/-- What follows `door`, `doors open` and the like, and a colon or dash, if a text starts so. -/
def stripDoors (text : List Char) : List Char :=
  match afterFolded? foldChar ['d', 'o', 'o', 'r'] (skipBlanks text) with
  | none => text
  | some rest =>
      let rest := skipOne (foldChar · == 's') rest
      let rest := match (afterBlanks? rest).bind (afterFolded? foldChar ['o', 'p', 'e', 'n']) with
        | some rest => rest
        | none => rest
      skipBlanks (skipOne (fun c => c == ':' || c == '-') (skipBlanks rest))

/-- An hour without `am` or `pm`, with or without minutes, and nothing else. -/
def isBareHour (text : List Char) : Bool :=
  let (hour, rest) := takeUpTo isDigit 2 text
  hour ≠ [] && match rest with
    | [] => true
    | rest => match minuteAt? rest with
      | some (_, []) => true
      | _ => false

/-- The time at which a range starts; a bare hour borrows `am` or `pm` from the end. -/
def rangeStart? (start : List Char) (finish : Option (List Char)) : Option TimeOfDay :=
  let borrowed := if isBareHour start then finish.bind findTwelveHour? else none
  match borrowed with
  | some printed => single? (start ++ [printed.meridiem, 'm'])
  | none => single? start

/-- The time of a text, or the start of its range. -/
def time? (text : List Char) : Option TimeOfDay :=
  let (start, finish) := splitRange (stripDoors (trim text))
  rangeStart? start finish

/-- Both ends of a range; there is no end if none is printed or it is not a time. -/
def range? (text : List Char) : Option (TimeOfDay × Option TimeOfDay) :=
  let (start, finish) := splitRange (stripDoors (trim text))
  (rangeStart? start finish).map fun time =>
    (time, finish.bind fun finish => single? (lastSegment finish))

end GigListings.TimeText
