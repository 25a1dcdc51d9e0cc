import GigListings.Calendar.Date

namespace GigListings

/-! Sums that may leave the calendar. Dates as such go on for ever, but a computation that keeps to
the calendar cannot go on from a sum that comes out before its first year or after its last one.
Whatever takes sums is defined once for both. -/

inductive CalendarFault where
  | leftCalendar
deriving DecidableEq, Repr

/-- Computations that take sums of dates and times. -/
class Reckoning (m : Type → Type) where
  /-- Goes on with a value on a date to which a sum has led. -/
  on {α : Type} : Date → α → m α
  /-- Whether there are instants on a date in universal time. -/
  reaches : Date → Bool

/-- Dates without an end, as a scrape takes them. -/
instance : Reckoning Id where
  on _ value := value
  reaches _ := true

def checkedOn (date : Date) (value : α) : Except CalendarFault α :=
  if date.InCalendar then .ok value else .error .leftCalendar

/-- Dates as far as the calendar goes. -/
instance : Reckoning (Except CalendarFault) where
  on := checkedOn
  reaches date := date.InCalendar

end GigListings
