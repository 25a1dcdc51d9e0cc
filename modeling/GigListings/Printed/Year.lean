import GigListings.Calendar.Date

namespace GigListings

/-! The year of a date that is printed without one. Listings show what is still to come, so
a day that has passed this year belongs to the next. -/

def inferYear (month day : Nat) (today : Date) : Int :=
  if month < today.month ∨ (month = today.month ∧ day < today.day) then today.year + 1
  else today.year

def resolveDate? (year : Option Int) (month day : Nat) (today : Date) : Option Date :=
  Date.named? (year.getD (inferYear month day today)) month day

/-- Years printed with two digits that lie further ahead than this are misprints. -/
def furthestAhead : Int := 548

def resolveShortYear? (short : Int) (month day : Nat) (today : Date) : Option Date :=
  match Date.named? (2000 + short) month day with
  | none => none
  | some date =>
      if furthestAhead < date.dayNumber - today.dayNumber then resolveDate? none month day today
      else some date

end GigListings
