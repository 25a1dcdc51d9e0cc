import GigListings.Proofs.Printed.Rendering

namespace GigListings

/-! Dates that are printed without their year, or with two digits of it. Of a day and a month the
twelve months that start today have one date at most, and that is the one that is inferred. -/

namespace Date

/-! Dates are ordered by year, month and day. -/

def marchYearStart (year : Int) : Int := year * 365 + year / 4 - year / 100 + year / 400

def daysSinceMarch (date : Date) : Int := marchStart (marchMonth date.month) + date.day - 1

theorem dayNumber_eq (date : Date) : date.dayNumber =
    marchYearStart (marchYear date.year date.month) + date.daysSinceMarch - 719468 := by
  rw [dayNumber, dayNumberOf_eq, daysSinceMarch, marchYearStart]
  omega

theorem marchYearStart_succ (year : Int) :
    marchYearStart (year + 1) ≤ marchYearStart year + 366 := by
  simp only [marchYearStart]
  omega

theorem daysSinceMarch_lt (date : Date) : date.daysSinceMarch <
    marchYearStart (marchYear date.year date.month + 1) -
      marchYearStart (marchYear date.year date.month) := by
  obtain ⟨-, most⟩ := date.eraDay.day_bounds
  have leap := date.eraDay.leap
  have day : date.eraDay.day = date.daysSinceMarch := rfl
  have century : date.eraDay.century = marchYear date.year date.month % 400 / 100 := rfl
  have olympiad : date.eraDay.olympiad = marchYear date.year date.month % 400 % 100 / 4 := rfl
  have year : date.eraDay.year = marchYear date.year date.month % 4 := rfl
  rw [day] at most leap
  rw [century, olympiad, year] at leap
  simp only [marchYearStart]
  omega

theorem daysSinceMarch_nonneg (date : Date) : 0 ≤ date.daysSinceMarch := date.eraDay.day_bounds.1

theorem marchStart_add_le {month later day : Int} (least : 0 ≤ month) (before : month < later)
    (most : later ≤ 11) (inMonth : day ≤ marchLength month) :
    marchStart month + day ≤ marchStart later := by
  have next : marchStart month + marchLength month ≤ marchStart (month + 1) := by
    simp only [marchLength, marchStart]
    have : month ≤ 10 := by omega
    interval_cases month <;> decide
  have increasing : marchStart (month + 1) ≤ marchStart later := by
    simp only [marchStart]
    omega
  omega

theorem daysSinceMarch_lt_of_before {a b : Date}
    (before : marchMonth a.month < marchMonth b.month ∨
      marchMonth a.month = marchMonth b.month ∧ a.day < b.day) :
    a.daysSinceMarch < b.daysSinceMarch := by
  have aBounds := month_bounds a.isDay
  have bBounds := month_bounds b.isDay
  have inMonth := ((isDay_iff aBounds).mp a.isDay).2.1
  have positive := ((isDay_iff bBounds).mp b.isDay).1
  simp only [daysSinceMarch]
  rcases before with earlier | ⟨same, earlier⟩
  · have := marchStart_add_le (marchMonth_bounds aBounds).1 earlier (marchMonth_bounds bBounds).2
      inMonth
    omega
  · rw [same]
    omega

theorem dayNumber_lt_of_isBefore {a b : Date} (before : a.IsBefore b.year b.month b.day) :
    a.dayNumber < b.dayNumber := by
  have aMonth := month_bounds a.isDay
  have bMonth := month_bounds b.isDay
  rw [dayNumber_eq, dayNumber_eq]
  by_cases sameYear : marchYear a.year a.month = marchYear b.year b.month
  · have inYear : a.daysSinceMarch < b.daysSinceMarch := by
      apply daysSinceMarch_lt_of_before
      simp only [IsBefore, marchYear, marchMonth] at *
      omega
    rw [sameYear]
    omega
  · have earlier : marchYear a.year a.month < marchYear b.year b.month := by
      simp only [IsBefore, marchYear] at *
      omega
    have inYear := a.daysSinceMarch_lt
    have nonneg := b.daysSinceMarch_nonneg
    simp only [marchYearStart] at *
    omega

theorem isBefore_trichotomy (a b : Date) :
    a.IsBefore b.year b.month b.day ∨ a = b ∨ b.IsBefore a.year a.month a.day := by
  obtain ⟨aYear, aMonth, aDay, aIsDay⟩ := a
  obtain ⟨bYear, bMonth, bDay, bIsDay⟩ := b
  simp only [IsBefore, mk.injEq]
  omega

theorem lt_iff_isBefore {a b : Date} : a < b ↔ a.IsBefore b.year b.month b.day := by
  constructor
  · intro less
    rcases isBefore_trichotomy a b with before | rfl | after
    · exact before
    · exact absurd less (Int.lt_irrefl _)
    · exact absurd less (Int.lt_asymm (dayNumber_lt_of_isBefore after))
  · exact dayNumber_lt_of_isBefore

theorem le_iff_not_isBefore {a b : Date} : a ≤ b ↔ ¬b.IsBefore a.year a.month a.day := by
  rw [← lt_iff_isBefore]
  exact Int.not_lt.symm

theorem dayNumber_lt_of_isInYearFrom {date today : Date} (near : date.IsInYearFrom today) :
    date.dayNumber < today.dayNumber + 366 := by
  have dateMonth := month_bounds date.isDay
  have todayMonth := month_bounds today.isDay
  obtain ⟨-, before⟩ := near
  have inYear := date.daysSinceMarch_lt
  have nonneg := today.daysSinceMarch_nonneg
  rw [dayNumber_eq, dayNumber_eq]
  by_cases nextYear :
      marchYear date.year date.month = marchYear today.year today.month + 1
  · have earlier : date.daysSinceMarch < today.daysSinceMarch := by
      apply daysSinceMarch_lt_of_before
      simp only [IsBefore, marchYear, marchMonth] at *
      omega
    have := marchYearStart_succ (marchYear today.year today.month)
    rw [nextYear]
    omega
  · have sameYear : marchYear date.year date.month ≤ marchYear today.year today.month := by
      simp only [IsBefore, marchYear] at *
      omega
    simp only [marchYearStart] at *
    omega

end Date

/-- The date that a year, a month and a day name, if the calendar has it. -/
structure IsNamed (date : Date) (year : Int) (month day : Nat) : Prop where
  inCalendar : date.InCalendar
  year_eq : date.year = year
  month_eq : date.month = month
  day_eq : date.day = day

theorem named?_eq_some_iff {date : Date} {year : Int} {month day : Nat} :
    Date.named? year month day = some date ↔ IsNamed date year month day := by
  constructor
  · intro named
    obtain ⟨found, inCalendar⟩ := Option.filter_eq_some_iff.mp named
    unfold Date.ofYmd? at found
    split at found
    · cases found
      exact ⟨of_decide_eq_true inCalendar, rfl, rfl, rfl⟩
    · cases found
  · rintro ⟨inCalendar, rfl, rfl, rfl⟩
    rw [Date.named?_self, if_pos inCalendar]

/-- The date of a day and a month in the twelve months that start today. -/
structure IsComing (date today : Date) (month day : Nat) : Prop where
  inCalendar : date.InCalendar
  month_eq : date.month = month
  day_eq : date.day = day
  notPast : today ≤ date
  withinYear : date.IsBefore (today.year + 1) today.month today.day

theorem year_eq_inferYear_iff {date today : Date} :
    date.year = inferYear date.month date.day today ↔
      today ≤ date ∧ date.IsBefore (today.year + 1) today.month today.day := by
  rw [Date.le_iff_not_isBefore]
  constructor
  · intro inferred
    simp only [Date.IsBefore]
    unfold inferYear at inferred
    split at inferred <;> omega
  · intro near
    exact (Date.IsInYearFrom.inferYear near).symm

theorem resolveDate?_none_eq_some_iff {date today : Date} {month day : Nat} :
    resolveDate? none month day today = some date ↔ IsComing date today month day := by
  rw [resolveDate?, Option.getD_none, named?_eq_some_iff]
  constructor
  · rintro ⟨inCalendar, year, rfl, rfl⟩
    obtain ⟨notPast, withinYear⟩ := year_eq_inferYear_iff.mp year
    exact ⟨inCalendar, rfl, rfl, notPast, withinYear⟩
  · rintro ⟨inCalendar, rfl, rfl, notPast, withinYear⟩
    exact ⟨inCalendar, year_eq_inferYear_iff.mpr ⟨notPast, withinYear⟩, rfl, rfl⟩

theorem IsComing.unique {date other today : Date} {month day : Nat}
    (coming : IsComing date today month day) (otherComing : IsComing other today month day) :
    date = other := by
  rw [← resolveDate?_none_eq_some_iff] at coming otherComing
  exact Option.some.inj (coming.symm.trans otherComing)

theorem IsComing.dayNumber_lt {date today : Date} {month day : Nat}
    (coming : IsComing date today month day) : date.dayNumber < today.dayNumber + 366 :=
  Date.dayNumber_lt_of_isInYearFrom ⟨Date.le_iff_not_isBefore.mp coming.notPast, coming.withinYear⟩

theorem IsNamed.unique {date other : Date} {year : Int} {month day : Nat}
    (isNamed : IsNamed date year month day) (otherNamed : IsNamed other year month day) :
    date = other := by
  rw [← named?_eq_some_iff] at isNamed otherNamed
  exact Option.some.inj (isNamed.symm.trans otherNamed)

/-- What a year of two digits comes to: its date in this century unless that lies too far ahead,
which is then inferred as if there were no year. -/
theorem resolveShortYear?_cases (short : Int) (month day : Nat) (today : Date) :
    ((∀ date, ¬IsNamed date (2000 + short) month day) ∧
        resolveShortYear? short month day today = none) ∨
      ∃ date, IsNamed date (2000 + short) month day ∧
        ((date.dayNumber - today.dayNumber ≤ 548 ∧
            resolveShortYear? short month day today = some date) ∨
          (548 < date.dayNumber - today.dayNumber ∧
            resolveShortYear? short month day today = resolveDate? none month day today)) := by
  unfold resolveShortYear?
  cases named : Date.named? (2000 + short) month day with
  | none =>
      refine .inl ⟨fun date isNamed => ?_, rfl⟩
      rw [named?_eq_some_iff.mpr isNamed] at named
      cases named
  | some date =>
      refine .inr ⟨date, named?_eq_some_iff.mp named, ?_⟩
      by_cases far : furthestAhead < date.dayNumber - today.dayNumber
      · exact .inr ⟨far, if_pos far⟩
      · exact .inl ⟨Int.not_lt.mp far, if_neg far⟩

/-- Without a year, a day and a month are resolved to their date in the twelve months that start
today, of which there is one at most. With two digits of the year they are resolved to no date that
lies more than 548 days ahead: to the one of this century if it does not, and else to none or to
the one that is inferred. -/
theorem resolveDate?_coming_and_resolveShortYear?_near (today : Date) (month day : Nat) :
    (∀ date, resolveDate? none month day today = some date ↔ IsComing date today month day) ∧
      (∀ date other, IsComing date today month day → IsComing other today month day →
        date = other) ∧
      ∀ short : Int,
        (∀ date, resolveShortYear? short month day today = some date →
          date.dayNumber - today.dayNumber ≤ 548) ∧
        (∀ date, IsNamed date (2000 + short) month day →
          date.dayNumber - today.dayNumber ≤ 548 →
            resolveShortYear? short month day today = some date) ∧
        ((∀ date, IsNamed date (2000 + short) month day →
          548 < date.dayNumber - today.dayNumber) →
            resolveShortYear? short month day today = none ∨
              resolveShortYear? short month day today = resolveDate? none month day today) := by
  refine ⟨fun _ => resolveDate?_none_eq_some_iff, fun _ _ => IsComing.unique, fun short => ?_⟩
  obtain ⟨unnamed, nothing⟩ | ⟨named, isNamed, ⟨near, kept⟩ | ⟨far, inferred⟩⟩ :=
    resolveShortYear?_cases short month day today
  · rw [nothing]
    exact ⟨nofun, fun date isNamed => absurd isNamed (unnamed date), fun _ => .inl rfl⟩
  · rw [kept]
    refine ⟨?_, fun date other _ => congrArg some (isNamed.unique other), fun allFar => ?_⟩
    · rintro date ⟨⟩
      exact near
    · exact absurd (allFar named isNamed) (Int.not_lt.mpr near)
  · rw [inferred]
    refine ⟨fun date resolved => ?_, fun date other near => ?_, fun _ => .inr rfl⟩
    · have := (resolveDate?_none_eq_some_iff.mp resolved).dayNumber_lt
      omega
    · rw [isNamed.unique other] at far
      exact absurd near (Int.not_le.mpr far)

end GigListings
