import GigListings.Printed.DateText
import GigListings.Proofs.Calendar.DayNumber

namespace GigListings

/-! Going back from a wall clock to an instant. In a zone whose changes are in order the first
instant of a reading is found; it is the instant that was read unless the clock had shown the
same before. -/

namespace Zone

/-- Each change comes after those before it. -/
def IsOrdered (zone : Zone) : Prop :=
  zone.changes.Pairwise fun a b => a.since < b.since

instance (zone : Zone) : Decidable zone.IsOrdered := inferInstanceAs (Decidable (List.Pairwise ..))

theorem localOffset?_sound {local_ : Int} {start : Option Int} {offset : Int}
    {changes : List ZoneChange} (ordered : changes.Pairwise fun a b => a.since < b.since)
    {found : Int} (equation : localOffset? local_ start offset changes = some found) :
    (∀ first ∈ start, ∀ change ∈ changes, first < change.since) →
      offsetAfter offset (local_ - found) changes = found ∧
        ∀ first ∈ start, first ≤ local_ - found := by
  -- An offset found behind a change shows that the change is over; without that the cases of the
  -- search do not fit together.
  induction changes generalizing start offset with
  | nil =>
      intro _
      simp only [localOffset?] at equation
      split at equation
      · rename_i begun
        cases equation
        refine ⟨rfl, fun first member => ?_⟩
        simp only [Option.mem_def] at member
        simp [member] at begun
        omega
      · simp at equation
  | cons change rest induction =>
      intro after
      simp only [localOffset?] at equation
      split at equation
      · rename_i holds
        cases equation
        simp only [Bool.and_eq_true, decide_eq_true_eq] at holds
        refine ⟨?_, fun first member => ?_⟩
        · rw [offsetAfter, if_pos (by omega)]
        · simp only [Option.mem_def] at member
          simp [member] at holds
          omega
      · have restOrdered := (List.pairwise_cons.mp ordered).2
        have later := (List.pairwise_cons.mp ordered).1
        obtain ⟨holds, begun⟩ := induction restOrdered equation (by
          intro first member next nextMember
          simp only [Option.mem_def, Option.some.injEq] at member
          subst member
          exact later next nextMember)
        have reached := begun change.since rfl
        refine ⟨?_, fun first member => ?_⟩
        · rw [offsetAfter, if_neg (by omega)]
          exact holds
        · have := after first member change (by simp)
          omega

theorem localOffset?_first {start : Option Int} {seconds : Int} (offset : Int)
    (changes : List ZoneChange) (begun : ∀ first ∈ start, first ≤ seconds) :
    ∃ found, localOffset? (seconds + offsetAfter offset seconds changes) start offset changes =
        some found ∧
      seconds + offsetAfter offset seconds changes - found ≤ seconds := by
  induction changes generalizing start offset with
  | nil =>
      refine ⟨offset, ?_, ?_⟩
      · rw [offsetAfter, localOffset?, if_pos]
        cases start with
        | none => rfl
        | some first =>
            have := begun first rfl
            simp
            omega
      · simp only [offsetAfter]
        omega
  | cons change rest induction =>
      by_cases before : seconds < change.since
      · refine ⟨offset, ?_, ?_⟩
        · simp only [localOffset?, offsetAfter, if_pos before]
          rw [if_pos]
          cases start with
          | none => simpa using before
          | some first =>
              have := begun first rfl
              simp
              omega
        · rw [offsetAfter, if_pos before]
          omega
      · simp only [localOffset?, offsetAfter, if_neg before]
        split
        · rename_i holds
          simp only [Bool.and_eq_true, decide_eq_true_eq] at holds
          exact ⟨offset, rfl, by omega⟩
        · exact induction change.offset (by
            intro first member
            simp only [Option.mem_def, Option.some.injEq] at member
            omega)

/-- What is found for a reading shows it. -/
theorem wallClock_of_earliest? {zone : Zone} (ordered : zone.IsOrdered) {clock : WallClock}
    {instant : Instant} (found : zone.earliest? clock = some instant) :
    zone.wallClock instant = clock := by
  unfold earliest? at found
  obtain ⟨offset, equation, rfl⟩ := Option.map_eq_some_iff.mp found
  obtain ⟨holds, -⟩ := localOffset?_sound ordered equation (by simp)
  have seconds : Instant.seconds ⟨clock.shift (-offset)⟩ = clock.seconds - offset := by
    simp only [Instant.seconds, WallClock.seconds_shift]
    omega
  rw [wallClock, offsetAt, seconds, holds]
  apply WallClock.ext_seconds
  · simp only [WallClock.seconds_shift]
    omega
  · rfl

/-- Every instant's reading is found, at that instant or before. -/
theorem exists_earliest? (zone : Zone) (instant : Instant) :
    ∃ first, zone.earliest? (zone.wallClock instant) = some first ∧
      first.seconds ≤ instant.seconds ∧ first.utc.time.nanos = instant.utc.time.nanos := by
  have begun : ∀ first ∈ (none : Option Int), first ≤ instant.seconds := by simp
  obtain ⟨offset, equation, before⟩ := localOffset?_first zone.initial zone.changes begun
  refine ⟨⟨(zone.wallClock instant).shift (-offset)⟩, ?_, ?_, rfl⟩
  · unfold earliest?
    rw [wallClock, WallClock.seconds_shift]
    exact Option.map_eq_some_iff.mpr ⟨offset, equation, rfl⟩
  · simp only [Instant.seconds, wallClock, WallClock.seconds_shift, offsetAt] at before ⊢
    omega

end Zone

namespace DateContext

def IsOrdered (context : DateContext) : Prop := ∀ zone ∈ context.zone, zone.IsOrdered

/-- No earlier instant has the same reading on the venue's clock. -/
def IsFirstReading (context : DateContext) (instant : Instant) : Prop :=
  ∀ earlier : Instant, earlier.seconds < instant.seconds →
    context.wallClock earlier ≠ context.wallClock instant

theorem instant_wallClock_eq_iff {context : DateContext} (ordered : context.IsOrdered)
    (instant : Instant) :
    context.instant (context.wallClock instant) = instant ↔ context.IsFirstReading instant := by
  unfold IsFirstReading
  obtain ⟨today, zone⟩ := context
  cases zone with
  | none =>
      simp only [DateContext.instant_eq, wallClock, true_iff]
      intro earlier before equal
      simp only [Instant.seconds, equal, lt_self_iff_false] at before
  | some zone =>
      simp only [DateContext.instant_eq, wallClock, Zone.instant_eq]
      have zoneOrdered : zone.IsOrdered := ordered zone rfl
      obtain ⟨first, found, before, nanos⟩ := zone.exists_earliest? instant
      have shows := Zone.wallClock_of_earliest? zoneOrdered found
      rw [found]
      constructor
      · intro same earlier earlierBefore equal
        change first = instant at same
        subst same
        obtain ⟨other, otherFound, otherBefore, -⟩ := zone.exists_earliest? earlier
        rw [equal, found] at otherFound
        cases otherFound
        omega
      · intro least
        have equal : first.seconds = instant.seconds := by
          by_contra different
          exact least first (by omega) shows
        exact congrArg Instant.mk (WallClock.ext_seconds equal nanos)

theorem nanos_instant_wallClock (context : DateContext) (instant : Instant) :
    (context.instant (context.wallClock instant)).utc.time.nanos = instant.utc.time.nanos := by
  obtain ⟨today, zone⟩ := context
  cases zone with
  | none => rfl
  | some zone =>
      obtain ⟨first, found, -, nanos⟩ := zone.exists_earliest? instant
      simp only [DateContext.instant_eq, wallClock, Zone.instant_eq, found]
      exact nanos

end DateContext

end GigListings
