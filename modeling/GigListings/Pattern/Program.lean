import GigListings.Pattern.Basic

namespace GigListings

/-! Matching. A pattern is laid out as numbered steps; a search tries them depth first and
never takes up the same step at the same place twice, so that its cost is bounded by the
number of steps times the length of the text. -/

inductive Step where
  | char (set : CharSet) (next : Nat)
  | anchor (anchor : Anchor) (next : Nat)
  | save (slot : Nat) (next : Nat)
  | split (first second : Nat)
  | done

structure Program where
  steps : Array Step
  start : Nat
  slots : Nat

namespace Program

def push (steps : Array Step) (step : Step) : Nat × Array Step :=
  (steps.size, steps.push step)

/-- A choice that prefers `body` if greedy, else `next`. -/
def choice (greedy : Bool) (body next : Nat) : Step :=
  if greedy then .split body next else .split next body

/-- `body` laid out `copies` times in front of `next`. -/
def layCopies (lay : Nat → Array Step → Nat × Array Step) :
    (copies : Nat) → (next : Nat) → Array Step → Nat × Array Step
  | 0, next, steps => (next, steps)
  | copies + 1, next, steps =>
      let (start, steps) := lay next steps
      layCopies lay copies start steps

/-- `body` at most `copies` times, each behind a choice to go on with `exit`. -/
def layOptional (lay : Nat → Array Step → Nat × Array Step) (greedy : Bool) (exit : Nat) :
    (copies : Nat) → (next : Nat) → Array Step → Nat × Array Step
  | 0, next, steps => (next, steps)
  | copies + 1, next, steps =>
      let (body, steps) := lay next steps
      let (choice, steps) := push steps (choice greedy body exit)
      layOptional lay greedy exit copies choice steps

/-- One or more times `body`: the place where it starts, and the choice behind it. -/
def layLoop (lay : Nat → Array Step → Nat × Array Step) (greedy : Bool) (next : Nat)
    (steps : Array Step) : Nat × Nat × Array Step :=
  let (back, steps) := push steps .done
  let (body, steps) := lay back steps
  (body, back, steps.setIfInBounds back (choice greedy body next))

def lay : Pattern → (next : Nat) → Array Step → Nat × Array Step
  | .empty, next, steps => (next, steps)
  | .char set, next, steps => push steps (.char set next)
  | .anchor anchor, next, steps => push steps (.anchor anchor next)
  | .group index body, next, steps =>
      let (finish, steps) := push steps (.save (2 * index + 1) next)
      let (body, steps) := lay body finish steps
      push steps (.save (2 * index) body)
  | .seq first second, next, steps =>
      let (second, steps) := lay second next steps
      lay first second steps
  | .alt first second, next, steps =>
      let (second, steps) := lay second next steps
      let (first, steps) := lay first next steps
      push steps (.split first second)
  | .rep repetition body, next, steps =>
      match repetition.most with
      | some most =>
          let (optional, steps) := layOptional (lay body) repetition.greedy next
            (most - repetition.least) next steps
          layCopies (lay body) repetition.least optional steps
      | none =>
          let (start, back, steps) := layLoop (lay body) repetition.greedy next steps
          match repetition.least with
          | 0 =>
              if body.isNullable then push steps (choice repetition.greedy start next)
              else (back, steps)
          | least + 1 => layCopies (lay body) least start steps

def ofPattern (pattern : Pattern) (groups : Nat) : Program :=
  let (start, steps) := lay (.group 0 pattern) 0 #[.done]
  ⟨steps, start, 2 * (groups + 1)⟩

/-! Searching. -/

/-- A step to take up at a place, with what was captured on the way there. -/
structure Thread where
  step : Nat
  place : Nat
  slots : Array (Option Nat)

/-- Takes up the waiting threads, the most preferred first. -/
def explore (program : Program) (text : Array Char) :
    (fuel : Nat) → (visited : Array Bool) → List Thread →
      Option (Array (Option Nat)) × Array Bool
  | 0, visited, _ => (none, visited)
  | _ + 1, visited, [] => (none, visited)
  | fuel + 1, visited, thread :: waiting =>
      let key := thread.step * (text.size + 1) + thread.place
      if visited.getD key true then explore program text fuel visited waiting
      else
        let visited := visited.setIfInBounds key true
        match program.steps[thread.step]? with
        | none => explore program text fuel visited waiting
        | some .done => (some thread.slots, visited)
        | some (.char set next) =>
            let waiting := match text[thread.place]? with
              | some c =>
                  if set.contains c then ⟨next, thread.place + 1, thread.slots⟩ :: waiting
                  else waiting
              | none => waiting
            explore program text fuel visited waiting
        | some (.anchor anchor next) =>
            let before := if thread.place = 0 then none else text[thread.place - 1]?
            let waiting :=
              if anchor.holds before text[thread.place]? then
                ⟨next, thread.place, thread.slots⟩ :: waiting
              else waiting
            explore program text fuel visited waiting
        | some (.save slot next) =>
            explore program text fuel visited
              (⟨next, thread.place, thread.slots.setIfInBounds slot (some thread.place)⟩ ::
                waiting)
        | some (.split first second) =>
            explore program text fuel visited
              (⟨first, thread.place, thread.slots⟩ :: ⟨second, thread.place, thread.slots⟩ ::
                waiting)

/-- The leftmost match that begins at `place` or later, in `starts` attempts. -/
def searchFrom (program : Program) (text : Array Char) :
    (starts : Nat) → (place : Nat) → (visited : Array Bool) → Option (Array (Option Nat))
  | 0, _, _ => none
  | starts + 1, place, visited =>
      let fuel := 2 * (program.steps.size * (text.size + 1)) + 2
      let thread : Thread := ⟨program.start, place, Array.replicate program.slots none⟩
      match explore program text fuel visited [thread] with
      | (some slots, _) => some slots
      | (none, visited) => searchFrom program text starts (place + 1) visited

def search (program : Program) (text : Array Char) (place : Nat) :
    Option (Array (Option Nat)) :=
  searchFrom program text (text.size + 1 - place) place
    (Array.replicate (program.steps.size * (text.size + 1)) false)

end Program

end GigListings
