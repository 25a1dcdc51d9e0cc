import GigListings.Text.Ranges

namespace GigListings.Text

/-! Partial maps on code points whose entries come in runs with one step and one shift. -/

structure CaseRun where
  count : Nat
  step : Nat
  shift : Int
deriving Inhabited

structure CaseRuns where
  starts : Array Nat
  runs : Array CaseRun
deriving Inhabited

namespace CaseRuns

def get? (table : CaseRuns) (code : Nat) : Option Char :=
  match countLe table.starts code 0 table.starts.size with
  | 0 => none
  | index + 1 =>
      let start := table.starts.getD index 0
      match table.runs[index]? with
      | none => none
      | some run =>
          let distance := code - start
          if distance % run.step = 0 ∧ distance / run.step < run.count then
            some (Char.ofNat ((code : Int) + run.shift).toNat)
          else none

def ofTokens (table : CaseRuns) (last : Nat) :
    List (List Char) → CaseRuns
  | gap :: count :: step :: shift :: rest =>
      let start := last + hexValue gap
      ofTokens
        ⟨table.starts.push start,
          table.runs.push ⟨hexValue count, hexValue step, hexInt shift⟩⟩ start rest
  | _ => table

/-- Each run is the distance from the run before it, its count, its step and its shift. -/
def ofText (table : String) : CaseRuns :=
  ofTokens ⟨#[], #[]⟩ 0 (tableTokens table)

/-- The characters that the table takes to `image`. -/
def sources (table : CaseRuns) (image : Char) : List Char :=
  (table.starts.toList.zip table.runs.toList).filterMap fun (start, run) =>
    let source := (image.toNat : Int) - run.shift
    let distance := (source - start).toNat
    if (start : Int) ≤ source ∧ distance % run.step = 0 ∧ distance / run.step < run.count then
      some (Char.ofNat source.toNat)
    else none

end CaseRuns

/-- Entries `source:first,second` of characters that become several. -/
def expansionsOfText (table : String) : List (Char × List Char) :=
  (tableTokens table).filterMap fun token =>
    match splitOn (· == ':') token with
    | [source, images] =>
        some (Char.ofNat (hexValue source),
          (splitOn (· == ',') images).map fun image => Char.ofNat (hexValue image))
    | _ => none

end GigListings.Text
