namespace GigListings.Toml

/-! Tables under construction. A table may be declared once; dotted keys may add to the tables
that dotted keys have made. -/

/-- Only texts are of interest; other values are checked and forgotten. -/
inductive Value where
  | text (text : String)
  | other
deriving DecidableEq

inductive Origin where
  /-- Named on the way to another table. -/
  | implied
  | dotted
  | declared
deriving DecidableEq

inductive Entry where
  | value (value : Value)
  | table (origin : Origin) (entries : List (String × Entry))
  | tables (elements : List (List (String × Entry)))

abbrev Entries := List (String × Entry)

namespace Entries

def replace (name : String) (entry : Entry) (entries : Entries) : Entries :=
  entries.map fun (other, found) => if other = name then (other, entry) else (other, found)

/-- Changes the last of several tables. -/
def changeLast (change : Entries → Option Entries) : List Entries → Option (List Entries)
  | [] => none
  | [last] => (change last).map fun last => [last]
  | table :: rest => (changeLast change rest).map (table :: ·)

def insert (value : Value) (name : String) : (path : List String) → Entries → Option Entries
  | [], entries =>
      if (entries.lookup name).isSome then none else some (entries ++ [(name, .value value)])
  | first :: rest, entries =>
      match entries.lookup first with
      | none => (insert value name rest []).map fun inner =>
          entries ++ [(first, .table .dotted inner)]
      | some (.table .declared _) => none
      | some (.table .implied inner) =>
          if rest.isEmpty then none
          else (insert value name rest inner).map fun inner =>
            replace first (.table .implied inner) entries
      | some (.table .dotted inner) => (insert value name rest inner).map fun inner =>
          replace first (.table .dotted inner) entries
      | some (.tables elements) =>
          if rest.isEmpty then none
          else (changeLast (insert value name rest) elements).map fun elements =>
            replace first (.tables elements) entries
      | some (.value _) => none

/-- Changes the table at the end of a path; of several tables the last one is meant. -/
def change (change : Entries → Option Entries) : (path : List String) → Entries → Option Entries
  | [], entries => change entries
  | first :: rest, entries =>
      match entries.lookup first with
      | none => (Entries.change change rest []).map fun inner =>
          entries ++ [(first, .table .implied inner)]
      | some (.table origin inner) => (Entries.change change rest inner).map fun inner =>
          replace first (.table origin inner) entries
      | some (.tables elements) =>
          (changeLast (Entries.change change rest) elements).map fun elements =>
            replace first (.tables elements) entries
      | some (.value _) => none

def declare (name : String) (entries : Entries) : Option Entries :=
  match entries.lookup name with
  | none => some (entries ++ [(name, .table .declared [])])
  | some (.table .implied inner) => some (replace name (.table .declared inner) entries)
  | some _ => none

def declareNext (name : String) (entries : Entries) : Option Entries :=
  match entries.lookup name with
  | none => some (entries ++ [(name, .tables [[]])])
  | some (.tables elements) => some (replace name (.tables (elements ++ [[]])) entries)
  | some _ => none

end Entries

end GigListings.Toml
