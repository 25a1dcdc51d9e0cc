namespace GigListings

/-! Finite maps from names, as entries in ascending order of their names. -/

abbrev Dict (α : Type) := List (String × α)

namespace Dict

variable {α : Type}

def get? (dict : Dict α) (name : String) : Option α := dict.lookup name

def contains (dict : Dict α) (name : String) : Bool := (dict.get? name).isSome

def names (dict : Dict α) : List String := dict.map Prod.fst

def insert (name : String) (value : α) : Dict α → Dict α
  | [] => [(name, value)]
  | (other, found) :: rest =>
      if name < other then (name, value) :: (other, found) :: rest
      else if name = other then (name, value) :: rest
      else (other, found) :: insert name value rest

/-- Of several entries with one name the last one counts. -/
def ofList (entries : List (String × α)) : Dict α :=
  entries.foldl (fun dict (name, value) => dict.insert name value) []

/-- Entries of `overlay` win over those of `base`. -/
def merge (base overlay : Dict α) : Dict α :=
  overlay.foldl (fun dict (name, value) => dict.insert name value) base

def Sorted (dict : Dict α) : Prop := dict.Pairwise fun a b => a.1 < b.1

end Dict

end GigListings
