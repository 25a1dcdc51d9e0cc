namespace GigListings

/-! Lists put in order. Items of which either may come first stay as they stood. -/

def insertBy (le : α → α → Bool) (item : α) : List α → List α
  | [] => [item]
  | other :: rest =>
      if le item other then item :: other :: rest else other :: insertBy le item rest

def sortBy (le : α → α → Bool) (items : List α) : List α := items.foldr (insertBy le) []

end GigListings
