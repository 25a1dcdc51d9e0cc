import GigListings.Html.Builder

namespace GigListings.Html.Build

/-! Closing formatting elements that are not properly nested: what stood in them is taken over
by elements in their place. -/

/-- The open elements between a formatting element and a block in it, in the order in which they
are passed from the block outwards. At most three of them stay formatting elements. -/
def passOutwards (block : Nat) (bookmark : Option Nat) (passed : Nat) (last : Nat) :
    List Nat → Build (Nat × Option Nat)
  | [] => return (last, bookmark)
  | id :: rest => do
      let b ← get
      let tag := (b.formatting.findSome? fun
        | .element other tag => if other = id then some tag else none
        | .marker => none)
      match tag, decide (passed < 3) with
      | some tag, true =>
          let fresh ← make (.element ⟨.html, tag.name⟩ (plainAttributes tag.attributes))
          modify fun b =>
            { b with opened := b.opened.map fun other => if other = id then fresh else other }
          replaceFormatting id (.element fresh tag)
          changeArena fun arena => (arena.detach last).append fresh last
          passOutwards block (if last = block then some fresh else bookmark) (passed + 1) fresh rest
      | _, _ =>
          removeFormatting id
          removeOpen id
          passOutwards block bookmark (passed + 1) last rest

/-- Puts a formatting element in place of another, or right behind the bookmark. -/
def settleFormatting (old : Nat) (bookmark : Option Nat) (entry : Formatting) : Build Unit :=
  match bookmark with
  | none => replaceFormatting old entry
  | some mark => modify fun b =>
      { b with formatting := (b.formatting.flatMap fun other =>
          if isElement mark other then [entry, other] else [other]).filter fun other =>
            !isElement old other }

/-- One round; gives whether there may be another. -/
def adoptOnce (name : String) : Build Bool := do
  let b ← get
  match (sinceMarker b).find? fun (_, tag) => tag.name == name with
  | none =>
      closeAny name
      return false
  | some (format, tag) =>
      if !b.opened.contains format then
        removeFormatting format
        return false
      else if !b.inScopeOf endsScope (· == format) b.opened then
        return false
      else
        let inner := b.opened.takeWhile (· != format)
        match (inner.filter (b.nameIs isSpecial)).getLast? with
        | none =>
            modify fun b => { b with opened := (b.opened.dropWhile (· != format)).drop 1 }
            removeFormatting format
            return false
        | some block =>
            let between := (inner.dropWhile (· != block)).drop 1
            let ancestor := ((b.opened.dropWhile (· != format)).drop 1).headD 0
            let (last, bookmark) ← passOutwards block none 0 block between
            changeArena fun arena => arena.detach last
            placeNode last (pointFor (← get) ancestor)
            let fresh ← make (.element ⟨.html, tag.name⟩ (plainAttributes tag.attributes))
            changeArena fun arena => (arena.moveChildren block fresh).append block fresh
            settleFormatting format bookmark (.element fresh tag)
            removeOpen format
            modify fun b =>
              { b with opened := b.opened.flatMap fun id =>
                  if id = block then [fresh, id] else [id] }
            return true

def adoptRounds (name : String) : (rounds : Nat) → Build Unit
  | 0 => return
  | rounds + 1 => do
      if ← adoptOnce name then adoptRounds name rounds

def adopt (name : String) : Build Unit := do
  let b ← get
  if b.currentNamed [name] && !b.formatting.any (isElement (b.opened.headD 0)) then pop
  else adoptRounds name 8

end GigListings.Html.Build
