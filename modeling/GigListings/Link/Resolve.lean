import GigListings.Link.Url

namespace GigListings

open Text

/-! Making scraped links absolute. -/

namespace Link

/-- Where a site that links its events by bare fragments lists them. -/
def defaultFragmentPath : List Char := "/whats-on/".toList

def dropHere : List Char → List Char
  | '.' :: '/' :: rest => dropHere rest
  | text => text

/-- The absolute form of a link that is not empty, not absolute and has no host of its own. -/
def onOrigin (origin : List Char) (fragmentPath : Option (List Char)) (link : List Char) :
    List Char :=
  match link with
  | '/' :: _ => origin ++ link
  | '#' :: _ =>
      let path := (fragmentPath.getD defaultFragmentPath).dropWhile (· == '/')
      origin ++ '/' :: path ++ link
  | _ => origin ++ '/' :: dropHere link

/-- Absolute links are kept, links without a scheme get one, paths and fragments are put on
the origin of the base. An empty link has no value; without a usable base a link is kept. -/
def resolve? (link base : List Char) (fragmentPath : Option (List Char)) :
    Option (List Char) :=
  match trim link with
  | [] => none
  | link =>
      if (Url.parse? link).isSome then some link
      else match link with
        | '/' :: '/' :: rest => some ("https://".toList ++ rest)
        | link =>
            match Url.parse? base with
            | some url => some (onOrigin url.origin fragmentPath link)
            | none => some link

end Link

end GigListings
