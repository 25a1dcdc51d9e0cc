import GigListings.Html.Node
import GigListings.Text.Basic

namespace GigListings.Html

/-! The elements of a page, each with what stands in and around it. -/

mutual

/-- Elements are numbered in the order in which the page makes them. -/
structure Element where
  number : Nat
  name : ElementName
  attributes : List Attribute
  children : List Node

inductive Node where
  | element (element : Element)
  | text (text : String)
  | comment (text : String)

end

namespace Node

def element? : Node → Option Element
  | element found => some found
  | _ => none

def isText : Node → Bool
  | text _ => true
  | _ => false

end Node

namespace Element

def attribute? (element : Element) (name : String) : Option String :=
  (element.attributes.find? fun attr => attr.space == .plain && attr.name == name).map
    Attribute.value

def hasClass (element : Element) (name : String) : Bool :=
  ((element.attribute? "class").map fun value =>
    (Text.words value.toList).contains name.toList).getD false

end Element

mutual

def Element.textContent : Element → String
  | ⟨_, _, _, children⟩ => textAmong children

def Node.textContent : Node → String
  | .element element => element.textContent
  | .text text => text
  | .comment _ => ""

def textAmong : List Node → String
  | [] => ""
  | node :: rest => node.textContent ++ textAmong rest

end

structure Frame where
  element : Element
  before : List Node
  after : List Node

structure Place where
  element : Element
  before : List Node
  after : List Node
  /-- The elements around it, the nearest first. -/
  around : List Frame
  /-- Whether the outermost element stands in the page; otherwise it has been taken out. -/
  attached : Bool

namespace Place

def number (place : Place) : Nat := place.element.number

def parent? (place : Place) : Option Place :=
  match place.around with
  | [] => none
  | frame :: rest => some ⟨frame.element, frame.before, frame.after, rest, place.attached⟩

def ancestors (place : Place) : List Place :=
  go place.around
where
  go : List Frame → List Place
    | [] => []
    | frame :: rest =>
        ⟨frame.element, frame.before, frame.after, rest, place.attached⟩ :: go rest

def precedingIn (around : List Frame) (attached : Bool) : (before after : List Node) → List Place
  | [], _ => []
  | .element element :: before, after =>
      ⟨element, before, after, around, attached⟩ ::
        precedingIn around attached before (.element element :: after)
  | node :: before, after => precedingIn around attached before (node :: after)

def preceding (place : Place) : List Place :=
  precedingIn place.around place.attached place.before (.element place.element :: place.after)

def elementsBefore (place : Place) : List Element := place.before.filterMap Node.element?

def elementsAfter (place : Place) : List Element := place.after.filterMap Node.element?

def isRoot (place : Place) : Bool := place.around.isEmpty && place.attached

def frame (place : Place) : Frame := ⟨place.element, place.before, place.after⟩

def children (place : Place) : List Place :=
  go [] place.element.children
where
  go (before : List Node) : List Node → List Place
    | [] => []
    | .element element :: rest =>
        ⟨element, before, rest, place.frame :: place.around, place.attached⟩ ::
          go (.element element :: before) rest
    | node :: rest => go (node :: before) rest

end Place

mutual

def Element.placesBelow (attached : Bool) (before after : List Node) (around : List Frame) :
    Element → List Place
  | ⟨number, name, attributes, children⟩ =>
      placesAmong attached [] (⟨⟨number, name, attributes, children⟩, before, after⟩ :: around)
        children
termination_by structural element => element

def Node.places (attached : Bool) (before after : List Node) (around : List Frame) :
    Node → List Place
  | .element element =>
      ⟨element, before, after, around, attached⟩ ::
        element.placesBelow attached before after around
  | .text _ => []
  | .comment _ => []
termination_by structural node => node

def placesAmong (attached : Bool) (before : List Node) (around : List Frame) :
    List Node → List Place
  | [] => []
  | node :: rest =>
      node.places attached before rest around ++ placesAmong attached (node :: before) around rest
termination_by structural nodes => nodes

end

def Place.descendants (place : Place) : List Place :=
  place.element.placesBelow place.attached place.before place.after place.around

end GigListings.Html
