namespace GigListings.Html

/-! Names and attributes of elements, and the arena in which a page is put together. -/

inductive Space where
  | html
  | svg
  | math
deriving DecidableEq, Repr

structure ElementName where
  space : Space
  name : String
deriving DecidableEq

def isHtmlNamed (names : List String) (name : ElementName) : Bool :=
  name.space == .html && names.contains name.name

inductive AttributeSpace where
  | plain
  | xlink
  | xml
  | xmlns
deriving DecidableEq, Repr

structure Attribute where
  space : AttributeSpace
  name : String
  value : String
deriving DecidableEq

inductive Content where
  | root
  | element (name : ElementName) (attributes : List Attribute)
  | text (text : String)
  | comment (text : String)

structure Entry where
  content : Content
  parent : Option Nat
  children : Array Nat

structure Arena where
  entries : Array Entry

namespace Arena

def empty : Arena := ⟨#[⟨.root, none, #[]⟩]⟩

instance : Inhabited Arena := ⟨empty⟩

def entry? (arena : Arena) (id : Nat) : Option Entry := arena.entries[id]?

def parent? (arena : Arena) (id : Nat) : Option Nat := (arena.entry? id).bind Entry.parent

def children (arena : Arena) (id : Nat) : Array Nat :=
  ((arena.entry? id).map Entry.children).getD #[]

def elementName? (arena : Arena) (id : Nat) : Option ElementName :=
  match arena.entry? id with
  | some ⟨.element name _, _, _⟩ => some name
  | _ => none

def text? (arena : Arena) (id : Nat) : Option String :=
  match arena.entry? id with
  | some ⟨.text text, _, _⟩ => some text
  | _ => none

def modify (arena : Arena) (id : Nat) (change : Entry → Entry) : Arena :=
  ⟨arena.entries.modify id change⟩

def make (arena : Arena) (content : Content) : Nat × Arena :=
  (arena.entries.size, ⟨arena.entries.push ⟨content, none, #[]⟩⟩)

def detach (arena : Arena) (id : Nat) : Arena :=
  match arena.parent? id with
  | none => arena
  | some parent =>
      (arena.modify parent fun entry =>
        { entry with children := entry.children.filter (· != id) }).modify id fun entry =>
          { entry with parent := none }

def append (arena : Arena) (parent id : Nat) : Arena :=
  ((arena.detach id).modify parent fun entry =>
    { entry with children := entry.children.push id }).modify id fun entry =>
      { entry with parent := some parent }

def insertBefore (arena : Arena) (sibling id : Nat) : Arena :=
  let arena := arena.detach id
  match arena.parent? sibling with
  | none => arena
  | some parent =>
      (arena.modify parent fun entry =>
        { entry with children := (entry.children.toList.flatMap fun child =>
            if child = sibling then [id, child] else [child]).toArray }).modify id fun entry =>
              { entry with parent := some parent }

def moveChildren (arena : Arena) (source target : Nat) : Arena :=
  (arena.children source).foldl (fun arena child => arena.append target child) arena

def extendText (arena : Arena) (id : Nat) (more : String) : Arena :=
  arena.modify id fun entry =>
    match entry.content with
    | .text text => { entry with content := .text (text ++ more) }
    | _ => entry

/-- Adds text behind the children; a text that is last there grows. -/
def appendText (arena : Arena) (parent : Nat) (text : String) : Arena :=
  match (arena.children parent).back? with
  | some last =>
      if (arena.text? last).isSome then arena.extendText last text
      else
        let (id, arena) := arena.make (.text text)
        arena.append parent id
  | none =>
      let (id, arena) := arena.make (.text text)
      arena.append parent id

def previous? (arena : Arena) (id : Nat) : Option Nat :=
  (arena.parent? id).bind fun parent =>
    ((arena.children parent).toList.takeWhile (· != id)).getLast?

/-- Adds text before a node that has a place; a text that is there grows. -/
def insertTextBefore (arena : Arena) (sibling : Nat) (text : String) : Arena :=
  match arena.previous? sibling with
  | some before =>
      if (arena.text? before).isSome then arena.extendText before text
      else
        let (id, arena) := arena.make (.text text)
        arena.insertBefore sibling id
  | none =>
      let (id, arena) := arena.make (.text text)
      arena.insertBefore sibling id

/-- Gives an element the attributes that it lacks. -/
def addAttributes (arena : Arena) (id : Nat) (more : List Attribute) : Arena :=
  arena.modify id fun entry =>
    match entry.content with
    | .element name attributes =>
        { entry with content := .element name (attributes ++ more.filter fun attr =>
            !attributes.any fun other => other.space == attr.space && other.name == attr.name) }
    | _ => entry

end Arena

end GigListings.Html
