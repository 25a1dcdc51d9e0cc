import GigListings.Html.Foreign

namespace GigListings.Html

/-! The state of tree construction: open elements, formatting elements and the insertion mode. -/

inductive Mode where
  | initial
  | beforeHtml
  | beforeHead
  | inHead
  | afterHead
  | inBody
  | text
  | inTable
  | inTableText
  | inCaption
  | inColumnGroup
  | inTableBody
  | inRow
  | inCell
  | inSelect
  | inSelectInTable
  | inTemplate
  | afterBody
  | inFrameset
  | afterFrameset
  | afterAfterBody
  | afterAfterFrameset
deriving DecidableEq, Repr

/-- A formatting element that is opened again where it was cut off, or a barrier to that. -/
inductive Formatting where
  | marker
  | element (id : Nat) (tag : Tag)

structure Builder where
  arena : Arena
  /-- Open elements, the current one first. -/
  opened : List Nat
  /-- Formatting elements, the latest first. -/
  formatting : List Formatting
  mode : Mode
  /-- The mode to go back to after a text. -/
  returnMode : Mode
  templateModes : List Mode
  head : Option Nat
  form : Option Nat
  framesetOk : Bool
  skipLineFeed : Bool
  /-- Whether content that does not fit into a table goes before it. -/
  fostering : Bool
  /-- Whether the page is laid out in old ways, with tables inside of paragraphs. -/
  oldLayout : Bool
  /-- Text inside of a table of which it is not known yet whether it stays there. -/
  tableText : List Token
  textMode : TextMode

def Builder.start : Builder where
  arena := .empty
  opened := []
  formatting := []
  mode := .initial
  returnMode := .initial
  templateModes := []
  head := none
  form := none
  framesetOk := true
  skipLineFeed := false
  fostering := false
  oldLayout := false
  tableText := []
  textMode := .markup

/-! Sets of elements. -/

def scopeBarriers : List String :=
  ["applet", "caption", "html", "table", "td", "th", "marquee", "object", "template"]

def endsScope (name : ElementName) : Bool :=
  isHtmlNamed scopeBarriers name || isFormulaText name || isDrawingText name

def endsListScope (name : ElementName) : Bool := endsScope name || isHtmlNamed ["ol", "ul"] name

def endsButtonScope (name : ElementName) : Bool := endsScope name || isHtmlNamed ["button"] name

def endsTableScope (name : ElementName) : Bool := isHtmlNamed ["html", "table", "template"] name

def endsSelectScope (name : ElementName) : Bool := !isHtmlNamed ["optgroup", "option"] name

def impliedEnds : List String :=
  ["dd", "dt", "li", "option", "optgroup", "p", "rb", "rp", "rt", "rtc"]

def thoroughImpliedEnds : List String :=
  impliedEnds ++ ["caption", "colgroup", "tbody", "td", "tfoot", "th", "thead", "tr"]

def headings : List String := ["h1", "h2", "h3", "h4", "h5", "h6"]

def specialTags : List String :=
  ["address", "applet", "area", "article", "aside", "base", "basefont", "bgsound", "blockquote",
    "body", "br", "button", "caption", "center", "col", "colgroup", "dd", "details", "dir", "div",
    "dl", "dt", "embed", "fieldset", "figcaption", "figure", "footer", "form", "frame",
    "frameset", "h1", "h2", "h3", "h4", "h5", "h6", "head", "header", "hgroup", "hr", "html",
    "iframe", "img", "input", "isindex", "li", "link", "listing", "main", "marquee", "menu",
    "meta", "nav", "noembed", "noframes", "noscript", "object", "ol", "p", "param", "plaintext",
    "pre", "script", "section", "select", "source", "style", "summary", "table", "tbody", "td",
    "template", "textarea", "tfoot", "th", "thead", "title", "tr", "track", "ul", "wbr", "xmp"]

def isSpecial (name : ElementName) : Bool := isHtmlNamed specialTags name

def isSpecialButBlock (name : ElementName) : Bool :=
  isSpecial name && !isHtmlNamed ["address", "div", "p"] name

def tableParts : List String := ["table", "tbody", "tfoot", "thead", "tr"]

/-! Looking at open elements. -/

namespace Builder

def nameIs (b : Builder) (holds : ElementName → Bool) (id : Nat) : Bool :=
  (b.arena.elementName? id).any holds

def currentIs (b : Builder) (holds : ElementName → Bool) : Bool :=
  b.opened.head?.any (b.nameIs holds)

def currentNamed (b : Builder) (names : List String) : Bool := b.currentIs (isHtmlNamed names)

/-- Whether an open element is wanted and no barrier stands before it. -/
def inScopeOf (b : Builder) (isBarrier : ElementName → Bool) (wanted : Nat → Bool) :
    List Nat → Bool
  | [] => false
  | id :: rest =>
      wanted id || (!b.nameIs isBarrier id && b.inScopeOf isBarrier wanted rest)

def inScope (b : Builder) (isBarrier : ElementName → Bool) (names : List String) : Bool :=
  b.inScopeOf isBarrier (b.nameIs (isHtmlNamed names)) b.opened

def hasOpen (b : Builder) (name : String) : Bool := b.opened.any (b.nameIs (isHtmlNamed [name]))

def htmlElement? (b : Builder) : Option Nat := b.opened.getLast?

/-- The second of the open elements, if it is the body. -/
def body? (b : Builder) : Option Nat :=
  (b.opened.reverse[1]?).filter (b.nameIs (isHtmlNamed ["body"]))

/-- The insertion mode that the open elements ask for. -/
def modeOf (b : Builder) : List Nat → Mode
  | [] => .inBody
  | id :: rest =>
      let last := rest.isEmpty
      match (b.arena.elementName? id).filter (·.space == .html) with
      | none => b.modeOf rest
      | some name =>
          match name.name with
          | "select" => selectMode rest
          | "td" => if last then b.modeOf rest else .inCell
          | "th" => if last then b.modeOf rest else .inCell
          | "tr" => .inRow
          | "tbody" => .inTableBody
          | "thead" => .inTableBody
          | "tfoot" => .inTableBody
          | "caption" => .inCaption
          | "colgroup" => .inColumnGroup
          | "table" => .inTable
          | "template" => b.templateModes.headD .inBody
          | "head" => if last then b.modeOf rest else .inHead
          | "body" => .inBody
          | "frameset" => .inFrameset
          | "html" => if b.head.isNone then .beforeHead else .afterHead
          | _ => b.modeOf rest
where
  selectMode : List Nat → Mode
    | [] => .inSelect
    | id :: rest =>
        if b.nameIs (isHtmlNamed ["template"]) id then .inSelect
        else if b.nameIs (isHtmlNamed ["table"]) id then .inSelectInTable
        else selectMode rest

def resetMode (b : Builder) : Mode := b.modeOf b.opened

end Builder

/-! Steps that change the state. -/

abbrev Build := StateM Builder

namespace Build

def changeArena (change : Arena → Arena) : Build Unit :=
  modify fun b => { b with arena := change b.arena }

def make (content : Content) : Build Nat :=
  modifyGet fun b =>
    let (id, arena) := b.arena.make content
    (id, { b with arena })

def setMode (mode : Mode) : Build Unit := modify fun b => { b with mode }

def forbidFrameset : Build Unit := modify fun b => { b with framesetOk := false }

def push (id : Nat) : Build Unit := modify fun b => { b with opened := id :: b.opened }

def pop : Build Unit := modify fun b => { b with opened := b.opened.drop 1 }

def popUntil (holds : ElementName → Bool) : Build Unit := modify fun b =>
  { b with opened := (b.opened.dropWhile fun id => !b.nameIs holds id).drop 1 }

def popUntilNamed (names : List String) : Build Unit := popUntil (isHtmlNamed names)

def popUntilCurrent (names : List String) : Build Unit := modify fun b =>
  { b with opened := b.opened.dropWhile fun id => !b.nameIs (isHtmlNamed names) id }

def removeOpen (id : Nat) : Build Unit := modify fun b =>
  { b with opened := b.opened.filter (· != id) }

def closeImplied (names : List String) : Build Unit := modify fun b =>
  { b with opened := b.opened.dropWhile (b.nameIs (isHtmlNamed names)) }

def closeImpliedExcept (name : String) : Build Unit :=
  closeImplied (impliedEnds.filter (· != name))

def closeParagraph : Build Unit := do
  closeImpliedExcept "p"
  popUntilNamed ["p"]

def closeParagraphInScope : Build Unit := do
  if (← get).inScope endsButtonScope ["p"] then closeParagraph

/-! Where nodes go. -/

inductive Point where
  | inside (parent : Nat)
  /-- Before a table, or inside of the element around it if the table has no place. -/
  | before (table parent : Nat)

def fosterPoint (b : Builder) : List Nat → Point
  | [] => .inside 0
  | [id] => .inside id
  | id :: above :: rest =>
      if b.nameIs (isHtmlNamed ["template"]) id then .inside id
      else if b.nameIs (isHtmlNamed ["table"]) id then .before id above
      else fosterPoint b (above :: rest)

def pointFor (b : Builder) (target : Nat) : Point :=
  if b.fostering && b.nameIs (isHtmlNamed tableParts) target then fosterPoint b b.opened
  else .inside target

def placeNode (id : Nat) : Point → Build Unit
  | .inside parent => changeArena fun arena => arena.append parent id
  | .before table parent => changeArena fun arena =>
      if (arena.parent? table).isSome then arena.insertBefore table id else arena.append parent id

def placeText (text : String) : Point → Build Unit
  | .inside parent => changeArena fun arena => arena.appendText parent text
  | .before table parent => changeArena fun arena =>
      if (arena.parent? table).isSome then arena.insertTextBefore table text
      else arena.appendText parent text

def insertNode (id : Nat) : Build Unit := do
  let b ← get
  placeNode id (pointFor b (b.opened.headD 0))

def insertText (text : List Char) : Build Unit := do
  let b ← get
  placeText (String.ofList text) (pointFor b (b.opened.headD 0))

def insertComment (text : String) : Build Unit := do
  insertNode (← make (.comment text))

def appendComment (parent : Nat) (text : String) : Build Unit := do
  let id ← make (.comment text)
  changeArena fun arena => arena.append parent id

def insertElement (name : ElementName) (attributes : List Attribute) : Build Nat := do
  let id ← make (.element name attributes)
  insertNode id
  return id

def openElement (name : ElementName) (attributes : List Attribute) : Build Nat := do
  let id ← insertElement name attributes
  push id
  return id

def openTag (tag : Tag) : Build Unit := do
  discard (openElement ⟨.html, tag.name⟩ (plainAttributes tag.attributes))

def openNamed (name : String) : Build Unit := do
  discard (openElement ⟨.html, name⟩ [])

def insertTag (tag : Tag) : Build Unit := do
  discard (insertElement ⟨.html, tag.name⟩ (plainAttributes tag.attributes))

def readText (mode : TextMode) : Build Unit := modify fun b =>
  { b with returnMode := b.mode, mode := .text, textMode := mode }

def openText (tag : Tag) (mode : TextMode) : Build Unit := do
  openTag tag
  readText mode

/-! Formatting elements. -/

def addMarker : Build Unit := modify fun b => { b with formatting := .marker :: b.formatting }

def clearToMarker : Build Unit := modify fun b =>
  { b with formatting := (b.formatting.dropWhile fun
      | .marker => false
      | .element .. => true).drop 1 }

def sinceMarker (b : Builder) : List (Nat × Tag) :=
  b.formatting.takeWhile (fun
      | .marker => false
      | .element .. => true) |>.filterMap fun
      | .marker => none
      | .element id tag => some (id, tag)

def sameAttributes (a b : List (String × String)) : Bool :=
  a.length == b.length && a.all fun (name, value) => b.lookup name == some value

def isElement (id : Nat) : Formatting → Bool
  | .element other _ => other == id
  | .marker => false

def removeFormatting (id : Nat) : Build Unit := modify fun b =>
  { b with formatting := b.formatting.filter fun entry => !isElement id entry }

def replaceFormatting (id : Nat) (entry : Formatting) : Build Unit := modify fun b =>
  { b with formatting := b.formatting.map fun other => if isElement id other then entry else other }

/-- Opens a formatting element. Of more than three that are equal the first is forgotten. -/
def openFormatting (tag : Tag) : Build Unit := do
  let equal := (sinceMarker (← get)).filter fun (_, other) =>
    other.name == tag.name && sameAttributes other.attributes tag.attributes
  match equal.getLast? with
  | some (first, _) => if 3 ≤ equal.length then removeFormatting first
  | none => pure ()
  let id ← openElement ⟨.html, tag.name⟩ (plainAttributes tag.attributes)
  modify fun b => { b with formatting := .element id tag :: b.formatting }

/-- Opens the formatting elements again that have been cut off, the earliest first. -/
def reopenFormatting : Build Unit := do
  let b ← get
  let closed := b.formatting.takeWhile fun
    | .marker => false
    | .element id _ => !b.opened.contains id
  for entry in closed.reverse do
    match entry with
    | .marker => pure ()
    | .element id tag =>
        let again ← openElement ⟨.html, tag.name⟩ (plainAttributes tag.attributes)
        replaceFormatting id (.element again tag)

/-- Closes the innermost element of a name, if only unspecial elements stand in between. -/
def closeAny (name : String) : Build Unit := modify fun b =>
  match b.opened.find? fun id => b.nameIs (isHtmlNamed [name]) id || b.nameIs isSpecial id with
  | none => b
  | some id =>
      if b.nameIs (isHtmlNamed [name]) id then
        { b with opened := (b.opened.dropWhile (· != id)).drop 1 }
      else b

end Build

end GigListings.Html
