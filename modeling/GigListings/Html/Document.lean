import GigListings.Html.Element
import GigListings.Html.Rules
import GigListings.Sorting

namespace GigListings.Html

/-! Pages read from their text. -/

structure Document where
  nodes : List Node
  /-- Elements that markup has pushed out of the page; what stands in them is still found. -/
  detached : List Element

namespace Build

/-- Looks at a token until no rule asks for it again. -/
def applyToken : (fuel : Nat) → Token → Build Unit
  | 0, _ => return
  | fuel + 1, token => do
      let b ← get
      let outcome ← if b.isForeign token then foreignRule token else b.mode.rule token
      match outcome with
      | .done => return
      | .retry => applyToken fuel token
      | .again mode => do
          setMode mode
          applyToken fuel token

/-- Each look at a token closes an element or goes on to another mode. -/
def looks (b : Builder) : Nat := 4 * b.opened.length + 32

def withoutLineFeed : Token → Token
  | .blank ('\n' :: rest) => .blank rest
  | token => token

def feed (token : Token) : Build Unit := do
  let b ← get
  modify fun b => { b with skipLineFeed := false }
  match if b.skipLineFeed then withoutLineFeed token else token with
  | .blank [] => return
  | .doctype oldLayout => if b.mode = .initial then applyToken (looks b) (.doctype oldLayout)
  | token => applyToken (looks b) token

def readOn : TextMode → TextMode
  | .plain => .plain
  | _ => .markup

def feedText : (fuel : Nat) → List Char → Build Unit
  | 0, _ => return
  | _ + 1, [] => feed .stop
  | fuel + 1, text => do
      let b ← get
      let (tokens, rest) :=
        nextTokens b.textMode (b.currentIs fun name => name.space != .html) text
      modify fun b => { b with textMode := readOn b.textMode }
      for token in tokens do
        feed token
      feedText fuel rest

end Build

namespace Arena

def node? (arena : Arena) : (depth : Nat) → Nat → Option Node
  | 0, _ => none
  | depth + 1, id =>
      match arena.entry? id with
      | some ⟨.element name attributes, _, children⟩ =>
          some (.element ⟨id, name, attributes, children.toList.filterMap (arena.node? depth)⟩)
      | some ⟨.text text, _, _⟩ => some (.text text)
      | some ⟨.comment text, _, _⟩ => some (.comment text)
      | _ => none

def document (arena : Arena) : Document :=
  let node? := arena.node? arena.entries.size
  { nodes := (arena.children 0).toList.filterMap node?
    detached := (List.range arena.entries.size).filterMap fun id =>
      if (arena.parent? id).isNone then (node? id).bind Node.element? else none }

end Arena

namespace Document

def parse (text : String) : Document :=
  let text := preprocessed text.toList
  ((Build.feedText (text.length + 1) text).run Builder.start).2.arena.document

/-- The elements with a place, in the order in which the page has made them. -/
def places (document : Document) : List Place :=
  sortBy (fun a b => a.number ≤ b.number)
    (placesAmong true [] [] document.nodes ++
      document.detached.flatMap fun element => element.placesBelow false [] [] [])

def root? (document : Document) : Option Place :=
  go [] document.nodes
where
  go (before : List Node) : List Node → Option Place
    | [] => none
    | .element element :: rest => some ⟨element, before, rest, [], true⟩
    | node :: rest => go (node :: before) rest

end Document

end GigListings.Html
