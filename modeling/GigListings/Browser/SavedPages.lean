import GigListings.Browser.Basic
import GigListings.Css.Match
import GigListings.Storage.Disk

namespace GigListings

open Css Html Text

/-! Saved pages. A page is filed under its link, or under the key of its link. -/

/-- What follows the first `lead` in a text that has one. -/
def afterFirst? (lead : List Char) : List Char → Option (List Char)
  | [] => none
  | c :: rest => afterLead? lead (c :: rest) <|> afterFirst? lead rest

/-- The file name, without extension, of a saved page: the letters and digits of its link
behind the scheme. -/
def fixtureKey (link : String) : String :=
  let link := link.toList
  String.ofList (joinRuns isAsciiAlphanumeric '_'
    (((afterFirst? "://".toList link).getD link).map asciiLower))

def withoutSlashes (link : String) : String :=
  String.ofList ((link.toList.reverse.dropWhile (· == '/')).reverse)

/-- Pages by link or key, the latest first. -/
structure Fixtures where
  pages : List (String × String)

namespace Fixtures

def insert (fixtures : Fixtures) (key html : String) : Fixtures := ⟨(key, html) :: fixtures.pages⟩

/-- Slashes at the end of a link make no difference. -/
def page? (fixtures : Fixtures) (link : String) : Option String :=
  let bare := withoutSlashes link
  [link, bare, bare ++ "/", fixtureKey link].findSome? fun key => fixtures.pages.lookup key

end Fixtures

/-! A browser of saved pages. It shows documents as they were saved: clicks and scrolling have no
effect. -/

namespace Html.Element

def hidesByStyle (style : String) : Bool :=
  let style := (style.toList.map asciiLower).filter fun c => !isBlank c
  contains "display:none".toList style || contains "visibility:hidden".toList style

def isHidden (element : Element) : Bool :=
  (element.attribute? "hidden").isSome || element.attribute? "type" == some "hidden" ||
    (element.attribute? "style").any hidesByStyle

end Html.Element

def Html.Place.isHidden (place : Place) : Bool :=
  (place :: place.ancestors).any fun place => place.element.isHidden

/-- What a selector finds in a document. One visible element is enough. -/
def Html.Document.state (document : Document) (selector : Selector) : SelectorState :=
  let found := document.select selector
  if found.isEmpty then .absent else if found.all Place.isHidden then .hidden else .visible

namespace Fixtures

def loaded? (page : Nat) (event : Event) : Option String :=
  match event with
  | ⟨_, .onPage number (.goto url _), .ok ()⟩ => if number = page then some url else none
  | _ => none

/-- The link of the document on a page. -/
def url? (history : History) (page : Nat) : Option String := history.findSome? (loaded? page)

def document (fixtures : Fixtures) (history : History) (page : Nat) : Except PageFault String :=
  match (url? history page).bind fixtures.page? with
  | some html => .ok html
  | none => .error .noDocument

def state (html selector : String) : Except PageFault SelectorState :=
  match Selector.parse selector with
  | .ok parsed => .ok ((Document.parse html).state parsed)
  | .error fault => .error (.selector fault)

def pageAnswer (fixtures : Fixtures) (history : History) (page : Nat) :
    (call : PageCall) → Except PageFault call.Answer
  | .goto url _ => if (fixtures.page? url).isSome then .ok () else .error (.noSavedPage url)
  | .state selector => (fixtures.document history page).bind fun html => state html selector
  | .idle _ => .ok ()
  | .click selector =>
      (fixtures.document history page).bind fun html =>
        (state html selector).bind fun found =>
          if found.isPresent then .ok () else .error (.noElement selector)
  | .scroll _ _ => .ok ()
  | .content => fixtures.document history page
  | .screenshot => .ok none
  | .close => .ok ()

def browser (fixtures : Fixtures) : Browser where
  answer history _ call :=
    match call with
    | .openPage _ _ => .ok ()
    | .onPage page call => fixtures.pageAnswer history page call

/-- The pages in a folder, by the names of their files. -/
def ofFolder (disk : Disk) (folder : String) : Except Disk.Fault Fixtures := do
  let names ← disk.names folder
  names.foldlM (fun fixtures name =>
    match DiskPath.splitExtension name with
    | (stem, some "html") =>
        return fixtures.insert stem (← disk.read (DiskPath.join folder name))
    | _ => return fixtures) ⟨[]⟩

end Fixtures

end GigListings
