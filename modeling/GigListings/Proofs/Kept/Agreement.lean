import GigListings.Config.Action
import GigListings.Json.Schema

namespace GigListings

/-! What a configuration that is read and written keeps of the value it was read from. -/

open Number

inductive Block where
  | config
  | site
  | browser
  | viewport
  | rateLimit
  | validation
  | debug
  | mapping
  | venue
  | transformed
  | field
  | followUp
  | dateGroups
  | action (kind : Action.Kind)

inductive Shape where
  | plain
  | whole (least most : Int)
  | coordinate
  | list (item : Shape)
  | map (value : Shape)
  | record (block : Block)
  | nameOr (block : Block)
  | action

namespace Shape

def word32 : Shape := .whole 0 0xffffffff

def word64 : Shape := .whole 0 0xffffffffffffffff

def signed64 : Shape := .whole (-0x8000000000000000) 0x7fffffffffffffff

end Shape

/-- A member of an object, with what is written if it is absent, and the value, if there is one,
that is the same as none. -/
structure Slot where
  name : String
  shape : Shape
  absent : Option Json
  dropped : Option Json

namespace Slot

def plain (name : String) (shape : Shape) : Slot := ⟨name, shape, none, none⟩

def defaulting (name : String) (shape : Shape) (value : Json) : Slot :=
  ⟨name, shape, some value, none⟩

def flag (name : String) : Slot := ⟨name, .plain, none, some (.bool false)⟩

end Slot

def Action.Kind.slots : Action.Kind → List Slot
  | .navigate => [.plain "url" .plain, .plain "waitForLoad" .plain]
  | .wait =>
      [.plain "selector" .plain, .defaulting "condition" .plain (.str "visible"),
        .plain "timeout" .word64]
  | .click => [.plain "selector" .plain, .flag "optional", .plain "waitAfter" .word64]
  | .scroll =>
      [.defaulting "direction" .plain (.str "down"), .plain "amount" .signed64,
        .plain "waitAfter" .word64]
  | .extract =>
      [.plain "containerSelector" .plain, .plain "fields" (.map (.record .field)),
        .plain "followUp" (.record .followUp), .plain "dateGroups" (.record .dateGroups)]

namespace Block

def defaultViewport : Json := .obj [("width", .int 1366), ("height", .int 768)]

def defaultBrowser : Json :=
  .obj [("viewport", defaultViewport), ("timeout", .int 30000), ("headless", .bool true)]

def defaultRateLimit : Json :=
  .obj
    [("delayBetweenRequests", .int 1000), ("maxConcurrency", .int 1),
      ("respectRobots", .bool true)]

def defaultValidation : Json :=
  .obj [("minEventsExpected", .int 1), ("required", .arr [.str "title", .str "dateStart"])]

def defaultDebug : Json := .obj [("screenshots", .bool false), ("html", .bool false)]

def slots : Block → List Slot
  | config =>
      [.plain "site" (.record .site),
        .defaulting "browser" (.record .browser) defaultBrowser,
        .defaulting "rateLimit" (.record .rateLimit) defaultRateLimit,
        .plain "workflow" (.list .action),
        .plain "mapping" (.record .mapping),
        .defaulting "validation" (.record .validation) defaultValidation,
        .defaulting "debug" (.record .debug) defaultDebug,
        ⟨"dateFormats", .map .plain, none, some (.obj [])⟩]
  | site =>
      [.plain "name" .plain, .plain "source" .plain, .plain "baseUrl" .plain,
        .plain "timezone" .plain]
  | browser =>
      [.defaulting "viewport" (.record .viewport) defaultViewport,
        .defaulting "timeout" .word64 (.int 30000),
        .plain "userAgent" .plain,
        .defaulting "headless" .plain (.bool true)]
  | viewport => [.plain "width" .word32, .plain "height" .word32]
  | rateLimit =>
      [.plain "delayBetweenRequests" .word64,
        .defaulting "maxConcurrency" .word32 (.int 1),
        .defaulting "respectRobots" .plain (.bool true)]
  | validation =>
      [.plain "minEventsExpected" .word64, .plain "maxEventsExpected" .word64,
        .defaulting "required" (.list .plain) (.arr [])]
  | debug =>
      [.defaulting "screenshots" .plain (.bool false),
        .defaulting "html" .plain (.bool false),
        .plain "outputDir" .plain]
  | mapping =>
      [.plain "title" (.nameOr .transformed), .plain "artists" (.nameOr .transformed),
        .plain "venue" (.record .venue), .plain "dateStart" (.nameOr .transformed),
        .plain "dateEnd" (.nameOr .transformed), .plain "sourceId" (.nameOr .transformed),
        .plain "eventUrl" (.nameOr .transformed), .plain "ticketsUrl" (.nameOr .transformed),
        .plain "images" (.nameOr .transformed), .plain "genre" (.nameOr .transformed),
        .plain "ageRestriction" (.nameOr .transformed),
        .plain "description" (.nameOr .transformed), .plain "status" (.nameOr .transformed)]
  | venue =>
      [.plain "name" .plain, .plain "address" .plain, .plain "city" .plain,
        .plain "country" .plain, .plain "lat" .coordinate, .plain "lng" .coordinate]
  | transformed =>
      [.plain "field" .plain, .plain "transform" .plain, .plain "transformParams" (.map .plain)]
  | field =>
      [.plain "selector" .plain, .defaulting "attribute" .plain (.str "text"),
        .flag "required", .plain "fallback" .plain, .plain "transform" .plain,
        .plain "transformParams" (.map .plain), .flag "multiple",
        .plain "followUp" (.record .followUp)]
  | followUp => [.plain "urlField" .plain, .plain "fields" (.map (.record .field))]
  | dateGroups =>
      [.plain "headingSelector" .plain, .plain "eventSelector" .plain, .plain "format" .plain]
  | action kind => .plain "type" .plain :: kind.slots

def names (block : Block) : List String := block.slots.map Slot.name

/-- Only an action may have members that are not declared for its kind. -/
def isOpen : Block → Bool
  | action _ => true
  | _ => false

end Block

mutual

/-- A value and what is written for it say the same. -/
inductive Agrees : Shape → Json → Json → Prop
  | plain (value : Json) : Agrees .plain value value
  | whole {least most : Int} (n : Int) : Agrees (.whole least most) (.int n) (.int n)
  | coordinate (value : Json) : Agrees .coordinate value value
  | rounded (n : Int) : Agrees .coordinate (.int n) (.real (Binary64.ofInt n))
  | list {shape : Shape} {found written : List Json} (sameLength : written.length = found.length)
      (items : ∀ (index : Nat) (value other : Json), found[index]? = some value →
        written[index]? = some other → Agrees shape value other) :
      Agrees (.list shape) (.arr found) (.arr written)
  | map {shape : Shape} {found written : Members}
      (members : ∀ name, Kept (.plain name shape) (found.get? name) (written.get? name)) :
      Agrees (.map shape) (.obj found) (.obj written)
  | record {block : Block} {found written : Members}
      (members : ∀ slot ∈ block.slots, Kept slot (found.get? slot.name) (written.get? slot.name))
      (noOther : ∀ name, written.contains name → name ∈ block.names)
      (declared : block.isOpen = false → ∀ name, found.contains name → name ∈ block.names) :
      Agrees (.record block) (.obj found) (.obj written)
  | name {block : Block} (text : String) : Agrees (.nameOr block) (.str text) (.str text)
  | nested {block : Block} {found written : Json} (agrees : Agrees (.record block) found written) :
      Agrees (.nameOr block) found written
  | action {kind : Action.Kind} {found : Members} {written : Json}
      (tagged : found.get? "type" = some (.str kind.name))
      (agrees : Agrees (.record (.action kind)) (.obj found) written) :
      Agrees .action (.obj found) written

/-- What is written for a member of an object, from what was found of it. -/
inductive Kept : Slot → Option Json → Option Json → Prop
  | absent (slot : Slot) : Kept slot none slot.absent
  | dropped {slot : Slot} {value : Json} (same : slot.dropped = some value) :
      Kept slot (some value) none
  | present {slot : Slot} {value other : Json} (agrees : Agrees slot.shape value other) :
      Kept slot (some value) (some other)

end

/-- In a value of one shape another value lies at a place of another shape. -/
inductive Lies : Shape → Json → Shape → Json → Prop
  | here {shape : Shape} {value : Json} : Lies shape value shape value
  | item {shape other : Shape} {items : List Json} {value inner : Json} (member : value ∈ items)
      (lies : Lies shape value other inner) : Lies (.list shape) (.arr items) other inner
  | entry {shape other : Shape} {members : Members} {entry : String × Json} {inner : Json}
      (member : entry ∈ members) (lies : Lies shape entry.2 other inner) :
      Lies (.map shape) (.obj members) other inner
  | member {block : Block} {slot : Slot} {other : Shape} {members : Members} {value inner : Json}
      (isSlot : slot ∈ block.slots) (found : members.get? slot.name = some value)
      (lies : Lies slot.shape value other inner) : Lies (.record block) (.obj members) other inner
  | nested {block : Block} {other : Shape} {value inner : Json}
      (lies : Lies (.record block) value other inner) : Lies (.nameOr block) value other inner
  | action {kind : Action.Kind} {other : Shape} {members : Members} {inner : Json}
      (tagged : members.get? "type" = some (.str kind.name))
      (lies : Lies (.record (.action kind)) (.obj members) other inner) :
      Lies .action (.obj members) other inner

/-- Every number in the place of a whole number is one without a point and fits into its type. -/
def InRange (shape : Shape) (value : Json) : Prop :=
  ∀ least most number, Lies shape value (.whole least most) number →
    number.hasKind .number = true → ∃ n, number = .int n ∧ least ≤ n ∧ n ≤ most

namespace InRange

variable {shape : Shape} {block : Block} {value : Json} {members : Members}

@[simp] theorem whole {least most : Int} :
    InRange (.whole least most) value ↔
      (value.hasKind .number = true → ∃ n, value = .int n ∧ least ≤ n ∧ n ≤ most) := by
  constructor
  · intro inRange
    exact inRange least most value .here
  · rintro inRange _ _ _ ⟨⟩
    exact inRange

@[simp] theorem plain (value : Json) : InRange .plain value := by
  rintro _ _ _ ⟨⟩

@[simp] theorem record_str (text : String) : InRange (.record block) (.str text) := by
  rintro _ _ _ ⟨⟩

@[simp] theorem coordinate (value : Json) : InRange .coordinate value := by
  rintro _ _ _ ⟨⟩

@[simp] theorem list {items : List Json} :
    InRange (.list shape) (.arr items) ↔ ∀ item ∈ items, InRange shape item := by
  constructor
  · intro inRange item member least most number lies
    exact inRange least most number (.item member lies)
  · intro each least most number lies
    cases lies with
    | item member lies => exact each _ member least most number lies

@[simp] theorem map : InRange (.map shape) (.obj members) ↔
    ∀ entry ∈ members, InRange shape entry.2 := by
  constructor
  · intro inRange entry member least most number lies
    exact inRange least most number (.entry member lies)
  · intro each least most number lies
    cases lies with
    | entry member lies => exact each _ member least most number lies

@[simp] theorem record : InRange (.record block) (.obj members) ↔
    ∀ slot ∈ block.slots, ∀ value, members.get? slot.name = some value →
      InRange slot.shape value := by
  constructor
  · intro inRange slot isSlot value found least most number lies
    exact inRange least most number (.member isSlot found lies)
  · intro each least most number lies
    cases lies with
    | member isSlot found lies => exact each _ isSlot _ found least most number lies

@[simp] theorem nameOr : InRange (.nameOr block) value ↔ InRange (.record block) value := by
  constructor
  · intro inRange least most number lies
    exact inRange least most number (.nested lies)
  · intro inRange least most number lies
    cases lies with
    | nested lies => exact inRange least most number lies

end InRange

end GigListings
