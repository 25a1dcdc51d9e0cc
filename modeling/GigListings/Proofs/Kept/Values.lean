import GigListings.Proofs.Config.Actions
import GigListings.Proofs.Config.Faithful
import GigListings.Proofs.Kept.Agreement

namespace GigListings

/-! When a value of the right shape is read, and what is written of it agrees with the value. -/

open Json

/-- The value is read, and what is written of it agrees with the value. -/
structure Survives (shape : Shape) (reader : Reader α) (write : α → Json) (found : Json) :
    Prop where
  notNull : found ≠ .null
  agrees : ∃ x, reader found = .ok x ∧ Agrees shape found (write x)

def Keeps (schema : Schema) (shape : Shape) (reader : Reader α) (write : α → Json) : Prop :=
  ∀ found depth, schema found = [] → InRange shape found → found.Printable depth →
    Survives shape reader write found

/-- What is nested less deeply than `limit` is kept. -/
def KeepsBelow (limit : Nat) (schema : Schema) (shape : Shape) (reader : Reader α)
    (write : α → Json) : Prop :=
  ∀ found depth, found.depth < limit → schema found = [] → InRange shape found →
    found.Printable depth → Survives shape reader write found

theorem Keeps.below {schema : Schema} {shape : Shape} {reader : Reader α} {write : α → Json}
    (keeps : Keeps schema shape reader write) (limit : Nat) :
    KeepsBelow limit schema shape reader write :=
  fun found depth _ => keeps found depth

theorem KeepsBelow.mono {schema : Schema} {shape : Shape} {reader : Reader α} {write : α → Json}
    {limit lower : Nat} (keeps : KeepsBelow limit schema shape reader write)
    (atMost : lower ≤ limit) : KeepsBelow lower schema shape reader write :=
  fun found depth shallow => keeps found depth (Nat.lt_of_lt_of_le shallow atMost)

/-- The members of an object of the right shape whose numbers are in range. -/
structure Fitting (required : List String) (known : List (String × Schema)) (slots : List Slot)
    (depth : Nat) (members : Members) : Prop extends Suitable known depth members where
  present : ∀ name ∈ required, ∃ value, members.get? name = some value
  inRange : ∀ slot ∈ slots, ∀ value, members.get? slot.name = some value →
    InRange slot.shape value

def KeptAll (members : Members) (slots : List Slot) (entries : List (String × Option Json)) :
    Prop :=
  List.Forall₂ (fun slot entry => slot.name = entry.1 ∧ Kept slot (members.get? slot.name) entry.2)
    slots entries

namespace KeptAll

variable {members : Members} {slots : List Slot} {entries : List (String × Option Json)}

theorem names_eq (kept : KeptAll members slots entries) :
    entries.map Prod.fst = slots.map Slot.name := by
  induction kept with
  | nil => rfl
  | cons first _ induction => rw [List.map_cons, List.map_cons, induction, first.1]

theorem exists_entry (kept : KeptAll members slots entries) :
    ∀ slot ∈ slots, ∃ entry ∈ entries,
      slot.name = entry.1 ∧ Kept slot (members.get? slot.name) entry.2 := by
  induction kept with
  | nil => exact List.forall_mem_nil _
  | cons first _ induction =>
      intro slot isSlot
      rcases List.mem_cons.mp isSlot with rfl | later
      · exact ⟨_, List.mem_cons_self, first⟩
      · obtain ⟨entry, isEntry, kept⟩ := induction slot later
        exact ⟨entry, List.mem_cons_of_mem _ isEntry, kept⟩

theorem get?_written (kept : KeptAll members slots entries)
    (distinct : (slots.map Slot.name).Nodup) :
    ∀ slot ∈ slots, Kept slot (members.get? slot.name) ((written entries).get? slot.name) := by
  rw [← kept.names_eq] at distinct
  intro slot isSlot
  obtain ⟨entry, isEntry, named, keptEntry⟩ := kept.exists_entry slot isSlot
  have found := Json.get?_written distinct isEntry
  rw [← named] at found
  rw [found]
  exact keptEntry

theorem agrees {block : Block} (kept : KeptAll members block.slots entries)
    (distinct : block.names.Nodup)
    (declared : block.isOpen = false → ∀ name, members.contains name → name ∈ block.names) :
    Agrees (.record block) (.obj members) (Json.record entries) := by
  rw [record_eq_obj]
  refine .record (kept.get?_written distinct) ?_ declared
  intro name isWritten
  obtain ⟨value, found⟩ := Option.isSome_iff_exists.mp isWritten
  have isEntry := List.mem_map_of_mem (f := Prod.fst) (mem_written.mp (Dict.mem_of_get? found))
  rw [kept.names_eq] at isEntry
  exact isEntry

end KeptAll

structure Gives (members : Members) (slots : List Slot) (record : RecordReader α) (a : α)
    (entries : List (String × Option Json)) : Prop where
  reads : ∀ shape place, record.read shape place (.named members) = .ok a
  kept : KeptAll members slots entries

namespace Gives

variable {members : Members}

theorem map {slots : List Slot} {x : RecordReader α} {a : α} {entries : List (String × Option Json)}
    (gives : Gives members slots x a entries) (f : α → β) :
    Gives members slots (f <$> x) (f a) entries :=
  ⟨fun shape place => RecordReader.map_read.mpr ⟨a, gives.reads shape place, rfl⟩, gives.kept⟩

theorem seq {before after : List Slot} {f : RecordReader (α → β)} {g : α → β} {x : RecordReader α}
    {a : α} {early late : List (String × Option Json)} (first : Gives members before f g early)
    (second : Gives members after x a late) :
    Gives members (before ++ after) (f <*> x) (g a) (early ++ late) := by
  refine ⟨?_, List.rel_append first.kept second.kept⟩
  intro shape place
  exact RecordReader.seq_read.mpr ⟨g, a, first.reads _ _, second.reads _ _, rfl⟩

theorem one {slot : Slot} {reader : Reader α} {absent : Option α} {a : α}
    {found value : Option Json} (present : members.get? slot.name = found)
    (takes : Takes reader absent found a) (kept : Kept slot found value) :
    Gives members [slot] (.memberOr slot.name reader absent) a [(slot.name, value)] := by
  rw [← present] at takes kept
  refine ⟨?_, .cons ⟨rfl, kept⟩ .nil⟩
  intro shape place
  exact (RecordReader.memberOr_read slot.name reader absent shape place members a).mpr takes

section Members

variable {reader : Reader α} {write : α → Json} (slot : Slot)
  (survives : ∀ value, members.get? slot.name = some value →
    Survives slot.shape reader write value)

include survives

theorem of_found {absent : Option α} {value : Json} (found : members.get? slot.name = some value) :
    ∃ x, Gives members [slot] (.memberOr slot.name reader absent) x
      [(slot.name, some (write x))] := by
  obtain ⟨-, x, reads, agrees⟩ := survives value found
  exact ⟨x, .one found reads (.present agrees)⟩

theorem member (present : ∃ value, members.get? slot.name = some value) :
    ∃ x, Gives members [slot] (.member slot.name reader) x [(slot.name, some (write x))] := by
  obtain ⟨value, found⟩ := present
  exact of_found slot survives found

theorem optional (noDefault : slot.absent = none) :
    ∃ x, Gives members [slot] (.optional slot.name reader) x [(slot.name, x.map write)] := by
  cases found : members.get? slot.name with
  | none =>
      have kept := Kept.absent slot
      rw [noDefault] at kept
      exact ⟨none, .one found rfl kept⟩
  | some value =>
      obtain ⟨notNull, x, reads, agrees⟩ := survives value found
      have optionReads : Reader.option reader value = .ok (some x) := by
        unfold Reader.option
        split
        · exact absurd rfl notNull
        · rw [reads]
          rfl
      exact ⟨some x, .one found optionReads (.present agrees)⟩

theorem withDefault {absent : α} (defaulted : slot.absent = some (write absent)) :
    ∃ x, Gives members [slot] (.withDefault slot.name reader absent) x
      [(slot.name, some (write x))] := by
  cases found : members.get? slot.name with
  | none =>
      have kept := Kept.absent slot
      rw [defaulted] at kept
      exact ⟨absent, .one found rfl kept⟩
  | some value => exact of_found slot survives found

end Members

end Gives

theorem Slot.mem_of_find {slots : List Slot} {slot : Slot} {name : String}
    (isSlot : slots.find? (·.name = name) = some slot) : slot ∈ slots ∧ slot.name = name := by
  refine ⟨List.mem_of_find?_eq_some isSlot, ?_⟩
  have named := List.find?_some isSlot
  exact of_decide_eq_true named

namespace Fitting

variable {required : List String} {known : List (String × Schema)} {slots : List Slot}
  {depth : Nat} {members : Members} {schema : Schema} {reader : Reader α} {write : α → Json}
  {slot : Slot}

theorem survives (fitting : Fitting required known slots depth members) {name : String}
    (isSlot : slots.find? (·.name = name) = some slot) (declared : known.lookup name = some schema)
    {value : Json} (found : members.get? name = some value)
    (keeps : schema value = [] → InRange slot.shape value → value.Printable depth →
      Survives slot.shape reader write value) :
    Survives slot.shape reader write value := by
  obtain ⟨member, rfl⟩ := Slot.mem_of_find isSlot
  exact keeps (fitting.fits _ schema value declared found)
    (fitting.inRange slot member value found) (fitting.printable _ value found)

theorem member (fitting : Fitting required known slots depth members) (name : String)
    (isSlot : slots.find? (·.name = name) = some slot) (declared : known.lookup name = some schema)
    (needed : name ∈ required) (keeps : Keeps schema slot.shape reader write) :
    ∃ x, Gives members [slot] (.member name reader) x [(name, some (write x))] := by
  obtain ⟨-, rfl⟩ := Slot.mem_of_find isSlot
  exact Gives.member slot
    (fun value found => fitting.survives isSlot declared found (keeps value depth))
    (fitting.present _ needed)

theorem optional (fitting : Fitting required known slots depth members) (name : String)
    (isSlot : slots.find? (·.name = name) = some slot) (declared : known.lookup name = some schema)
    (noDefault : slot.absent = none) (keeps : Keeps schema slot.shape reader write) :
    ∃ x, Gives members [slot] (.optional name reader) x [(name, x.map write)] := by
  obtain ⟨-, rfl⟩ := Slot.mem_of_find isSlot
  exact Gives.optional slot
    (fun value found => fitting.survives isSlot declared found (keeps value depth)) noDefault

theorem withDefault (fitting : Fitting required known slots depth members) (name : String)
    (isSlot : slots.find? (·.name = name) = some slot) (declared : known.lookup name = some schema)
    (absent : α) (keeps : Keeps schema slot.shape reader write)
    (defaulted : slot.absent = some (write absent)) :
    ∃ x, Gives members [slot] (.withDefault name reader absent) x [(name, some (write x))] := by
  obtain ⟨-, rfl⟩ := Slot.mem_of_find isSlot
  exact Gives.withDefault slot
    (fun value found => fitting.survives isSlot declared found (keeps value depth)) defaulted

theorem flag (fitting : Fitting required known slots depth members) (name : String)
    (declared : known.lookup name = some ConfigSchema.truth) :
    ∃ x, Gives members [.flag name] (.withDefault name Reader.truth false) x [(name, flag? x)] := by
  cases found : members.get? (Slot.flag name).name with
  | none => exact ⟨false, .one found rfl (.absent (.flag name))⟩
  | some value =>
      have fits := fitting.fits name _ value declared found
      cases value with
      | bool value =>
          refine ⟨value, .one found rfl ?_⟩
          cases value with
          | false => exact .dropped rfl
          | true => exact .present (.plain _)
      | _ => cases fits

end Fitting

section Records

variable {required : List String} {known : List (String × Schema)} {block : Block}
  {record : RecordReader α} {type : String} {write : α → Json}

theorem survives_record {found : Json} {depth : Nat}
    (fits : ConfigSchema.record required known found = []) (inRange : InRange (.record block) found)
    (printable : found.Printable depth) (names : known.map Prod.fst = block.names)
    (distinct : block.names.Nodup)
    (each : ∀ depth members, found = .obj members →
      Fitting required known block.slots depth members →
        ∃ x entries, Gives members block.slots record x entries ∧ write x = Json.record entries) :
    Survives (.record block) (record.run type) write found := by
  obtain ⟨members, rfl, complete, closed⟩ := ConfigSchema.record_eq_nil.mp fits
  obtain ⟨_, depth, ⟨⟩, rfl, suitable⟩ := Suitable.of_fits fits printable
  have present : ∀ name ∈ required, ∃ value, Members.get? members name = some value :=
    fun name needed => Option.isSome_iff_exists.mp (complete name needed)
  obtain ⟨x, entries, gives, same⟩ :=
    each depth members rfl ⟨suitable, present, InRange.record.mp inRange⟩
  refine ⟨by simp, x, ?_, ?_⟩
  · exact (RecordReader.run_obj record type members x).mpr (gives.reads _ _)
  · rw [same]
    refine gives.kept.agrees distinct ?_
    intro _ name isMember
    obtain ⟨value, found⟩ := Option.isSome_iff_exists.mp isMember
    obtain ⟨schema, declared, -⟩ := closed name value (Dict.mem_of_get? found)
    rw [← names]
    exact List.mem_map_of_mem (f := Prod.fst) (Dict.mem_of_get? declared)

theorem keeps_record (names : known.map Prod.fst = block.names) (distinct : block.names.Nodup)
    (each : ∀ depth members, Fitting required known block.slots depth members →
      ∃ x entries, Gives members block.slots record x entries ∧ write x = Json.record entries) :
    Keeps (ConfigSchema.record required known) (.record block) (record.run type) write :=
  fun _ _ fits inRange printable => survives_record fits inRange printable names distinct
    fun depth members _ fitting => each depth members fitting

end Records

/-! Texts, flags, numbers, lists and maps survive reading and writing. -/

/-! Scalars. -/

section Scalars

variable {schema : Schema} {minimum : Nat}

theorem keeps_text (demands : schema.Demands .string) : Keeps schema .plain Reader.text .str := by
  intro found depth fits _ _
  have isText := demands found fits
  cases found with
  | str text => exact ⟨by simp, text, rfl, .plain _⟩
  | _ => cases isText

theorem keeps_name : Keeps ConfigSchema.name .plain Reader.text .str :=
  keeps_text ConfigSchema.demands_name

theorem keeps_anyText : Keeps ConfigSchema.text .plain Reader.text .str :=
  keeps_text (Schema.demands_ofKind .string)

theorem keeps_truth : Keeps ConfigSchema.truth .plain Reader.truth .bool := by
  intro found depth fits _ _
  cases found with
  | bool value => exact ⟨by simp, value, rfl, .plain _⟩
  | _ => cases fits

theorem exists_int_in_range {least most : Int} {found : Json} (fits : schema found = [])
    (demands : schema.Demands .integer) (inRange : InRange (.whole least most) found) :
    ∃ n, found = .int n ∧ least ≤ n ∧ n ≤ most := by
  have isInteger := demands found fits
  refine InRange.whole.mp inRange ?_
  cases found with
  | int n => rfl
  | real x => rfl
  | _ => cases isInteger

theorem keeps_natural {α : Type} {type : String} {bound : Nat} {most : Int} {ofNat : Nat → α}
    {write : α → Json} (limit : most < bound)
    (inverse : ∀ n < bound, write (ofNat n) = .int n) :
    Keeps (ConfigSchema.whole minimum) (.whole 0 most)
      (fun value => (Reader.natural type bound value).map ofNat) write := by
  intro found depth fits inRange _
  obtain ⟨n, rfl, positive, small⟩ :=
    exists_int_in_range fits ((Schema.demands_ofKind .integer).all _) inRange
  refine ⟨by simp, ofNat n.toNat, ?_, ?_⟩
  · rw [Reader.natural, if_pos ⟨positive, Int.lt_of_le_of_lt small limit⟩]
    rfl
  · rw [inverse n.toNat (by omega), Int.toNat_of_nonneg positive]
    exact .whole n

theorem keeps_word32 : Keeps (ConfigSchema.whole minimum) .word32 Reader.word32 number32 := by
  refine keeps_natural (by decide) ?_
  intro n small
  rw [number32, UInt32.toNat_ofNat', Nat.mod_eq_of_lt small]

theorem keeps_word64 : Keeps (ConfigSchema.whole minimum) .word64 Reader.word64 number64 :=
  keeps_natural (by decide) fun _ small => number64_ofNat small

theorem keeps_size : Keeps (ConfigSchema.whole minimum) .word64 Reader.size number64 :=
  keeps_natural (by decide) fun _ small => number64_ofNat small

theorem keeps_signed64 :
    Keeps (.ofKind .integer) .signed64 Reader.signed64 fun amount => .int amount.toInt := by
  intro found depth fits inRange _
  obtain ⟨n, rfl, least, most⟩ :=
    exists_int_in_range fits (Schema.demands_ofKind .integer) inRange
  have smallest : Int64.minValue.toInt = -2 ^ 63 := rfl
  have greatest : Int64.maxValue.toInt = 2 ^ 63 - 1 := rfl
  refine ⟨by simp, Int64.ofInt n, ?_, ?_⟩
  · rw [Reader.signed64, if_pos (by omega)]
  · rw [Int64.toInt_ofInt_of_le (by omega) (by omega)]
    exact .whole n

theorem keeps_variant (all : List α) (name : α → String) :
    Keeps (.oneOf (all.map name)) .plain (Reader.variant (all.map fun x => (name x, x)))
      fun x => .str (name x) := by
  intro found depth fits _ _
  obtain ⟨text, isOption, same⟩ := List.any_eq_true.mp (Schema.defects_eq_nil.mp fits)
  rw [eq_str_of_beq same]
  have named : text ∈ Dict.names (all.map fun x => (name x, x)) := by
    rw [Dict.names, List.map_map]
    exact isOption
  obtain ⟨x, found⟩ := Dict.exists_get?_of_mem_names named
  obtain ⟨y, -, pair⟩ := List.mem_map.mp (Dict.mem_of_get? found)
  cases pair
  refine ⟨by simp, x, ?_, .plain _⟩
  have entry : (all.map fun x => (name x, x)).lookup (name x) = some x := found
  rw [Reader.variant, Reader.variant.named, entry]

theorem keeps_coordinate :
    Keeps ConfigSchema.coordinate .coordinate Coordinate.reader Coordinate.toJson := by
  intro found depth fits _ _
  cases found with
  | str text => exact ⟨by simp, .field text, rfl, .coordinate _⟩
  | int n => exact ⟨by simp, .fixed (.ofInt n), rfl, .rounded n⟩
  | real x => exact ⟨by simp, .fixed x, rfl, .coordinate _⟩
  | _ => cases fits

end Scalars

/-! Lists and maps. -/

section Collections

variable {shape : Shape} {reader : Reader α} {write : α → Json}

theorem agrees_list {found : List Json} {xs : List α}
    (agrees : List.Forall₂ (fun value x => Agrees shape value (write x)) found xs) :
    Agrees (.list shape) (.arr found) (.arr (xs.map write)) := by
  refine .list ?_ ?_
  · rw [List.length_map, agrees.length_eq]
  · induction agrees with
    | nil =>
        intro index value other isItem
        cases isItem
    | cons first _ induction =>
        intro index value other isItem isWritten
        cases index with
        | zero =>
            cases isItem
            cases isWritten
            exact first
        | succ index => exact induction index value other isItem isWritten

theorem keeps_list {schema : Schema} {schemas : List Schema} (array : .ofKind .array ∈ schemas)
    (every : .everyItem schema ∈ schemas) (keeps : Keeps schema shape reader write) :
    Keeps (.all schemas) (.list shape) (Reader.list reader) fun xs => .arr (xs.map write) := by
  intro found depth fits inRange printable
  have isArray := Schema.ofKind_eq_nil.mp (Schema.all_eq_nil.mp fits _ array)
  cases found with
  | arr items =>
      have positive := printable.1
      obtain ⟨depth, rfl⟩ : ∃ inner, depth = inner + 1 := ⟨depth - 1, by omega⟩
      have each : ∀ item ∈ items, ∃ x, reader item = .ok x ∧ Agrees shape item (write x) := by
        intro item member
        exact (keeps item depth
          (Schema.everyItem_eq_nil.mp (Schema.all_eq_nil.mp fits _ every) item member)
          (InRange.list.mp inRange item member) (printable_arr.mp printable item member)).agrees
      obtain ⟨xs, pass, agrees⟩ := Except.exists_mapM_forall₂ each
      exact ⟨by simp, xs, pass, agrees_list agrees⟩
  | _ => cases isArray

theorem keeps_texts :
    Keeps (.all [.ofKind .array, .everyItem ConfigSchema.name]) (.list .plain)
      (Reader.list Reader.text) strings :=
  keeps_list (by simp) (by simp) keeps_name

theorem kept_entry {members : Members} {entries : List (String × α)}
    (agrees : List.Forall₂
      (fun found entry => found.1 = entry.1 ∧ Agrees shape found.2 (write entry.2))
      members entries)
    (name : String) :
    Kept (.plain name shape) (members.get? name) ((Dict.get? entries name).map write) := by
  induction agrees with
  | nil => exact .absent (.plain name shape)
  | @cons found entry _ _ first _ induction =>
      obtain ⟨key, value⟩ := found
      obtain ⟨other, x⟩ := entry
      obtain ⟨rfl, agrees⟩ := first
      rw [Members.get?, List.lookup_cons, Dict.get?_cons]
      by_cases same : name = key
      · rw [if_pos same, beq_iff_eq.mpr same]
        exact .present agrees
      · rw [if_neg same, beq_eq_false_iff_ne.mpr same]
        exact induction

theorem survives_map {members : Members} (distinct : (members.map Prod.fst).Nodup)
    (each : ∀ entry ∈ members, ∃ x, reader entry.2 = .ok x ∧ Agrees shape entry.2 (write x)) :
    Survives (.map shape) (Reader.dict reader)
      (fun dict => .obj (dict.map fun (name, x) => (name, write x))) (.obj members) := by
  have steps : ∀ entry ∈ members, ∃ output : String × α,
      (do return (entry.1, ← reader entry.2) : Reading (String × α)) = .ok output ∧
        entry.1 = output.1 ∧ Agrees shape entry.2 (write output.2) := by
    intro entry member
    obtain ⟨x, reads, agrees⟩ := each entry member
    exact ⟨(entry.1, x), dict_step_eq_ok.mpr ⟨rfl, reads⟩, rfl, agrees⟩
  obtain ⟨entries, pass, agrees⟩ := Except.exists_mapM_forall₂ steps
  have names : members.map Prod.fst = entries.map Prod.fst := by
    rw [← List.forall₂_eq_eq_eq, List.forall₂_map_left_iff, List.forall₂_map_right_iff]
    exact agrees.imp fun _ _ related => related.1
  refine ⟨by simp, Dict.ofList entries, ?_, .map ?_⟩
  · exact Except.bind_eq_ok.mpr ⟨entries, pass, rfl⟩
  · intro name
    have lookup := Dict.get?_map write (Dict.ofList entries) name
    rw [Dict.get?_ofList (names ▸ distinct)] at lookup
    have kept := kept_entry agrees name
    rw [← lookup] at kept
    exact kept

theorem survives_members {schema : Schema} {schemas : List Schema} {found : Json} {depth : Nat}
    (object : .ofKind .object ∈ schemas) (every : .everyMember schema ∈ schemas)
    (fits : Schema.all schemas found = []) (inRange : InRange (.map shape) found)
    (printable : found.Printable depth)
    (keeps : KeepsBelow found.depth schema shape reader write) :
    Survives (.map shape) (Reader.dict reader)
      (fun dict => .obj (dict.map fun (name, x) => (name, write x))) found := by
  obtain ⟨members, rfl⟩ := Schema.exists_obj_of_hasKind
    (Schema.ofKind_eq_nil.mp (Schema.all_eq_nil.mp fits _ object))
  obtain ⟨depth, rfl⟩ := exists_succ_of_printable printable
  obtain ⟨distinct, printables⟩ := printable_obj.mp printable
  refine survives_map distinct ?_
  intro entry member
  exact (keeps entry.2 depth (depth_lt_obj member)
    (Schema.everyMember_eq_nil.mp (Schema.all_eq_nil.mp fits _ every) entry member)
    (InRange.map.mp inRange entry member) (printables entry member)).agrees

end Collections

theorem keeps_targets :
    Keeps ConfigSchema.dateFormats (.map .plain) (Reader.dict Reader.text) fun targets =>
      .obj (targets.map fun (name, target) => (name, .str target)) :=
  fun _ _ fits inRange printable =>
    survives_members (by simp) (by simp) fits inRange printable (keeps_anyText.below _)

theorem keeps_params : Keeps (.ofKind .object) (.map .plain) (Reader.dict Reader.any)
    Params.toJson := by
  intro found depth fits _ printable
  obtain ⟨members, rfl⟩ := Schema.exists_obj_of_hasKind (Schema.ofKind_eq_nil.mp fits)
  obtain ⟨depth, rfl⟩ := exists_succ_of_printable printable
  obtain ⟨notNull, params, reads, agrees⟩ :=
    @survives_map Json .plain Reader.any id members (printable_obj.mp printable).1
      fun entry _ => ⟨entry.2, rfl, .plain _⟩
  have same : params.map (fun entry => (entry.1, id entry.2)) = params := List.map_id params
  rw [same] at agrees
  exact ⟨notNull, params, reads, agrees⟩

end GigListings
