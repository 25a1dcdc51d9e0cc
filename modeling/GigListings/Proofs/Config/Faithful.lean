import GigListings.Config.Schema
import GigListings.Config.Reader
import GigListings.Config.Printer
import GigListings.Proofs.Json.Records
import GigListings.Proofs.Json.Schema

namespace GigListings

/-! When what is written of a configuration's part has the shape demanded and is read as the part
again. -/

open Json

theorem ConfigSchema.record_eq_nil {required : List String} {known : List (String × Schema)}
    {value : Json} :
    record required known value = [] ↔
      ∃ members, value = .obj members ∧
        (∀ name ∈ required, Members.contains members name = true) ∧
        ∀ name value, (name, value) ∈ members →
          ∃ schema, known.lookup name = some schema ∧ schema value = [] := by
  unfold record
  simp only [Schema.all_eq_nil, List.mem_cons, List.not_mem_nil, or_false, forall_eq_or_imp,
    forall_eq]
  constructor
  · rintro ⟨object, complete, closed⟩
    obtain ⟨members, rfl⟩ := Schema.exists_obj_of_hasKind (Schema.ofKind_eq_nil.mp object)
    exact ⟨members, rfl, Schema.required_eq_nil.mp complete, Schema.closed_eq_nil.mp closed⟩
  · rintro ⟨members, rfl, complete, closed⟩
    exact ⟨Schema.ofKind_eq_nil.mpr rfl, Schema.required_eq_nil.mpr complete,
      Schema.closed_eq_nil.mpr closed⟩

namespace Json

/-- What is written says what was read: it has the shape, is read as `x`, and a text can say it. -/
structure Restates (schema : Schema) (reader : Reader α) (depth : Nat) (x : α) (written : Json) :
    Prop where
  fits : schema written = []
  reads : reader written = .ok x
  notNull : written ≠ .null
  printable : written.Printable depth

theorem Restates.option {schema : Schema} {reader : Reader α} {depth : Nat} {a : α} {value : Json}
    (restates : Restates schema reader depth a value) :
    Restates schema (Reader.option reader) depth (some a) value := by
  refine ⟨restates.fits, ?_, restates.notNull, restates.printable⟩
  unfold Reader.option
  split
  · exact absurd rfl restates.notNull
  · rw [restates.reads]
    rfl

/-- Whatever was read of a value of the right shape is written so that it says the same. -/
def Faithful (depth : Nat) (schema : Schema) (reader : Reader α) (write : α → Json) : Prop :=
  ∀ found x, schema found = [] → reader found = .ok x → found.Printable depth →
    Restates schema reader depth x (write x)

theorem faithful_of_same {depth : Nat} {schema : Schema} {reader : Reader α} {write : α → Json}
    (same : ∀ found x, schema found = [] → reader found = .ok x → write x = found ∧ found ≠ .null) :
    Faithful depth schema reader write := by
  intro found x fits reads printable
  obtain ⟨rfl, notNull⟩ := same found x fits reads
  exact ⟨fits, reads, notNull, printable⟩

/-- The members of a record of the right shape. -/
structure Suitable (known : List (String × Schema)) (depth : Nat) (members : Members) : Prop where
  fits : ∀ name schema value, known.lookup name = some schema → members.get? name = some value →
    schema value = []
  printable : ∀ name value, members.get? name = some value → value.Printable depth

/-- A member to write that has the right shape, or none. -/
structure Suits (known : List (String × Schema)) (depth : Nat) (entry : String × Option Json) :
    Prop where
  fits : ∀ schema value, known.lookup entry.1 = some schema → entry.2 = some value →
    schema value = []
  printable : ∀ value, entry.2 = some value → value.Printable depth

/-- The entries written for `a` have the right shape and are read as `a`. -/
structure Conveys (known : List (String × Schema)) (depth : Nat) (record : RecordReader α) (a : α)
    (entries : List (String × Option Json)) : Prop where
  suits : ∀ entry ∈ entries, Suits known depth entry
  reads : ∀ members : Members, (∀ entry ∈ entries, members.get? entry.1 = entry.2) →
    ∀ shape place, record.read shape place (.named members) = .ok a

namespace Conveys

variable {known : List (String × Schema)} {depth : Nat}

theorem map {x : RecordReader α} {a : α} {entries : List (String × Option Json)}
    (conveys : Conveys known depth x a entries) (f : α → β) :
    Conveys known depth (f <$> x) (f a) entries :=
  ⟨conveys.suits, fun members present shape place =>
    RecordReader.map_read.mpr ⟨a, conveys.reads members present shape place, rfl⟩⟩

theorem seq {f : RecordReader (α → β)} {g : α → β} {x : RecordReader α} {a : α}
    {before after : List (String × Option Json)} (first : Conveys known depth f g before)
    (second : Conveys known depth x a after) :
    Conveys known depth (f <*> x) (g a) (before ++ after) := by
  refine ⟨?_, ?_⟩
  · intro entry member
    rcases List.mem_append.mp member with early | late
    · exact first.suits entry early
    · exact second.suits entry late
  · intro members present shape place
    exact RecordReader.seq_read.mpr ⟨g, a,
      first.reads members (fun entry member => present entry (List.mem_append_left _ member)) _ _,
      second.reads members (fun entry member => present entry (List.mem_append_right _ member)) _ _,
      rfl⟩

/-- Only what is said of the entries' own names counts. -/
theorem relabel {known' : List (String × Schema)} {x : RecordReader α} {a : α}
    {entries : List (String × Option Json)} (conveys : Conveys known depth x a entries)
    (agree : ∀ name ∈ entries.map Prod.fst, known'.lookup name = known.lookup name) :
    Conveys known' depth x a entries := by
  refine ⟨?_, conveys.reads⟩
  intro entry member
  have suits := conveys.suits entry member
  refine ⟨?_, suits.printable⟩
  intro schema value declared same
  rw [agree entry.1 (List.mem_map_of_mem member)] at declared
  exact suits.fits schema value declared same

theorem one {name : String} {reader : Reader α} {absent : Option α} {a : α}
    {value : Option Json} (suits : Suits known depth (name, value))
    (takes : Takes reader absent value a) :
    Conveys known depth (.memberOr name reader absent) a [(name, value)] := by
  refine ⟨?_, ?_⟩
  · intro entry member
    rw [List.mem_singleton.mp member]
    exact suits
  · intro members present shape place
    rw [RecordReader.memberOr_read, present (name, value) (List.mem_singleton_self _)]
    exact takes

theorem one_of_restates {name : String} {schema : Schema} {reader : Reader α} {a : α}
    {value : Json} (declared : known.lookup name = some schema) (absent : Option α)
    (restates : Restates schema reader depth a value) :
    Conveys known depth (.memberOr name reader absent) a [(name, some value)] := by
  refine one ⟨?_, ?_⟩ restates.reads
  · intro other found equation same
    rw [declared] at equation
    cases equation
    cases same
    exact restates.fits
  · intro found same
    cases same
    exact restates.printable

variable {members : Members} {name : String} {schema : Schema} {reader : Reader α}
  {write : α → Json}
  {a : α}

theorem restates_of_get? (suitable : Suitable known depth members)
    (declared : known.lookup name = some schema) (faithful : Faithful depth schema reader write)
    {value : Json} (found : members.get? name = some value) (reads : reader value = .ok a) :
    Restates schema reader depth a (write a) :=
  faithful value a (suitable.fits name schema value declared found) reads
    (suitable.printable name value found)

/-- A member says what is written for it, or it is absent and its default is written. -/
theorem memberOr (suitable : Suitable known depth members)
    (declared : known.lookup name = some schema) (faithful : Faithful depth schema reader write)
    {absent : Option α}
    (default : ∀ value, absent = some value → Restates schema reader depth value (write value))
    (takes : Takes reader absent (members.get? name) a) :
    Conveys known depth (.memberOr name reader absent) a [(name, some (write a))] := by
  refine one_of_restates declared absent ?_
  unfold Takes at takes
  split at takes
  · rename_i value found
    exact restates_of_get? suitable declared faithful found takes
  · cases absent with
    | none => cases takes
    | some absent =>
        cases takes
        exact default a rfl

theorem member (suitable : Suitable known depth members)
    (declared : known.lookup name = some schema) (faithful : Faithful depth schema reader write)
    (takes : Takes reader none (members.get? name) a) :
    Conveys known depth (.member name reader) a [(name, some (write a))] :=
  memberOr suitable declared faithful (fun _ equation => by cases equation) takes

theorem withDefault (suitable : Suitable known depth members)
    (declared : known.lookup name = some schema) (faithful : Faithful depth schema reader write)
    {absent : α} (default : Restates schema reader depth absent (write absent))
    (takes : Takes reader (some absent) (members.get? name) a) :
    Conveys known depth (.withDefault name reader absent) a [(name, some (write a))] := by
  refine memberOr suitable declared faithful (fun value equation => ?_) takes
  cases equation
  exact default

theorem absent (name : String) (reader : Reader α) (value : α) :
    Conveys known depth (.memberOr name reader (some value)) value [(name, none)] := by
  refine one ⟨?_, ?_⟩ rfl
  · intro schema value _ equation
    cases equation
  · intro value equation
    cases equation

theorem optional_of {reads : Reader α} {a : Option α} (declared : known.lookup name = some schema)
    (restates : ∀ value b, members.get? name = some value → reads value = .ok b → a = some b →
      Restates schema reader depth b (write b))
    (takes : Takes (Reader.option reads) (some none) (members.get? name) a) :
    Conveys known depth (.optional name reader) a [(name, a.map write)] := by
  cases a with
  | none => exact absent name (Reader.option reader) none
  | some a =>
      unfold Takes at takes
      split at takes
      · rename_i value found
        have read : reads value = .ok a := by
          unfold Reader.option at takes
          split at takes
          · cases takes
          · cases read : reads value with
            | error fault =>
                rw [read] at takes
                cases takes
            | ok b =>
                rw [read] at takes
                cases takes
                rfl
        exact one_of_restates declared _ (restates value a found read rfl).option
      · cases takes

theorem optional (suitable : Suitable known depth members)
    (declared : known.lookup name = some schema) (faithful : Faithful depth schema reader write)
    {a : Option α}
    (takes : Takes (Reader.option reader) (some none) (members.get? name) a) :
    Conveys known depth (.optional name reader) a [(name, a.map write)] :=
  optional_of declared
    (fun _ _ found read _ => restates_of_get? suitable declared faithful found read) takes

theorem flag (name : String) {schema : Schema} (declared : known.lookup name = some schema)
    (fits : schema (.bool true) = []) (value : Bool) :
    Conveys known depth (.withDefault name Reader.truth false) value [(name, flag? value)] := by
  cases value with
  | false => exact absent name Reader.truth false
  | true => exact one_of_restates declared (some false) ⟨fits, rfl, by simp, trivial⟩

end Conveys

theorem printable_record {depth : Nat} {entries : List (String × Option Json)}
    (distinct : (entries.map Prod.fst).Nodup)
    (each : ∀ entry ∈ entries, ∀ value, entry.2 = some value → value.Printable depth) :
    (record entries).Printable (depth + 1) := by
  rw [record_eq_obj, printable_obj]
  refine ⟨distinct.sublist (names_written_sublist entries), ?_⟩
  rintro ⟨key, value⟩ member
  exact each (key, some value) (mem_written.mp member) value rfl

theorem restates_record {required : List String} {known : List (String × Schema)} {depth : Nat}
    {reader : RecordReader α} {type : String} {x : α} {entries : List (String × Option Json)}
    (conveys : Conveys known depth reader x entries) (distinct : (entries.map Prod.fst).Nodup)
    (declared : ∀ name ∈ entries.map Prod.fst, (known.lookup name).isSome)
    (complete : ∀ name ∈ required, ∃ value, (name, some value) ∈ entries) :
    Restates (ConfigSchema.record required known) (reader.run type) (depth + 1) x
      (record entries) := by
  refine ⟨?_, ?_, ?_, ?_⟩
  · rw [ConfigSchema.record_eq_nil]
    refine ⟨written entries, rfl, ?_, ?_⟩
    · intro name member
      obtain ⟨value, present⟩ := complete name member
      rw [Members.contains, get?_written distinct present]
      rfl
    · intro name value member
      have entry := mem_written.mp member
      obtain ⟨schema, found⟩ := Option.isSome_iff_exists.mp
        (declared name (List.mem_map_of_mem (f := Prod.fst) entry))
      exact ⟨schema, found, (conveys.suits _ entry).fits schema value found rfl⟩
  · rw [record_eq_obj, RecordReader.run_obj]
    exact conveys.reads _ (fun entry member => get?_written distinct member) _ _
  · simp [record_eq_obj]
  · exact printable_record distinct fun entry member => (conveys.suits entry member).printable

theorem exists_succ_of_printable {depth : Nat} {members : Members}
    (printable : (obj members).Printable depth) : ∃ inner, depth = inner + 1 :=
  ⟨depth - 1, (Nat.succ_pred_eq_of_pos printable.1).symm⟩

theorem Suitable.of_fits {required : List String} {known : List (String × Schema)} {depth : Nat}
    {value : Json} (fits : ConfigSchema.record required known value = [])
    (printable : value.Printable depth) :
    ∃ members inner, value = .obj members ∧ depth = inner + 1 ∧ Suitable known inner members := by
  obtain ⟨members, rfl, -, closed⟩ := ConfigSchema.record_eq_nil.mp fits
  obtain ⟨inner, rfl⟩ := exists_succ_of_printable printable
  rw [printable_obj] at printable
  refine ⟨members, inner, rfl, rfl, ?_, ?_⟩
  · intro name schema value declared found
    obtain ⟨other, same, fits⟩ := closed name value (Dict.mem_of_get? found)
    rw [declared] at same
    cases same
    exact fits
  · intro name value found
    exact printable.2 _ (Dict.mem_of_get? found)

theorem faithful_record_succ {required : List String} {known : List (String × Schema)} {depth : Nat}
    {reader : RecordReader α} {type : String} {entries : α → List (String × Option Json)}
    (names : List String) (named : ∀ x, (entries x).map Prod.fst = names) (distinct : names.Nodup)
    (declared : ∀ name ∈ names, (known.lookup name).isSome)
    (complete : ∀ x, ∀ name ∈ required, ∃ value, (name, some value) ∈ entries x)
    (conveys : ∀ members x shape place, Suitable known depth members →
      reader.read shape place (.named members) = .ok x → Conveys known depth reader x (entries x)) :
    Faithful (depth + 1) (ConfigSchema.record required known) (reader.run type)
      fun x => record (entries x) := by
  intro found x fits reads printable
  obtain ⟨members, inner, rfl, same, suitable⟩ := Suitable.of_fits fits printable
  cases same
  rw [RecordReader.run_obj] at reads
  have conveyed := conveys members x _ _ suitable reads
  rw [← named x] at distinct declared
  exact restates_record conveyed distinct declared (complete x)

theorem faithful_record {required : List String} {known : List (String × Schema)}
    {reader : RecordReader α} {type : String} {entries : α → List (String × Option Json)}
    (names : List String) (named : ∀ x, (entries x).map Prod.fst = names) (distinct : names.Nodup)
    (declared : ∀ name ∈ names, (known.lookup name).isSome)
    (complete : ∀ x, ∀ name ∈ required, ∃ value, (name, some value) ∈ entries x)
    (conveys : ∀ depth members x shape place, Suitable known depth members →
      reader.read shape place (.named members) = .ok x → Conveys known depth reader x (entries x))
    (depth : Nat) :
    Faithful depth (ConfigSchema.record required known) (reader.run type)
      fun x => record (entries x) := by
  intro found x fits reads printable
  obtain ⟨members, inner, -, rfl, -⟩ := Suitable.of_fits fits printable
  exact faithful_record_succ names named distinct declared complete (conveys inner) found x fits
    reads printable

end Json

end GigListings
