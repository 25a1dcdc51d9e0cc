import GigListings.Json.Decode
import GigListings.Proofs.Dict
import GigListings.Proofs.Json.Printable

namespace GigListings

/-! Records as they are written and read, member by member. -/

namespace Json

def written (entries : List (String × Option Json)) : Members :=
  entries.filterMap fun (key, value) => value.map (key, ·)

theorem record_eq_obj (entries : List (String × Option Json)) :
    record entries = .obj (written entries) := rfl

theorem written_append (early late : List (String × Option Json)) :
    written (early ++ late) = written early ++ written late :=
  List.filterMap_append

theorem mem_written {entries : List (String × Option Json)} {key : String} {value : Json} :
    (key, value) ∈ written entries ↔ (key, some value) ∈ entries := by
  unfold written
  rw [List.mem_filterMap]
  constructor
  · rintro ⟨⟨name, found⟩, member, equation⟩
    obtain ⟨inner, rfl, pair⟩ := Option.map_eq_some_iff.mp equation
    cases pair
    exact member
  · intro member
    exact ⟨_, member, rfl⟩

theorem names_written_sublist (entries : List (String × Option Json)) :
    ((written entries).map Prod.fst).Sublist (entries.map Prod.fst) := by
  induction entries with
  | nil => exact List.Sublist.slnil
  | cons entry entries induction =>
      obtain ⟨key, value⟩ := entry
      cases value with
      | none => exact induction.cons key
      | some value => exact induction.cons_cons key

theorem get?_written {entries : List (String × Option Json)} {entry : String × Option Json}
    (distinct : (entries.map Prod.fst).Nodup) (member : entry ∈ entries) :
    (written entries).get? entry.1 = entry.2 := by
  obtain ⟨key, value⟩ := entry
  have writtenDistinct := distinct.sublist (names_written_sublist entries)
  cases value with
  | some value => exact Dict.get?_of_mem writtenDistinct (mem_written.mpr member)
  | none =>
      cases found : (written entries).get? key with
      | none => rfl
      | some value =>
          have other := mem_written.mp (Dict.mem_of_get? found)
          have same := List.inj_on_of_nodup_map distinct other member rfl
          cases same

theorem not_mem_names_written {name : String} {entries : List (String × Option Json)}
    (absent : name ∉ entries.map Prod.fst) : name ∉ (written entries).map Prod.fst :=
  fun member => absent ((names_written_sublist entries).subset member)

theorem written_inj {entries others : List (String × Option Json)}
    (distinct : (entries.map Prod.fst).Nodup)
    (named : entries.map Prod.fst = others.map Prod.fst)
    (same : written entries = written others) : entries = others := by
  induction entries generalizing others with
  | nil => exact (List.map_eq_nil_iff.mp named.symm).symm
  | cons entry entries induction =>
      obtain ⟨key, value⟩ := entry
      obtain ⟨⟨name, other⟩, later, rfl, sameName, others⟩ := List.map_eq_cons_iff.mp named.symm
      dsimp only at sameName
      subst sameName
      obtain ⟨new, rest⟩ := List.nodup_cons.mp distinct
      have unwritten := not_mem_names_written new
      have otherUnwritten : name ∉ (written later).map Prod.fst :=
        not_mem_names_written (others ▸ new)
      cases value with
      | none =>
          cases other with
          | none => rw [induction rest others.symm same]
          | some found =>
              have here : written entries = (name, found) :: written later := same
              rw [here] at unwritten
              exact absurd List.mem_cons_self unwritten
      | some value =>
          cases other with
          | none =>
              have here : (name, value) :: written entries = written later := same
              rw [← here] at otherUnwritten
              exact absurd List.mem_cons_self otherUnwritten
          | some found =>
              obtain ⟨first, sameRest⟩ := List.cons.inj (show (name, value) :: written entries =
                (name, found) :: written later from same)
              rw [(Prod.mk.inj first).2, induction rest others.symm sameRest]

/-- What the reader of a record takes for a member. -/
def Takes (reader : Reader α) (absent : Option α) (found : Option Json) (a : α) : Prop :=
  match found with
  | some value => reader value = .ok a
  | none => absent = some a

namespace RecordReader

theorem placeOf?_snd (name : String) (members : Members) :
    (placeOf? name members).map Prod.snd = members.get? name := by
  have shifted (start : Nat) :
      ((members.zipIdx start).find? fun entry => entry.1.1 = name).map (fun found => found.1.2) =
        members.get? name := by
    induction members generalizing start with
    | nil => rfl
    | cons entry rest induction =>
        obtain ⟨other, value⟩ := entry
        have first : Members.get? ((other, value) :: rest) name = _ :=
          Dict.get?_cons other value rest name
        rw [List.zipIdx_cons, List.find?_cons, first]
        by_cases same : other = name
        · simp [same]
        · simp only [same, decide_false, Ne.symm same, if_false]
          exact induction _
  unfold placeOf?
  rw [Option.map_map]
  exact shifted 0

theorem memberOr_read (name : String) (reader : Reader α) (absent : Option α) (shape : String)
    (place : Nat) (members : Members) (a : α) :
    (memberOr name reader absent).read shape place (.named members) = .ok a ↔
      Takes reader absent (members.get? name) a := by
  unfold memberOr Takes
  rw [← placeOf?_snd]
  dsimp only
  cases placeOf? name members with
  | none =>
      cases absent with
      | none => simp
      | some value => simp
  | some found =>
      obtain ⟨i, value⟩ := found
      dsimp only [Option.map_some]
      cases reader value with
      | error fault => simp [Except.mapError]
      | ok b => simp [Except.mapError]

variable {reader : Reader α} {name shape : String} {place : Nat} {members : Members}

theorem member_read {a : α} : (member name reader).read shape place (.named members) = .ok a ↔
    Takes reader none (members.get? name) a :=
  memberOr_read name reader none shape place members a

theorem withDefault_read {absent a : α} :
    (withDefault name reader absent).read shape place (.named members) = .ok a ↔
      Takes reader (some absent) (members.get? name) a :=
  memberOr_read name reader (some absent) shape place members a

theorem optional_read {a : Option α} :
    (optional name reader).read shape place (.named members) = .ok a ↔
      Takes (Reader.option reader) (some none) (members.get? name) a :=
  withDefault_read

theorem seq_read {f : RecordReader (α → β)} {x : RecordReader α} {shape : String} {place : Nat}
    {source : Members.Source} {b : β} :
    (f <*> x).read shape place source = .ok b ↔
      ∃ g a, f.read shape place source = .ok g ∧ x.read shape (place + f.width) source = .ok a ∧
        g a = b := by
  change (seq f x).read shape place source = .ok b ↔ _
  unfold seq
  dsimp only
  cases f.read shape place source with
  | error fault =>
      cases x.read shape (place + f.width) source with
      | error other => simp
      | ok a => simp
  | ok g =>
      cases x.read shape (place + f.width) source with
      | error other => simp
      | ok a => simp

theorem map_read {f : α → β} {x : RecordReader α} {shape : String} {place : Nat}
    {source : Members.Source} {b : β} :
    (f <$> x).read shape place source = .ok b ↔
      ∃ a, x.read shape place source = .ok a ∧ f a = b := by
  change (seq (pure f) x).read shape place source = .ok b ↔ _
  unfold seq pure
  dsimp only
  rw [Nat.add_zero]
  cases x.read shape place source with
  | error other => simp
  | ok a => simp

theorem run_obj (record : RecordReader α) (type : String) (members : Members) (a : α) :
    record.run type (.obj members) = .ok a ↔
      record.read (RecordReader.shape type record.width) 0 (.named members) = .ok a := by
  unfold run
  dsimp only
  cases record.read (RecordReader.shape type record.width) 0 (.named members) with
  | error fault => simp [Except.mapError]
  | ok b => simp [Except.mapError]

end RecordReader

end Json

end GigListings
