import GigListings.Printed.Format
import GigListings.Proofs.Dict

namespace GigListings

/-! The formats that are known by name, built in and under names of a site's own. -/

theorem DateFormat.get?_builtin (format : DateFormat) :
    FormatRegistry.builtin.get? format.name = some format.parse := by
  cases format <;> rfl

/-- The names of the built-in formats are known, whatever else is. -/
def FormatRegistry.KnowsBuiltin (registry : FormatRegistry) : Prop :=
  ∀ name, name ∈ DateFormat.builtinNames → (registry.get? name).isSome

theorem FormatRegistry.knowsBuiltin_builtin : builtin.KnowsBuiltin := by
  intro name member
  obtain ⟨format, -, rfl⟩ := List.mem_map.mp member
  rw [DateFormat.get?_builtin]
  rfl

theorem FormatRegistry.KnowsBuiltin.register {registry : FormatRegistry}
    (knows : registry.KnowsBuiltin) (name : String) (format : DateReader) :
    (registry.register name format).KnowsBuiltin := by
  intro other member
  rw [FormatRegistry.register, get?, Dict.get?_insert]
  split
  · rfl
  · exact knows other member

theorem FormatRegistry.KnowsBuiltin.exists_addAliases {registry : FormatRegistry}
    (knows : registry.KnowsBuiltin) (aliases : List (String × String))
    (targets : ∀ entry ∈ aliases, entry.2 ∈ DateFormat.builtinNames) :
    ∃ extended, registry.addAliases aliases = .ok extended := by
  induction aliases generalizing registry with
  | nil => exact ⟨registry, rfl⟩
  | cons entry rest induction =>
      obtain ⟨name, target⟩ := entry
      have known := knows target (targets _ List.mem_cons_self)
      obtain ⟨format, found⟩ := Option.isSome_iff_exists.mp known
      obtain ⟨extended, added⟩ := induction (knows.register name format)
        fun entry member => targets entry (List.mem_cons_of_mem _ member)
      refine ⟨extended, ?_⟩
      simp only [addAliases, addAlias, found]
      exact added

theorem PrintedDate.orTime_none (printed : PrintedDate) : printed.orTime none = printed := by
  obtain ⟨date, time⟩ := printed
  rw [orTime, Option.or_none]

theorem FormatRegistry.parse_of_get? {registry : FormatRegistry} {format : DateFormat}
    (known : registry.get? format.name = some format.parse) (text : String)
    (context : DateContext) :
    registry.parse (some format.name) text none context =
      match format.read? text.toList none context with
      | some printed => .ok printed
      | none => .error (.notIn format) := by
  simp only [parse, Option.getD_some, known, DateFormat.parse, Option.map_none, Option.bind_none]
  cases format.read? text.toList none context with
  | none => rfl
  | some printed => exact congrArg Except.ok (PrintedDate.orTime_none printed)

theorem FormatRegistry.parse_builtin (format : DateFormat) (text : String)
    (context : DateContext) :
    builtin.parse (some format.name) text none context =
      match format.read? text.toList none context with
      | some printed => .ok printed
      | none => .error (.notIn format) :=
  parse_of_get? format.get?_builtin text context

theorem FormatRegistry.parse_builtin_default (text : String) (context : DateContext) :
    builtin.parse none text none context =
      match DateText.auto? text.toList context with
      | some printed => .ok printed
      | none => .error (.notIn .auto) :=
  parse_builtin .auto text context

end GigListings

namespace GigListings.FormatRegistry

/-! What a site's own names for formats stand for. The names are added one after another, so that
a name which is that of a built-in format hides this format from the names behind it. -/

/-- Every name reads as the built-in format that it is given, or else as the one it is the name
of. -/
def Reads (registry : FormatRegistry) (aliases : Dict String) : Prop :=
  ∀ name, registry.get? name = builtin.get? ((Dict.get? aliases name).getD name)

/-- No alias is the target of an alias behind it, unless it stands for the format of its name. -/
def Unhidden (aliases : Dict String) : Prop :=
  ∀ name target other, (name, target) ∈ aliases → (target, other) ∈ aliases → target < name →
    other = target

theorem get?_register (registry : FormatRegistry) (name other : String) (format : DateReader) :
    (registry.register name format).get? other =
      if other = name then some format else registry.get? other :=
  Dict.get?_insert registry.formats name other format

section Added

variable {registry extended : FormatRegistry}

theorem addAliases_cons_eq_ok {name target : String} {rest : Dict String}
    (added : registry.addAliases ((name, target) :: rest) = .ok extended) :
    ∃ format, registry.get? target = some format ∧
      (registry.register name format).addAliases rest = .ok extended := by
  simp only [addAliases, addAlias] at added
  cases found : registry.get? target with
  | none =>
      rw [found] at added
      cases added
  | some format =>
      rw [found] at added
      exact ⟨format, rfl, added⟩

theorem get?_addAliases_of_not_mem {aliases : Dict String} {name : String}
    (added : registry.addAliases aliases = .ok extended) (unnamed : name ∉ aliases.names) :
    extended.get? name = registry.get? name := by
  induction aliases generalizing registry with
  | nil =>
      cases added
      rfl
  | cons entry rest induction =>
      obtain ⟨first, target⟩ := entry
      obtain ⟨format, -, added⟩ := addAliases_cons_eq_ok added
      have different : name ≠ first := fun same => unnamed (same ▸ List.mem_cons_self)
      have unnamedLater : name ∉ Dict.names rest := fun later =>
        unnamed (List.mem_cons_of_mem _ later)
      rw [induction added unnamedLater, get?_register, if_neg different]

theorem not_mem_names_of_lt {aliases : Dict String} {name : String}
    (before : ∀ entry ∈ aliases, name < entry.1) : name ∉ aliases.names := by
  intro named
  obtain ⟨entry, member, rfl⟩ := List.mem_map.mp named
  exact String.lt_irrefl _ (before entry member)

/-- An alias whose target comes before it reads as what its target has come to. -/
theorem exists_get?_addAliases_of_lt {aliases : Dict String} (sorted : aliases.Sorted)
    {name target : String} (added : registry.addAliases aliases = .ok extended)
    (member : (name, target) ∈ aliases) (before : target < name) :
    ∃ format, extended.get? name = some format ∧ extended.get? target = some format := by
  induction aliases generalizing registry with
  | nil => cases member
  | cons entry rest induction =>
      obtain ⟨least, others⟩ := List.pairwise_cons.mp sorted
      rcases List.mem_cons.mp member with rfl | later
      · obtain ⟨format, found, added⟩ := addAliases_cons_eq_ok added
        have nameUnnamed : name ∉ Dict.names rest := not_mem_names_of_lt least
        have targetUnnamed : target ∉ Dict.names rest :=
          not_mem_names_of_lt fun entry later => String.lt_trans before (least entry later)
        have different : target ≠ name := by
          rintro rfl
          exact String.lt_irrefl _ before
        refine ⟨format, ?_, ?_⟩
        · rw [get?_addAliases_of_not_mem added nameUnnamed, get?_register, if_pos rfl]
        · rw [get?_addAliases_of_not_mem added targetUnnamed, get?_register, if_neg different,
            found]
      · obtain ⟨format, -, added⟩ := addAliases_cons_eq_ok added
        exact induction others added later

/-- Aliases that are added to those of `known`, all of which are read rightly, are read rightly
if none of them is hidden. -/
theorem Reads.addAliases {known aliases : Dict String} (reads : registry.Reads known)
    (sorted : Dict.Sorted (known ++ aliases)) (unhidden : Unhidden (known ++ aliases))
    (added : registry.addAliases aliases = .ok extended) :
    extended.Reads (known ++ aliases) := by
  induction aliases generalizing registry known with
  | nil =>
      cases added
      rw [List.append_nil]
      exact reads
  | cons entry rest induction =>
      obtain ⟨name, target⟩ := entry
      obtain ⟨format, found, added⟩ := addAliases_cons_eq_ok added
      have split : known ++ (name, target) :: rest = known ++ [(name, target)] ++ rest := by simp
      obtain ⟨-, -, across⟩ := List.pairwise_append.mp sorted
      have last : ∀ entry ∈ known, entry.1 < name := fun entry member =>
        across entry member (name, target) List.mem_cons_self
      have builtinTarget : registry.get? target = builtin.get? target := by
        rw [reads target]
        cases aliased : Dict.get? known target with
        | none => rfl
        | some other =>
            have member := Dict.mem_of_get? aliased
            rw [unhidden name target other (by simp) (List.mem_append_left _ member)
              (last _ member)]
            rfl
      have readsMore : (registry.register name format).Reads (known ++ [(name, target)]) := by
        intro other
        rw [get?_register, ← Dict.insert_last target last, Dict.get?_insert]
        split
        · rw [← found, builtinTarget]
          rfl
        · exact reads other
      rw [split] at sorted unhidden ⊢
      exact induction readsMore sorted unhidden added

end Added

/-! Formats that read every text alike are the same. -/

theorem parse_eq_of_get? {registry other : FormatRegistry} {name target : String}
    {format : DateReader} (found : registry.get? name = some format)
    (same : other.get? target = some format) (text : String) (time : Option String)
    (context : DateContext) :
    registry.parse (some name) text time context =
      other.parse (some target) text time context := by
  simp only [parse, Option.getD_some, found, same]

theorem parse_builtin_empty (format : DateFormat) :
    builtin.parse (some format.name) "" none ⟨Date.epoch, none⟩ = .error (.notIn format) := by
  rw [parse_builtin]
  cases format <;> rfl

theorem eq_of_parse_builtin {format other : DateFormat}
    (same : ∀ text time context, builtin.parse (some format.name) text time context =
      builtin.parse (some other.name) text time context) : format = other := by
  have empty := same "" none ⟨Date.epoch, none⟩
  rw [parse_builtin_empty, parse_builtin_empty] at empty
  cases empty
  rfl

/-- A site's names for built-in formats can always be added, and names that are not among them
read as before. Each of them reads as the format that it is given exactly if none is hidden by
another one. -/
theorem exists_ofAliases_parse_iff {aliases : Dict String} (sorted : aliases.Sorted)
    (targets : ∀ entry ∈ aliases, entry.2 ∈ DateFormat.builtinNames) :
    ∃ registry, ofAliases aliases = .ok registry ∧
      (∀ name, Dict.get? aliases name = none → ∀ text time context,
        registry.parse (some name) text time context =
          builtin.parse (some name) text time context) ∧
      ((∀ name target, (name, target) ∈ aliases → ∀ text time context,
          registry.parse (some name) text time context =
            builtin.parse (some target) text time context) ↔
        Unhidden aliases) := by
  obtain ⟨registry, added⟩ := knowsBuiltin_builtin.exists_addAliases aliases targets
  have distinct := Dict.nodup_of_sorted sorted
  have formatOf : ∀ name target, (name, target) ∈ aliases →
      ∃ format : DateFormat, format.name = target ∧ builtin.get? target = some format.parse := by
    intro name target member
    obtain ⟨format, -, rfl⟩ := List.mem_map.mp (targets _ member)
    exact ⟨format, rfl, format.get?_builtin⟩
  refine ⟨registry, added, ?_, ?_, ?_⟩
  · intro name unaliased text time context
    have unnamed : name ∉ Dict.names aliases := by
      intro named
      obtain ⟨target, found⟩ := Dict.exists_get?_of_mem_names named
      rw [unaliased] at found
      cases found
    simp only [parse, Option.getD_some, get?_addAliases_of_not_mem added unnamed]
  · intro right name target other aliased hidden before
    obtain ⟨format, rfl, found⟩ := formatOf name target aliased
    obtain ⟨otherFormat, rfl, otherFound⟩ := formatOf _ other hidden
    -- Both the alias and its target read as what the target was given.
    obtain ⟨reader, isAlias, isTarget⟩ :=
      exists_get?_addAliases_of_lt sorted added aliased before
    have same : otherFormat = format := by
      apply eq_of_parse_builtin
      intro text time context
      rw [← right _ _ hidden, ← right _ _ aliased]
      exact parse_eq_of_get? isTarget isAlias text time context
    rw [same]
  · intro unhidden name target member
    obtain ⟨format, rfl, found⟩ := formatOf name target member
    have none : Reads builtin [] := fun _ => rfl
    have reads := none.addAliases sorted unhidden added name
    rw [List.nil_append, Dict.get?_of_mem distinct member, Option.getD_some, found] at reads
    exact parse_eq_of_get? reads found

/-- A venue whose own names are `listing` for compact dates and `poster` for dates with a
weekday. -/
def venueAliases : Dict String := [("listing", "compact"), ("poster", "weekday-day-month")]

theorem exists_ofAliases_parse_venueAliases :
    ∃ registry, ofAliases venueAliases = .ok registry ∧
      registry.parse (some "listing") "Wed.13.Aug.25" none
        ⟨⟨2025, 8, 1, by decide⟩, none⟩ = .ok ⟨⟨2025, 8, 13, by decide⟩, none⟩ := by
  obtain ⟨registry, added, -, right⟩ := @exists_ofAliases_parse_iff venueAliases
    (List.pairwise_pair.mpr (by decide +kernel)) (by decide)
  have unhidden : Unhidden venueAliases := by
    rintro name target other aliased hidden -
    simp only [venueAliases, List.mem_cons, Prod.mk.injEq, List.not_mem_nil, or_false]
      at aliased hidden
    rcases aliased with ⟨-, rfl⟩ | ⟨-, rfl⟩ <;> simp at hidden
  have read : DateFormat.compact.read? "Wed.13.Aug.25".toList none
      ⟨⟨2025, 8, 1, by decide⟩, none⟩ = some ⟨⟨2025, 8, 13, by decide⟩, none⟩ := by decide +kernel
  refine ⟨registry, added, ?_⟩
  rw [right.mpr unhidden "listing" "compact" (by simp [venueAliases])]
  exact (parse_builtin .compact _ _).trans (by rw [read])

/-- Where `auto` is a name for compact dates, a name for `auto` reads compact dates only. -/
theorem parse_hidden_auto :
    ∃ registry, ofAliases [("auto", "compact"), ("listing", "auto")] = .ok registry ∧
      builtin.parse (some "auto") "2025-08-13" none ⟨Date.epoch, none⟩ =
        .ok ⟨⟨2025, 8, 13, by decide⟩, none⟩ ∧
      registry.parse (some "listing") "2025-08-13" none ⟨Date.epoch, none⟩ =
        .error (.notIn .compact) := by
  have autoReads : DateFormat.auto.read? "2025-08-13".toList none ⟨Date.epoch, none⟩ =
      some ⟨⟨2025, 8, 13, by decide⟩, none⟩ := by decide +kernel
  have compactFails : DateFormat.compact.read? "2025-08-13".toList none ⟨Date.epoch, none⟩ =
      none := by decide +kernel
  refine ⟨_, rfl, ?_, ?_⟩
  · exact (parse_builtin .auto _ _).trans (by rw [autoReads])
  · exact (parse_builtin .compact _ _).trans (by rw [compactFails])

end GigListings.FormatRegistry
