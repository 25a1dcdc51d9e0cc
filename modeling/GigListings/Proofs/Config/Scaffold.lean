import GigListings.Proofs.Config.Reread
import GigListings.Proofs.Text.Pieces

namespace GigListings

/-! The configuration that a site starts from is accepted, unless its source's name, which is made
from the site's own, holds letters or digits beyond ASCII. -/

open Json Text

namespace Text

/-! Letters of ASCII in lower case. -/

theorem isAsciiUpper_of_mem_lowerChar {c image : Char} (member : image ∈ lowerChar c) :
    isAsciiUpper image = false := by
  by_cases ascii : c.toNat < 128
  · have all : ∀ code < 128, (lowerChar (Char.ofNat code)).all (!isAsciiUpper ·) = true := by
      decide
    have own := all c.toNat ascii
    rw [Char.ofNat_toNat, List.all_eq_true] at own
    simpa using own image member
  · by_cases small : image.toNat < 128
    · exact isAsciiUpper_of_isAsciiLower (isAsciiLower_of_mem_lowerChar ascii member small)
    · exact isAsciiUpper_of_le (Nat.le_of_not_lt small)

theorem isAsciiUpper_of_mem_lowerAfter {before text : List Char} {image : Char}
    (member : image ∈ lowerAfter before text) : isAsciiUpper image = false := by
  induction text generalizing before with
  | nil => cases member
  | cons c text induction =>
      rw [lowerAfter, List.mem_append] at member
      rcases member with first | later
      · by_cases sigma : c = 'Σ'
        · rw [if_pos sigma] at first
          split at first
          · rw [List.mem_singleton.mp first]
            rfl
          · rw [List.mem_singleton.mp first]
            rfl
        · rw [if_neg sigma] at first
          exact isAsciiUpper_of_mem_lowerChar first
      · exact induction later

theorem mem_lowerAfter {before text : List Char} {c image : Char} (member : c ∈ text)
    (noSigma : c ≠ 'Σ') (lowered : image ∈ lowerChar c) : image ∈ lowerAfter before text := by
  induction text generalizing before with
  | nil => cases member
  | cons d text induction =>
      rw [lowerAfter, List.mem_append]
      rcases List.mem_cons.mp member with rfl | later
      · left
        rwa [if_neg noSigma]
      · right
        exact induction later

theorem lt_of_isAsciiAlphanumeric {c : Char} (named : isAsciiAlphanumeric c = true) :
    c.toNat < 128 := by
  simp only [isAsciiAlphanumeric, isAsciiLetter, isAsciiLower, isAsciiUpper, isAsciiDigit,
    Bool.or_eq_true, Bool.and_eq_true, decide_eq_true_eq] at named
  rcases named with (⟨-, most⟩ | ⟨-, most⟩) | ⟨-, most⟩
  · exact Nat.lt_of_le_of_lt most (by decide : 'z'.toNat < 128)
  · exact Nat.lt_of_le_of_lt most (by decide : 'Z'.toNat < 128)
  · exact Nat.lt_of_le_of_lt most (by decide : '9'.toNat < 128)

theorem exists_mem_lower {text : List Char} {c : Char} (member : c ∈ text)
    (named : isAsciiAlphanumeric c = true) :
    ∃ image ∈ lower text, isAlphanumeric image = true := by
  have ascii := lt_of_isAsciiAlphanumeric named
  have noSigma : c ≠ 'Σ' := by
    rintro rfl
    cases named
  have all : ∀ code < 128, isAsciiAlphanumeric (Char.ofNat code) = true →
      isAlphanumeric (asciiLower (Char.ofNat code)) = true := by decide
  have kept := all c.toNat ascii
  rw [Char.ofNat_toNat] at kept
  refine ⟨asciiLower c, mem_lowerAfter member noSigma ?_, kept named⟩
  rw [lowerChar, if_pos ascii]
  exact List.mem_singleton_self _

/-! Names of sources. -/

theorem isSourceChar_of_isAlphanumeric {c : Char} (named : isAlphanumeric c = true)
    (ascii : c.toNat < 128) (lower : isAsciiUpper c = false) :
    (isAsciiLower c || isAsciiDigit c) = true := by
  simpa [isAlphanumeric, isLetter, isNumeric, ascii, isAsciiLetter, lower] using named

theorem lt_of_isSourceChar {c : Char} (source : ConfigSchema.isSourceChar c = true) :
    c.toNat < 128 := by
  simp only [ConfigSchema.isSourceChar, isAsciiLower, isAsciiDigit, Bool.or_eq_true,
    Bool.and_eq_true, decide_eq_true_eq, beq_iff_eq] at source
  rcases source with ((⟨-, most⟩ | ⟨-, most⟩) | rfl) | rfl
  · exact Nat.lt_of_le_of_lt most (by decide : 'z'.toNat < 128)
  · exact Nat.lt_of_le_of_lt most (by decide : '9'.toNat < 128)
  · decide
  · decide

theorem isSourceChar_of_mem {text : List Char} (source : ConfigSchema.isSource text = true)
    {c : Char} (member : c ∈ text) : ConfigSchema.isSourceChar c = true := by
  cases text with
  | nil => cases member
  | cons d rest =>
      rw [ConfigSchema.isSource, Bool.and_eq_true, List.all_eq_true] at source
      rcases List.mem_cons.mp member with rfl | later
      · rw [ConfigSchema.isSourceChar, source.1]
        rfl
      · exact source.2 c later

section Slug

variable {name : List Char}

/-- Beside its hyphens, a name made of another consists of the other's letters and digits. -/
theorem mem_slug_iff {c : Char} (other : '-' ≠ c) :
    c ∈ slug name ↔ c ∈ lower name ∧ isAlphanumeric c = true := mem_joinRuns other

theorem ne_of_isAlphanumeric {c : Char} (named : isAlphanumeric c = true) : '-' ≠ c := by
  rintro rfl
  cases named

theorem slug_ne_nil (named : ∃ c ∈ name, isAsciiAlphanumeric c = true) : slug name ≠ [] := by
  obtain ⟨c, source, isNamed⟩ := named
  obtain ⟨image, inside, kept⟩ := exists_mem_lower source isNamed
  exact List.ne_nil_of_mem ((mem_slug_iff (ne_of_isAlphanumeric kept)).mpr ⟨inside, kept⟩)

theorem isNameChar_of_mem_slug (ascii : ∀ c ∈ lower name, isAlphanumeric c = true → c.toNat < 128)
    {c : Char} (member : c ∈ slug name) (other : '-' ≠ c) :
    (isAsciiLower c || isAsciiDigit c) = true := by
  obtain ⟨source, kept⟩ := (mem_slug_iff other).mp member
  exact isSourceChar_of_isAlphanumeric kept (ascii c source kept)
    (isAsciiUpper_of_mem_lowerAfter source)

theorem isSource_slug (named : ∃ c ∈ name, isAsciiAlphanumeric c = true)
    (ascii : ∀ c ∈ lower name, isAlphanumeric c = true → c.toNat < 128) :
    ConfigSchema.isSource (slug name) = true := by
  have fits (c : Char) := isNameChar_of_mem_slug ascii (c := c)
  cases written : slug name with
  | nil => exact absurd written (slug_ne_nil named)
  | cons c rest =>
      rw [written] at fits
      have other : '-' ≠ c := ne_of_isAlphanumeric (joinRuns_cons written)
      rw [ConfigSchema.isSource, Bool.and_eq_true, List.all_eq_true]
      refine ⟨fits c List.mem_cons_self other, fun d later => ?_⟩
      rw [ConfigSchema.isSourceChar]
      by_cases hyphen : '-' = d
      · rw [← hyphen]
        rfl
      · rw [fits d (List.mem_cons_of_mem c later) hyphen]
        rfl

theorem isSource_slug_iff (named : ∃ c ∈ name, isAsciiAlphanumeric c = true) :
    ConfigSchema.isSource (slug name) = true ↔
      ∀ c ∈ lower name, isAlphanumeric c = true → c.toNat < 128 := by
  refine ⟨fun source c inside kept => ?_, isSource_slug named⟩
  have listed := (mem_slug_iff (ne_of_isAlphanumeric kept)).mpr ⟨inside, kept⟩
  exact lt_of_isSourceChar (isSourceChar_of_mem source listed)

end Slug

/-! A letter beyond ASCII. -/

theorem accented_letter : 'é' ∈ lowerChar 'é' ∧ isAlphanumeric 'é' = true := by
  have ranges : alphabeticRanges.contains 0xE9 = true := by
    rw [alphabeticRanges, CodeRanges.ofText, tableTokens_ofList, contains_eq_testBit_bits,
      bits_ofGaps]
    decide +kernel
  have runs : lowerRuns.get? 0xE9 = none := by
    rw [lowerRuns, CaseRuns.ofText, tableTokens_ofList]
    decide +kernel
  have code : 'é'.toNat = 0xE9 := rfl
  refine ⟨?_, ?_⟩
  · rw [lowerChar, if_neg (by decide), lowerExpansions_eq, code, runs]
    decide
  · rw [isAlphanumeric, isLetter, if_neg (by decide), code, ranges]
    rfl

end Text

namespace Scaffold

/-! Links without the slashes at their end. -/

theorem exists_trimEndSlashes (text : String) :
    ∃ count, text.toList = (trimEndSlashes text).toList ++ List.replicate count '/' := by
  rw [trimEndSlashes, String.toList_ofList]
  refine ⟨(text.toList.reverse.takeWhile (· == '/')).length, ?_⟩
  have slashes : text.toList.reverse.takeWhile (· == '/') =
      List.replicate (text.toList.reverse.takeWhile (· == '/')).length '/' := by
    rw [List.eq_replicate_iff]
    exact ⟨rfl, fun c member => by simpa using List.mem_takeWhile_imp member⟩
  have whole := List.takeWhile_append_dropWhile (p := (· == '/')) (l := text.toList.reverse)
  rw [slashes] at whole
  rw [← List.reverse_inj, List.reverse_append, List.reverse_reverse, List.reverse_replicate,
    whole]

/-- No link can be read of which only the beginning of a scheme is left. -/
theorem isPrefixOf_trimEndSlashes {text : String} {lead : List Char}
    (leads : lead.isPrefixOf text.toList = true)
    (unread : ∀ start ∈ lead.inits, (Link.Url.parse? start).isSome = false)
    (parsed : (Link.Url.parse? (trimEndSlashes text).toList).isSome = true) :
    lead.isPrefixOf (trimEndSlashes text).toList = true := by
  obtain ⟨count, whole⟩ := exists_trimEndSlashes text
  rw [List.isPrefixOf_iff_prefix, whole] at leads
  rcases List.prefix_or_prefix_of_prefix leads (List.prefix_append _ _) with kept | cut
  · exact List.isPrefixOf_iff_prefix.mpr kept
  · rw [unread _ ((List.mem_inits _ _).mpr cut)] at parsed
    cases parsed

theorem isWebLink_trimEndSlashes {text : String}
    (linked : ConfigSchema.isWebLink text.toList = true)
    (parsed : (Link.Url.parse? (trimEndSlashes text).toList).isSome = true) :
    ConfigSchema.isWebLink (trimEndSlashes text).toList = true := by
  rw [ConfigSchema.isWebLink, Bool.or_eq_true] at linked ⊢
  exact linked.imp (isPrefixOf_trimEndSlashes · (by decide +kernel) parsed)
    (isPrefixOf_trimEndSlashes · (by decide +kernel) parsed)

/-! The parts of a configuration to start from. -/

variable {name baseUrl : String} {source : Option String}

def sourceName (name : String) (source : Option String) : String :=
  source.getD (String.ofList (slug name.toList))

theorem name_fits (named : name ≠ "") : ConfigSchema.name (.str name) = [] := by
  simp [ConfigSchema.name, Schema.all, Schema.ofKind, Schema.nonEmptyText, Schema.defects,
    Json.hasKind, named]

theorem site_fits_iff (named : name ≠ "")
    (linked : ConfigSchema.isWebLink (trimEndSlashes baseUrl).toList = true) :
    ConfigSchema.site (site name baseUrl source) = [] ↔
      ConfigSchema.isSource (sourceName name source).toList = true := by
  constructor
  · intro fits
    obtain ⟨_, ⟨⟩, -, closed⟩ := ConfigSchema.record_eq_nil.mp fits
    obtain ⟨schema, ⟨⟩, fits⟩ := closed "source" (.str (sourceName name source))
      (by simp [sourceName])
    rw [Schema.all_eq_nil] at fits
    exact Schema.defects_eq_nil.mp (fits _ (List.mem_cons_of_mem _ (List.mem_singleton_self _)))
  · intro isSource
    refine ConfigSchema.record_eq_nil.mpr ⟨_, rfl, List.all_eq_true.mp rfl, ?_⟩
    intro entry value member
    have each : entry = "name" ∧ value = .str name ∨
        entry = "source" ∧ value = .str (sourceName name source) ∨
        entry = "baseUrl" ∧ value = .str (trimEndSlashes baseUrl) := by
      simpa [sourceName] using member
    rcases each with ⟨rfl, rfl⟩ | ⟨rfl, rfl⟩ | ⟨rfl, rfl⟩
    · exact ⟨ConfigSchema.name, rfl, name_fits named⟩
    · refine ⟨_, rfl, ?_⟩
      rw [Schema.all_eq_nil]
      simp [ConfigSchema.text, Schema.ofKind_eq_nil, Schema.matching, Schema.defects_eq_nil,
        isSource, Json.hasKind]
    · refine ⟨_, rfl, ?_⟩
      rw [Schema.all_eq_nil]
      simp [ConfigSchema.text, Schema.ofKind_eq_nil, Schema.matching, Schema.defects_eq_nil,
        linked, Json.hasKind]

theorem mapping_fits (named : name ≠ "") : ConfigSchema.mapping (mapping name) = [] := by
  refine ConfigSchema.record_eq_nil.mpr ⟨_, rfl, List.all_eq_true.mp rfl, ?_⟩
  intro entry value member
  have each : entry = "title" ∧ value = .str "title" ∨
      entry = "venue" ∧ value = .obj [("name", .str name)] ∨
      entry = "dateStart" ∧ value = .str "date" ∨ entry = "eventUrl" ∧ value = .str "link" ∨
      entry = "images" ∧ value = .str "image" := by
    simpa using member
  rcases each with ⟨rfl, rfl⟩ | ⟨rfl, rfl⟩ | ⟨rfl, rfl⟩ | ⟨rfl, rfl⟩ | ⟨rfl, rfl⟩
  · exact ⟨_, rfl, rfl⟩
  · refine ⟨_, rfl, ConfigSchema.record_eq_nil.mpr ⟨_, rfl, List.all_eq_true.mp rfl, ?_⟩⟩
    intro entry value member
    obtain ⟨rfl, rfl⟩ : entry = "name" ∧ value = .str name := by simpa using member
    exact ⟨_, rfl, name_fits named⟩
  · exact ⟨_, rfl, rfl⟩
  · exact ⟨_, rfl, rfl⟩
  · exact ⟨_, rfl, rfl⟩

theorem exists_workflow :
    ∃ actions, Reader.list Action.reader workflow = .ok actions ∧
      Config.checkWorkflow [] 0 false actions = [] := by
  have sound : (match Reader.list Action.reader workflow with
      | .ok actions => (Config.checkWorkflow [] 0 false actions).isEmpty
      | .error _ => false) = true := by decide +kernel
  cases read : Reader.list Action.reader workflow with
  | error fault =>
      rw [read] at sound
      cases sound
  | ok actions =>
      rw [read] at sound
      exact ⟨actions, rfl, List.isEmpty_iff.mp sound⟩

/-! The whole. -/

def ownMembers (name baseUrl : String) (source : Option String) : Members :=
  [("site", site name baseUrl source), ("workflow", workflow), ("mapping", mapping name),
    ("debug", .obj [("screenshots", .bool false), ("html", .bool true)])]

theorem template_fits_iff (named : name ≠ "")
    (linked : ConfigSchema.isWebLink (trimEndSlashes baseUrl).toList = true) :
    ConfigSchema.config (template name baseUrl source) = [] ↔
      ConfigSchema.isSource (sourceName name source).toList = true := by
  rw [← site_fits_iff named linked]
  constructor
  · intro fits
    obtain ⟨_, ⟨⟩, -, closed⟩ := ConfigSchema.record_eq_nil.mp fits
    obtain ⟨schema, ⟨⟩, fits⟩ := closed "site" (site name baseUrl source) (by simp)
    exact fits
  · intro siteFits
    apply Config.fits_complete
    refine ConfigSchema.record_eq_nil.mpr ⟨_, rfl, List.all_eq_true.mp rfl, ?_⟩
    intro entry value member
    have each : entry = "site" ∧ value = site name baseUrl source ∨
        entry = "workflow" ∧ value = workflow ∨ entry = "mapping" ∧ value = mapping name ∨
        entry = "debug" ∧ value = .obj [("screenshots", .bool false), ("html", .bool true)] := by
      simpa using member
    rcases each with ⟨rfl, rfl⟩ | ⟨rfl, rfl⟩ | ⟨rfl, rfl⟩ | ⟨rfl, rfl⟩
    · exact ⟨_, rfl, siteFits⟩
    · exact ⟨_, rfl, by decide +kernel⟩
    · exact ⟨_, rfl, mapping_fits named⟩
    · exact ⟨_, rfl, rfl⟩

/-- What a configuration to start from is read as, with these actions. -/
def started (name baseUrl : String) (source : Option String) (workflow : List Action) : Config where
  site := ⟨name, sourceName name source, trimEndSlashes baseUrl, none⟩
  browser := default
  rateLimit := default
  workflow := workflow
  mapping :=
    { title := .field "title"
      artists := none
      venue := ⟨name, none, none, none, none, none⟩
      dateStart := .field "date"
      dateEnd := none
      sourceId := none
      eventUrl := some (.field "link")
      ticketsUrl := none
      images := some (.field "image")
      genre := none
      ageRestriction := none
      description := none
      status := none }
  validation := default
  debug := ⟨false, true, none⟩
  dateFormats := []

theorem checkSite_started (actions : List Action)
    (parsed : (Link.Url.parse? (trimEndSlashes baseUrl).toList).isSome = true) :
    Config.checkSite (started name baseUrl source actions).site = [] := by
  rw [Config.checkSite]
  cases read : Link.Url.parse (started name baseUrl source actions).site.baseUrl.toList with
  | ok url => rfl
  | error fault =>
      have unread : Link.Url.parse (trimEndSlashes baseUrl).toList = .error fault := read
      rw [Link.Url.parse?, unread] at parsed
      cases parsed

/-- A configuration to start from is read, and nothing is wrong with it but perhaps its shape. -/
theorem exists_template
    (parsed : (Link.Url.parse? (trimEndSlashes baseUrl).toList).isSome = true) :
    ∃ config, Config.reader (template name baseUrl source) = .ok config ∧ config.check = [] := by
  obtain ⟨actions, read, checked⟩ := exists_workflow
  have reads : Config.reader (.obj (ownMembers name baseUrl source)) =
      .ok (started name baseUrl source actions) :=
    Config.reader_obj_iff.mpr ⟨rfl, rfl, rfl, read, rfl, rfl, rfl, rfl⟩
  refine ⟨_, Config.reader_complete reads, ?_⟩
  rw [Config.check_completed _ _ (fun _ => rfl), Config.check, checkSite_started actions parsed]
  exact checked

theorem template_printable : (template name baseUrl source).Printable (124 + 3) := by
  apply Config.printable_complete
  simp [site, workflow, fields, field, mapping, Printable, PrintableMembers, PrintableItems]

/-- A configuration to start from is accepted if its source has a name fit for one. -/
theorem parse_template_iff_isSource (named : name ≠ "")
    (linked : ConfigSchema.isWebLink (trimEndSlashes baseUrl).toList = true)
    (parsed : (Link.Url.parse? (trimEndSlashes baseUrl).toList).isSome = true) :
    (∃ config, Config.parse (template name baseUrl source).compact = .ok config) ↔
      ConfigSchema.isSource (sourceName name source).toList = true := by
  rw [← template_fits_iff named linked]
  simp only [Config.parse_eq_ok, parse?_compact template_printable, Option.some.injEq,
    exists_eq_left', Config.ofJson_eq_ok]
  constructor
  · rintro ⟨config, fits, -⟩
    exact fits
  · intro fits
    obtain ⟨config, reads, checked⟩ := @exists_template name baseUrl source parsed
    exact ⟨config, fits, reads, checked⟩

end Scaffold

namespace Config

open Scaffold

/-- A site whose name holds a letter or digit of ASCII gets an accepted configuration to start
from, whatever its name and its link, unless the name holds others beyond ASCII as well. -/
theorem parse_template_iff {name baseUrl : String}
    (named : ∃ c ∈ name.toList, isAsciiAlphanumeric c = true)
    (linked : ConfigSchema.isWebLink baseUrl.toList = true)
    (parsed : (Link.Url.parse? (trimEndSlashes baseUrl).toList).isSome = true) :
    (∃ config, parse (template name baseUrl none).compact = .ok config) ↔
      ∀ c ∈ lower name.toList, isAlphanumeric c = true → c.toNat < 128 := by
  have nonempty : name ≠ "" := by
    rintro rfl
    obtain ⟨c, member, -⟩ := named
    cases member
  rw [parse_template_iff_isSource nonempty (isWebLink_trimEndSlashes linked parsed) parsed,
    sourceName, Option.getD_none, String.toList_ofList, isSource_slug_iff named]

theorem parse_template_exchange :
    (∃ c ∈ "The Exchange".toList, isAsciiAlphanumeric c = true) ∧
      ConfigSchema.isWebLink "https://exchangebristol.com/".toList = true ∧
      ∃ config, parse (template "The Exchange" "https://exchangebristol.com/" none).compact =
        .ok config := by
  have named : ∃ c ∈ "The Exchange".toList, isAsciiAlphanumeric c = true :=
    ⟨'T', by decide, by decide⟩
  have ascii : (lower "The Exchange".toList).all (·.toNat < 128) = true := by decide +kernel
  refine ⟨named, by decide, ?_⟩
  rw [parse_template_iff named (by decide) (by decide +kernel)]
  exact fun c member _ => of_decide_eq_true (List.all_eq_true.mp ascii c member)

/-- An accented letter is kept in the name of the source, where none may stand. -/
theorem not_parse_template_accented :
    (∃ c ∈ "Café Kino".toList, isAsciiAlphanumeric c = true) ∧
      ConfigSchema.isWebLink "https://cafekino.example".toList = true ∧
      (Link.Url.parse? "https://cafekino.example".toList).isSome = true ∧
      (Link.Url.parse? (trimEndSlashes "https://cafekino.example").toList).isSome = true ∧
      ¬ ∃ config, parse (template "Café Kino" "https://cafekino.example" none).compact =
        .ok config := by
  have named : ∃ c ∈ "Café Kino".toList, isAsciiAlphanumeric c = true :=
    ⟨'C', by decide, by decide⟩
  refine ⟨named, by decide, by decide +kernel, by decide +kernel, ?_⟩
  rw [parse_template_iff_isSource (by decide) (by decide) (by decide +kernel), sourceName,
    Option.getD_none, String.toList_ofList, isSource_slug_iff named]
  intro ascii
  obtain ⟨lowered, letter⟩ := accented_letter
  exact absurd (ascii 'é' (mem_lowerAfter (by decide) (by decide) lowered) letter) (by decide)

end Config

end GigListings
