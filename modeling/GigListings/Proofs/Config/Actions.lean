import GigListings.Proofs.Config.Fields

namespace GigListings

/-! The steps of a workflow are written faithfully. -/

open Json RecordReader

namespace Action.Kind

def required : Kind → List String
  | .navigate => ["url"]
  | .wait => []
  | .click => ["selector"]
  | .scroll => []
  | .extract => ["containerSelector", "fields"]

def shape : Kind → List (String × Schema)
  | .navigate => [("url", ConfigSchema.name), ("waitForLoad", ConfigSchema.truth)]
  | .wait =>
      [("selector", ConfigSchema.name),
        ("condition", .oneOf (WaitCondition.all.map WaitCondition.name)),
        ("timeout", ConfigSchema.whole 1)]
  | .click =>
      [("selector", ConfigSchema.name), ("optional", ConfigSchema.truth),
        ("waitAfter", ConfigSchema.whole 0)]
  | .scroll =>
      [("direction", .oneOf (ScrollDirection.all.map ScrollDirection.name)),
        ("amount", .ofKind .integer), ("waitAfter", ConfigSchema.whole 0)]
  | .extract =>
      [("containerSelector", ConfigSchema.name), ("fields", ConfigSchema.fieldMap),
        ("followUp", ConfigSchema.followUp), ("dateGroups", ConfigSchema.dateGroups)]

end Action.Kind

theorem ConfigSchema.actionOf_eq_nil {kind : Action.Kind} {members : Members} :
    ConfigSchema.actionOf kind (.obj members) = [] ↔
      (∀ name ∈ kind.required, Members.contains members name = true) ∧
      ∀ name schema value, kind.shape.lookup name = some schema → members.get? name = some value →
        schema value = [] := by
  have shaped : Schema.members kind.shape (.obj members) = [] ↔
      ∀ name schema value, kind.shape.lookup name = some schema → members.get? name = some value →
        schema value = [] := by
    apply Schema.members_eq_nil
    cases kind with
    | _ => decide
  rw [← shaped, ← Schema.required_eq_nil]
  cases kind with
  | navigate => simp [actionOf, Schema.all_eq_nil, Action.Kind.required, Action.Kind.shape]
  | wait => simp [actionOf, Schema.required, Action.Kind.required, Action.Kind.shape]
  | click => simp [actionOf, Schema.all_eq_nil, Action.Kind.required, Action.Kind.shape]
  | scroll => simp [actionOf, Schema.required, Action.Kind.required, Action.Kind.shape]
  | extract => simp [actionOf, Schema.all_eq_nil, Action.Kind.required, Action.Kind.shape]

theorem Json.beq_str (first second : String) :
    (Json.str first == .str second) = (first == second) :=
  rfl

theorem Json.Schema.whenMember_eq_nil {name text found : String} {schema : Schema}
    {members : Members}
    (present : members.get? name = some (.str found)) :
    Schema.whenMember name text schema (.obj members) = [] ↔
      (found = text → schema (.obj members) = []) := by
  unfold Schema.whenMember member?
  dsimp only
  rw [present]
  dsimp only
  rw [beq_str]
  by_cases same : found = text
  · simp [same]
  · simp [same]

theorem Action.Kind.name_injective {kind other : Kind} (same : kind.name = other.name) :
    kind = other := by
  revert same
  cases kind with
  | _ => cases other with
    | _ => decide

theorem Action.Kind.mem_all (kind : Kind) : kind ∈ all := by
  cases kind with
  | _ => decide

/-- Of an action with a kind nothing is said but what is said of that kind. -/
theorem ConfigSchema.action_eq_nil {kind : Action.Kind} {members : Members}
    (tagged : members.get? "type" = some (.str kind.name)) :
    ConfigSchema.action (.obj members) = [] ↔
      ConfigSchema.actionOf kind (.obj members) = [] := by
  unfold action
  rw [Schema.all_eq_nil]
  constructor
  · intro each
    have kept := each (.whenMember "type" kind.name (actionOf kind))
      (List.mem_append_right _ (List.mem_map.mpr ⟨kind, kind.mem_all, rfl⟩))
    exact (Schema.whenMember_eq_nil tagged).mp kept rfl
  · intro fits schema member
    rcases List.mem_append.mp member with general | special
    · simp only [List.mem_cons, List.not_mem_nil, or_false] at general
      rcases general with rfl | rfl | rfl
      · exact Schema.ofKind_eq_nil.mpr rfl
      · rw [Schema.required_eq_nil]
        simp [Members.contains, tagged]
      · unfold Schema.members
        simp only [List.flatMap_cons, List.flatMap_nil, tagged, List.append_nil]
        refine List.map_eq_nil_iff.mpr (Schema.defects_eq_nil.mpr ?_)
        cases kind with
        | _ => rfl
    · obtain ⟨other, -, rfl⟩ := List.mem_map.mp special
      refine (Schema.whenMember_eq_nil tagged).mpr fun same => ?_
      rw [← Action.Kind.name_injective same]
      exact fits

theorem Action.Kind.ofTag_eq_ok {tag : Json} {kind : Kind} :
    Kind.ofTag tag = .ok kind ↔ tag = .str kind.name := by
  constructor
  · intro reads
    unfold ofTag at reads
    split at reads
    · split at reads
      · rename_i name found equation
        cases reads
        have named := List.find?_some equation
        rw [of_decide_eq_true named]
      · cases reads
    · cases reads
  · rintro rfl
    cases kind with
    | _ => rfl

theorem Action.Kind.lookup_type (kind : Kind) : kind.shape.lookup "type" = none := by
  cases kind with
  | _ => rfl

theorem Action.restates {action : Action} {depth : Nat} {record : RecordReader α} {type : String}
    {wrap : α → Action} {a : α} (wrapped : wrap a = action)
    (conveys : Conveys action.kind.shape depth record a action.members)
    (readerOfKind : action.kind.reader = fun value => (record.run type value).map wrap)
    (distinct : ("type" :: action.members.map Prod.fst).Nodup)
    (complete : ∀ name ∈ action.kind.required, ∃ value, (name, some value) ∈ action.members) :
    Restates ConfigSchema.action Action.reader (depth + 1) action action.toJson := by
  have entriesDistinct :
      ((("type", some (.str action.kind.name)) :: action.members).map Prod.fst).Nodup := distinct
  have tagged : (written (("type", some (.str action.kind.name)) :: action.members)).get? "type" =
      some (.str action.kind.name) :=
    get?_written entriesDistinct List.mem_cons_self
  have present : ∀ entry ∈ action.members,
      (written (("type", some (.str action.kind.name)) :: action.members)).get? entry.1 = entry.2 :=
    fun entry member => get?_written entriesDistinct (List.mem_cons_of_mem _ member)
  unfold toJson
  refine ⟨?_, ?_, by simp [record_eq_obj], ?_⟩
  · rw [record_eq_obj, ConfigSchema.action_eq_nil tagged, ConfigSchema.actionOf_eq_nil]
    refine ⟨?_, ?_⟩
    · intro name member
      obtain ⟨value, entry⟩ := complete name member
      rw [Members.contains, present _ entry]
      rfl
    · intro name schema value declared found
      have entry := mem_written.mp (Dict.mem_of_get? found)
      rcases List.mem_cons.mp entry with tag | member
      · cases tag
        rw [Kind.lookup_type] at declared
        cases declared
      · exact (conveys.suits _ member).fits schema value declared rfl
  · have tag : Kind.ofTag (.str action.kind.name) = .ok action.kind := Kind.ofTag_eq_ok.mpr rfl
    have reads := conveys.reads _ present
    rw [record_eq_obj, Action.reader]
    simp only [tagged, tag, Except.bind, readerOfKind]
    rw [(run_obj record type _ a).mpr (reads _ _), ← wrapped]
    rfl
  · refine printable_record entriesDistinct ?_
    intro entry member value same
    rcases List.mem_cons.mp member with rfl | member
    · cases same
      trivial
    · exact (conveys.suits entry member).printable value same

/-! The kinds of actions. -/

theorem Json.eq_str_of_beq {value : Json} {text : String} (same : (value == .str text) = true) :
    value = .str text := by
  cases value with
  | str found =>
      rw [beq_str, beq_iff_eq] at same
      rw [same]
  | _ => cases same

theorem Json.faithful_variant (depth : Nat) (all : List α) (name : α → String) :
    Faithful depth (.oneOf (all.map name)) (Reader.variant (all.map fun x => (name x, x)))
      fun x => .str (name x) := by
  apply faithful_of_same
  intro found x fits reads
  obtain ⟨text, -, equation⟩ := List.any_eq_true.mp (Schema.defects_eq_nil.mp fits)
  rw [eq_str_of_beq equation] at reads ⊢
  unfold Reader.variant Reader.variant.named at reads
  dsimp only at reads
  split at reads
  · rename_i value found
    cases reads
    obtain ⟨y, -, pair⟩ := List.mem_map.mp (Dict.mem_of_get? found)
    cases pair
    exact ⟨rfl, by simp⟩
  · cases reads

section Kinds

variable {depth : Nat} {members : Members}

theorem NavigateAction.restates {action : NavigateAction}
    (suitable : Suitable Action.Kind.navigate.shape depth members)
    (reads : NavigateAction.reader (.obj members) = .ok action) :
    Restates ConfigSchema.action Action.reader (depth + 1) (.navigate action)
      (Action.navigate action).toJson := by
  unfold reader at reads
  rw [run_obj] at reads
  simp only [seq_read, map_read, member_read, optional_read] at reads
  obtain ⟨_, waitForLoad, ⟨url, takesUrl, rfl⟩, takesWait, rfl⟩ := reads
  refine Action.restates rfl (((Conveys.member suitable rfl (faithful_text _ _) takesUrl).map
    NavigateAction.mk).seq (.optional suitable rfl (faithful_truth _ _) takesWait)) rfl ?_ ?_
  · simp [Action.members]
  · simp [Action.kind, Action.Kind.required, Action.members]

theorem WaitAction.restates {action : WaitAction}
    (suitable : Suitable Action.Kind.wait.shape depth members)
    (reads : WaitAction.reader (.obj members) = .ok action) :
    Restates ConfigSchema.action Action.reader (depth + 1) (.wait action)
      (Action.wait action).toJson := by
  unfold reader at reads
  rw [run_obj] at reads
  simp only [seq_read, map_read, withDefault_read, optional_read] at reads
  obtain ⟨_, timeout, ⟨_, condition, ⟨selector, takesSelector, rfl⟩, takesCondition, rfl⟩,
    takesTimeout, rfl⟩ := reads
  refine Action.restates rfl ((((Conveys.optional suitable rfl (faithful_text _ _)
    takesSelector).map WaitAction.mk).seq
    (.withDefault suitable rfl (faithful_variant _ _ _) ⟨rfl, rfl, by simp, trivial⟩
      takesCondition)).seq
    (.optional suitable rfl (faithful_word64 _ _) takesTimeout)) rfl ?_ ?_
  · simp [Action.members]
  · simp [Action.kind, Action.Kind.required, Action.members]

theorem ClickAction.restates {action : ClickAction}
    (suitable : Suitable Action.Kind.click.shape depth members)
    (reads : ClickAction.reader (.obj members) = .ok action) :
    Restates ConfigSchema.action Action.reader (depth + 1) (.click action)
      (Action.click action).toJson := by
  unfold reader at reads
  rw [run_obj] at reads
  simp only [seq_read, map_read, member_read, withDefault_read, optional_read] at reads
  obtain ⟨_, waitAfter, ⟨_, isOptional, ⟨selector, takesSelector, rfl⟩, takesOptional, rfl⟩,
    takesWait, rfl⟩ := reads
  refine Action.restates rfl ((((Conveys.member suitable rfl (faithful_text _ _) takesSelector).map
    ClickAction.mk).seq (.flag "optional" rfl rfl isOptional)).seq
    (.optional suitable rfl (faithful_word64 _ _) takesWait)) rfl ?_ ?_
  · simp [Action.members]
  · simp [Action.kind, Action.Kind.required, Action.members]

theorem ScrollAction.restates {action : ScrollAction}
    (suitable : Suitable Action.Kind.scroll.shape depth members)
    (reads : ScrollAction.reader (.obj members) = .ok action) :
    Restates ConfigSchema.action Action.reader (depth + 1) (.scroll action)
      (Action.scroll action).toJson := by
  unfold reader at reads
  rw [run_obj] at reads
  simp only [seq_read, map_read, withDefault_read, optional_read] at reads
  obtain ⟨_, waitAfter, ⟨_, amount, ⟨direction, takesDirection, rfl⟩, takesAmount, rfl⟩, takesWait,
    rfl⟩ := reads
  refine Action.restates rfl ((((Conveys.withDefault suitable rfl (faithful_variant _ _ _)
      ⟨rfl, rfl, by simp, trivial⟩ takesDirection).map ScrollAction.mk).seq
    (.optional suitable rfl (faithful_signed64 _ _) takesAmount)).seq
    (.optional suitable rfl (faithful_word64 _ _) takesWait)) rfl ?_ ?_
  · simp [Action.members]
  · simp [Action.kind, Action.Kind.required, Action.members]

theorem DateGroups.faithful (depth : Nat) :
    Faithful depth ConfigSchema.dateGroups DateGroups.reader DateGroups.toJson := by
  apply faithful_record ["headingSelector", "eventSelector", "format"]
  · exact fun _ => rfl
  · decide
  · decide
  · simp
  intro depth members groups shape place suitable read
  simp only [seq_read, map_read, member_read, optional_read] at read
  obtain ⟨_, format, ⟨_, event, ⟨heading, takesHeading, rfl⟩, takesEvent, rfl⟩, takesFormat, rfl⟩ :=
    read
  exact (((Conveys.member suitable rfl (faithful_text _ _) takesHeading).map DateGroups.mk).seq
    (.member suitable rfl (faithful_text _ _) takesEvent)).seq
    (.optional suitable rfl (faithful_text _ _) takesFormat)

theorem ExtractAction.restates {action : ExtractAction}
    (suitable : Suitable Action.Kind.extract.shape depth members)
    (reads : ExtractAction.reader (.obj members) = .ok action) :
    Restates ConfigSchema.action Action.reader (depth + 1) (.extract action)
      (Action.extract action).toJson := by
  unfold reader at reads
  rw [run_obj] at reads
  simp only [seq_read, map_read, member_read, optional_read] at reads
  obtain ⟨_, groups, ⟨_, followUp, ⟨_, fields, ⟨container, takesContainer, rfl⟩, takesFields, rfl⟩,
    takesVisit, rfl⟩, takesGroups, rfl⟩ := reads
  refine Action.restates rfl (((((Conveys.member suitable rfl (faithful_text _ _)
    takesContainer).map ExtractAction.mk).seq
    (.member suitable rfl (faithful_fieldMap _) takesFields)).seq
    (.optional suitable rfl (FollowUp.faithful _) takesVisit)).seq
    (.optional suitable rfl (DateGroups.faithful _) takesGroups)) rfl ?_ ?_
  · simp [Action.members]
  · simp [Action.kind, Action.Kind.required, Action.members]

end Kinds

theorem Action.faithful (depth : Nat) :
    Faithful depth ConfigSchema.action Action.reader Action.toJson := by
  intro found action fits reads printable
  have object := Schema.all_eq_nil.mp fits (.ofKind .object) (by simp)
  obtain ⟨members, rfl⟩ := Schema.exists_obj_of_hasKind (Schema.ofKind_eq_nil.mp object)
  obtain ⟨depth, rfl⟩ := exists_succ_of_printable printable
  unfold Action.reader at reads
  dsimp only at reads
  split at reads
  · rename_i tag present
    obtain ⟨kind, isTag, reads⟩ := Except.bind_eq_ok.mp reads
    rw [Kind.ofTag_eq_ok.mp isTag] at present
    have declared := ConfigSchema.actionOf_eq_nil.mp ((ConfigSchema.action_eq_nil present).mp fits)
    have suitable : Suitable kind.shape depth members :=
      ⟨declared.2, fun name value found =>
        (printable_obj.mp printable).2 _ (Dict.mem_of_get? found)⟩
    cases kind with
    | navigate =>
        obtain ⟨inner, read, rfl⟩ := Except.map_eq_ok.mp reads
        exact NavigateAction.restates suitable read
    | wait =>
        obtain ⟨inner, read, rfl⟩ := Except.map_eq_ok.mp reads
        exact WaitAction.restates suitable read
    | click =>
        obtain ⟨inner, read, rfl⟩ := Except.map_eq_ok.mp reads
        exact ClickAction.restates suitable read
    | scroll =>
        obtain ⟨inner, read, rfl⟩ := Except.map_eq_ok.mp reads
        exact ScrollAction.restates suitable read
    | extract =>
        obtain ⟨inner, read, rfl⟩ := Except.map_eq_ok.mp reads
        exact ExtractAction.restates suitable read
  · cases reads

end GigListings
