import GigListings.Proofs.Config.Faithful
import GigListings.Proofs.Except

namespace GigListings

/-! Texts, flags, numbers and lists of names are written as they are read. -/

open Json

namespace Json

variable (depth : Nat) (schema : Schema)

theorem faithful_text : Faithful depth schema Reader.text .str := by
  apply faithful_of_same
  intro found x fits reads
  cases found with
  | str text =>
      cases reads
      exact ⟨rfl, by simp⟩
  | _ => cases reads

theorem faithful_truth : Faithful depth schema Reader.truth .bool := by
  apply faithful_of_same
  intro found x fits reads
  cases found with
  | bool value =>
      cases reads
      exact ⟨rfl, by simp⟩
  | _ => cases reads

theorem natural_eq_ok {type : String} {bound n : Nat} {found : Json}
    (reads : Reader.natural type bound found = .ok n) : found = .int n ∧ n < bound := by
  unfold Reader.natural at reads
  split at reads
  · split at reads
    · rename_i value bounds
      cases reads
      rw [Int.toNat_of_nonneg bounds.1]
      exact ⟨rfl, by omega⟩
    · cases reads
  · cases reads

theorem faithful_natural {α : Type} {type : String} {bound : Nat} {ofNat : Nat → α}
    {write : α → Json}
    (inverse : ∀ n < bound, write (ofNat n) = .int n) :
    Faithful depth schema (fun value => (Reader.natural type bound value).map ofNat) write := by
  apply faithful_of_same
  intro found x fits reads
  cases natural : Reader.natural type bound found with
  | error fault =>
      rw [natural] at reads
      cases reads
  | ok n =>
      rw [natural] at reads
      cases reads
      obtain ⟨rfl, small⟩ := natural_eq_ok natural
      exact ⟨inverse n small, by simp⟩

theorem faithful_word32 : Faithful depth schema Reader.word32 number32 := by
  apply faithful_natural
  intro n small
  rw [number32, UInt32.toNat_ofNat', Nat.mod_eq_of_lt small]

theorem number64_ofNat {n : Nat} (small : n < UInt64.size) :
    number64 (UInt64.ofNat n) = .int n := by
  rw [number64, UInt64.toNat_ofNat', Nat.mod_eq_of_lt small]

theorem faithful_word64 : Faithful depth schema Reader.word64 number64 :=
  faithful_natural depth schema fun _ small => number64_ofNat small

theorem faithful_size : Faithful depth schema Reader.size number64 :=
  faithful_natural depth schema fun _ small => number64_ofNat small

theorem faithful_signed64 :
    Faithful depth schema Reader.signed64 fun amount => .int amount.toInt := by
  apply faithful_of_same
  intro found x fits reads
  cases found with
  | int value =>
      unfold Reader.signed64 at reads
      dsimp only at reads
      split at reads
      · rename_i bounds
        cases reads
        refine ⟨?_, by simp⟩
        have least : Int64.minValue.toInt = -2 ^ 63 := rfl
        have greatest : Int64.maxValue.toInt = 2 ^ 63 - 1 := rfl
        rw [Int64.toInt_ofInt_of_le (by omega) (by omega)]
      · cases reads
  | _ => cases reads

theorem text_eq_ok {item : Json} {text : String} (reads : Reader.text item = .ok text) :
    item = .str text := by
  cases item with
  | str found =>
      cases reads
      rfl
  | _ => cases reads

theorem map_str_of_texts {items : List Json} {texts : List String}
    (reads : items.mapM Reader.text = .ok texts) : texts.map str = items := by
  have steps := Except.mapM_eq_ok.mp reads
  clear reads
  induction steps with
  | nil => rfl
  | cons first _ induction => rw [List.map_cons, induction, text_eq_ok first]

theorem mapM_text_strings (texts : List String) : (texts.map str).mapM Reader.text = .ok texts := by
  induction texts with
  | nil => rfl
  | cons text texts induction =>
      rw [List.map_cons, List.mapM_cons, induction]
      rfl

theorem faithful_texts : Faithful depth schema (Reader.list Reader.text) strings := by
  apply faithful_of_same
  intro found texts fits reads
  cases found with
  | arr items =>
      rw [strings, map_str_of_texts reads]
      exact ⟨rfl, by simp⟩
  | _ => cases reads

/-! Defaults. -/

theorem restates_natural64 {type : String} {value : UInt64} (fits : schema (number64 value) = []) :
    Restates schema (fun found => (Reader.natural type UInt64.size found).map UInt64.ofNat) depth
      value (number64 value) := by
  have small := value.toNat_lt
  refine ⟨fits, ?_, by simp [number64], ?_⟩
  · simp only [Reader.natural, number64]
    rw [if_pos ⟨by omega, by simp only [UInt64.size]; omega⟩, Int.toNat_natCast, Except.map,
      UInt64.ofNat_toNat]
  · rw [number64, Printable]
    omega

theorem restates_word64 {value : UInt64} (fits : schema (number64 value) = []) :
    Restates schema Reader.word64 depth value (number64 value) :=
  restates_natural64 depth schema fits

theorem restates_size {value : UInt64} (fits : schema (number64 value) = []) :
    Restates schema Reader.size depth value (number64 value) :=
  restates_natural64 depth schema fits

theorem restates_word32 {value : UInt32} (fits : schema (number32 value) = []) :
    Restates schema Reader.word32 depth value (number32 value) := by
  have small := value.toNat_lt
  refine ⟨fits, ?_, by simp [number32], ?_⟩
  · simp only [Reader.word32, Reader.natural, number32]
    rw [if_pos ⟨by omega, by simp only [UInt32.size]; omega⟩, Int.toNat_natCast, Except.map,
      UInt32.ofNat_toNat]
  · rw [number32, Printable]
    omega

theorem restates_truth {value : Bool} (fits : schema (.bool value) = []) :
    Restates schema Reader.truth depth value (.bool value) :=
  ⟨fits, rfl, by simp, trivial⟩

theorem restates_text {text : String} (fits : schema (.str text) = []) :
    Restates schema Reader.text depth text (.str text) :=
  ⟨fits, rfl, by simp, trivial⟩

theorem restates_texts {texts : List String}
    (fits : schema (strings texts) = []) :
    Restates schema (Reader.list Reader.text) (depth + 1) texts (strings texts) := by
  refine ⟨fits, ?_, by simp [strings], ?_⟩
  · exact mapM_text_strings texts
  · rw [strings, printable_arr]
    intro item member
    obtain ⟨text, -, rfl⟩ := List.mem_map.mp member
    trivial

end Json

/-! The blocks of a configuration beside its workflow and mapping are written faithfully. -/

open RecordReader

theorem Site.faithful (depth : Nat) : Faithful depth ConfigSchema.site Site.reader Site.toJson := by
  apply faithful_record ["name", "source", "baseUrl", "timezone"]
  · exact fun _ => rfl
  · decide
  · decide
  · simp
  intro depth members site shape place suitable read
  simp only [seq_read, map_read, member_read, optional_read] at read
  obtain ⟨_, timezone, ⟨_, baseUrl, ⟨_, source, ⟨name, takesName, rfl⟩, takesSource, rfl⟩,
    takesBaseUrl, rfl⟩, takesTimezone, rfl⟩ := read
  exact ((((Conveys.member suitable rfl (faithful_text _ _) takesName).map Site.mk).seq
    (.member suitable rfl (faithful_text _ _) takesSource)).seq
    (.member suitable rfl (faithful_text _ _) takesBaseUrl)).seq
    (.optional suitable rfl (faithful_text _ _) takesTimezone)

theorem Viewport.toJson_eq_record : toJson = fun viewport =>
    record [("width", some (number32 viewport.width)),
      ("height", some (number32 viewport.height))] :=
  rfl

theorem Viewport.faithful (depth : Nat) :
    Faithful depth ConfigSchema.viewport Viewport.reader Viewport.toJson := by
  rw [toJson_eq_record]
  apply faithful_record ["width", "height"]
  · exact fun _ => rfl
  · decide
  · decide
  · simp
  intro depth members viewport shape place suitable read
  simp only [seq_read, map_read, member_read] at read
  obtain ⟨_, height, ⟨width, takesWidth, rfl⟩, takesHeight, rfl⟩ := read
  exact ((Conveys.member suitable rfl (faithful_word32 _ _) takesWidth).map Viewport.mk).seq
    (.member suitable rfl (faithful_word32 _ _) takesHeight)

theorem Viewport.restates_default (depth : Nat) :
    Restates ConfigSchema.viewport Viewport.reader (depth + 1) default
      (default : Viewport).toJson := by
  rw [toJson_eq_record]
  refine restates_record (((Conveys.one_of_restates rfl none
    (restates_word32 depth (ConfigSchema.whole 1) (by decide))).map Viewport.mk).seq
    (.one_of_restates rfl none (restates_word32 depth (ConfigSchema.whole 1) (by decide)))) ?_ ?_ ?_
  · decide
  · decide
  · simp

theorem BrowserOptions.faithful (depth : Nat) :
    Faithful (depth + 2) ConfigSchema.browser BrowserOptions.reader BrowserOptions.toJson := by
  apply faithful_record_succ ["viewport", "timeout", "userAgent", "headless"]
  · exact fun _ => rfl
  · decide
  · decide
  · simp
  intro members options shape place suitable read
  simp only [seq_read, map_read, withDefault_read, optional_read] at read
  obtain ⟨_, headless, ⟨_, userAgent, ⟨_, timeout, ⟨viewport, takesViewport, rfl⟩, takesTimeout,
    rfl⟩, takesUserAgent, rfl⟩, takesHeadless, rfl⟩ := read
  exact ((((Conveys.withDefault suitable rfl (Viewport.faithful _) (Viewport.restates_default depth)
      takesViewport).map BrowserOptions.mk).seq
    (.withDefault suitable rfl (faithful_word64 _ _) (restates_word64 _ _ (by decide))
      takesTimeout)).seq
    (.optional suitable rfl (faithful_text _ _) takesUserAgent)).seq
    (.withDefault suitable rfl (faithful_truth _ _) (restates_truth _ _ (by decide)) takesHeadless)

theorem BrowserOptions.restates_default (depth : Nat) :
    Restates ConfigSchema.browser BrowserOptions.reader (depth + 2) default
      (default : BrowserOptions).toJson := by
  refine restates_record ((((Conveys.one_of_restates rfl (some default)
    (Viewport.restates_default depth)).map BrowserOptions.mk).seq
    (.one_of_restates rfl (some 30000) (restates_word64 _ (ConfigSchema.whole 1) (by decide)))).seq
    (.absent "userAgent" (Reader.option Reader.text) none) |>.seq
    (.one_of_restates rfl (some true) (restates_truth _ ConfigSchema.truth (by decide)))) ?_ ?_ ?_
  · decide
  · decide
  · simp

theorem RateLimit.faithful (depth : Nat) :
    Faithful depth ConfigSchema.rateLimit RateLimit.reader RateLimit.toJson := by
  apply faithful_record ["delayBetweenRequests", "maxConcurrency", "respectRobots"]
  · exact fun _ => rfl
  · decide
  · decide
  · simp
  intro depth members limit shape place suitable read
  simp only [seq_read, map_read, withDefault_read, optional_read] at read
  obtain ⟨_, respectRobots, ⟨_, maxConcurrency, ⟨delay, takesDelay, rfl⟩, takesConcurrency, rfl⟩,
    takesRobots, rfl⟩ := read
  exact (((Conveys.optional suitable rfl (faithful_word64 _ _) takesDelay).map RateLimit.mk).seq
    (.withDefault suitable rfl (faithful_word32 _ _) (restates_word32 _ _ (by decide))
      takesConcurrency)).seq
    (.withDefault suitable rfl (faithful_truth _ _) (restates_truth _ _ (by decide)) takesRobots)

theorem RateLimit.restates_default (depth : Nat) :
    Restates ConfigSchema.rateLimit RateLimit.reader (depth + 1) default
      (default : RateLimit).toJson := by
  refine restates_record (((Conveys.one_of_restates rfl (some none)
    (restates_word64 _ (ConfigSchema.whole 0) (by decide)).option).map RateLimit.mk).seq
    (.one_of_restates rfl (some 1) (restates_word32 _ (ConfigSchema.whole 1) (by decide))) |>.seq
    (.one_of_restates rfl (some true) (restates_truth _ ConfigSchema.truth (by decide)))) ?_ ?_ ?_
  · decide
  · decide
  · simp

theorem ValidationRules.faithful (depth : Nat) :
    Faithful (depth + 2) ConfigSchema.validation ValidationRules.reader ValidationRules.toJson := by
  apply faithful_record_succ ["minEventsExpected", "maxEventsExpected", "required"]
  · exact fun _ => rfl
  · decide
  · decide
  · simp
  intro members rules shape place suitable read
  simp only [seq_read, map_read, withDefault_read, optional_read] at read
  obtain ⟨_, required, ⟨_, most, ⟨least, takesLeast, rfl⟩, takesMost, rfl⟩, takesRequired,
    rfl⟩ := read
  exact (((Conveys.optional suitable rfl (faithful_size _ _) takesLeast).map ValidationRules.mk).seq
    (.optional suitable rfl (faithful_size _ _) takesMost)).seq
    (.withDefault suitable rfl (faithful_texts _ _) (restates_texts _ _ (by decide)) takesRequired)

theorem ValidationRules.restates_default (depth : Nat) :
    Restates ConfigSchema.validation ValidationRules.reader (depth + 2) default
      (default : ValidationRules).toJson := by
  refine restates_record (((Conveys.one_of_restates rfl (some none)
    (restates_size _ (ConfigSchema.whole 0) (by decide)).option).map ValidationRules.mk).seq
    (.absent "maxEventsExpected" (Reader.option Reader.size) none) |>.seq
    (.one_of_restates rfl (some []) (restates_texts _ _ (by decide)))) ?_ ?_ ?_
  · decide
  · decide
  · simp

theorem DebugOptions.faithful (depth : Nat) :
    Faithful depth ConfigSchema.debug DebugOptions.reader DebugOptions.toJson := by
  apply faithful_record ["screenshots", "html", "outputDir"]
  · exact fun _ => rfl
  · decide
  · decide
  · simp
  intro depth members options shape place suitable read
  simp only [seq_read, map_read, withDefault_read, optional_read] at read
  obtain ⟨_, outputDir, ⟨_, html, ⟨screenshots, takesScreenshots, rfl⟩, takesHtml, rfl⟩, takesDir,
    rfl⟩ := read
  exact (((Conveys.withDefault suitable rfl (faithful_truth _ _) (restates_truth _ _ (by decide))
      takesScreenshots).map DebugOptions.mk).seq
    (.withDefault suitable rfl (faithful_truth _ _) (restates_truth _ _ (by decide)) takesHtml)).seq
    (.optional suitable rfl (faithful_text _ _) takesDir)

theorem DebugOptions.restates_default (depth : Nat) :
    Restates ConfigSchema.debug DebugOptions.reader (depth + 1) default
      (default : DebugOptions).toJson := by
  refine restates_record (((Conveys.one_of_restates rfl (some false)
    (restates_truth _ ConfigSchema.truth (by decide))).map DebugOptions.mk).seq
    (.one_of_restates rfl (some false) (restates_truth _ ConfigSchema.truth (by decide))) |>.seq
    (.absent "outputDir" (Reader.option Reader.text) none)) ?_ ?_ ?_
  · decide
  · decide
  · simp

end GigListings
