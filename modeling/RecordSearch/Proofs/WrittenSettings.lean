import RecordSearch.Derive.Settings
import RecordSearch.Proofs.Run

/-!
# What written settings come to

A setting leaves its field out, or gives it a label that is not blank or another name; anything else
is an error of its own.  Some settings are accepted if each of them is and if what they leave out
gets no label; then the last label and the last name count.  If they are refused, the error is the
one of the first setting that is wrong by itself.  Of several attributes about the search the first
one decides.
-/

namespace RecordSearch.Derive

namespace Setting

/-- The setting leaves out, gives a label that is not blank, or gives a name. -/
def IsProper : Setting → Prop
  | .word name => name = "skip".toList
  | .assignment name (.string text) =>
      name = "label".toList ∧ Text.trim text ≠ [] ∨ name = "rename".toList
  | .assignment _ .other => False
  | .list _ => False

inductive Fault : Setting → DeriveError → Prop where
  | word {name : Text} :
      name ≠ "skip".toList →
      Fault (.word name) .unknownSetting
  | list {name : Text} :
      Fault (.list name) .unknownSetting
  | value {name : Text} :
      Fault (.assignment name .other) .notString
  | label {name text : Text} :
      name = "label".toList →
      Text.trim text = [] →
      Fault (.assignment name (.string text)) .blankLabel
  | name {name text : Text} :
      name ≠ "label".toList →
      name ≠ "rename".toList →
      Fault (.assignment name (.string text)) .unknownName

/-- The text that the setting assigns to a name. -/
def assigned? (key : Text) : Setting → Option Text
  | .assignment name (.string text) => if name = key then some text else none
  | _ => none

def isSkip : Setting → Bool
  | .word name => name == "skip".toList
  | _ => false

end Setting

namespace Settings

variable {settings after : Settings} {setting : Setting} {written front back : List Setting}
  {reason : DeriveError} {place : Text}

/-- What some settings come to: the last label and the last name count. -/
def summary (written : List Setting) : Settings where
  label := (written.filterMap (Setting.assigned? "label".toList)).getLast?
  rename := (written.filterMap (Setting.assigned? "rename".toList)).getLast?
  skip := written.any Setting.isSkip

/-- What these settings and others behind them come to. -/
def followedBy (settings behind : Settings) : Settings where
  label := behind.label.or settings.label
  rename := behind.rename.or settings.rename
  skip := settings.skip || behind.skip

/-- Each setting is proper, and what is left out has no label. -/
structure Accepted (written : List Setting) : Prop where
  proper : ∀ setting ∈ written, setting.IsProper
  unlabelled : (summary written).skip = true → (summary written).label = none

/-- Nothing but a name is given. -/
structure RenamesOnly (settings : Settings) : Prop where
  unlabelled : settings.label = none
  kept : settings.skip = false

section Sums

theorem followedBy_assoc (settings between behind : Settings) :
    (settings.followedBy between).followedBy behind =
      settings.followedBy (between.followedBy behind) := by
  simp [followedBy, Option.or_assoc, Bool.or_assoc]

theorem followedBy_empty (settings : Settings) : settings.followedBy {} = settings := by
  simp [followedBy]

theorem empty_followedBy (settings : Settings) :
    ({} : Settings).followedBy settings = settings := by
  simp [followedBy]

theorem summary_append (front back : List Setting) :
    summary (front ++ back) = (summary front).followedBy (summary back) := by
  simp [summary, followedBy, List.filterMap_append, List.getLast?_append]

theorem summary_cons (setting : Setting) (written : List Setting) :
    summary (setting :: written) = (summary [setting]).followedBy (summary written) :=
  summary_append [setting] written

end Sums

section Adding

theorem add_of_isProper (proper : setting.IsProper) :
    settings.add setting = .ok (settings.followedBy (summary [setting])) := by
  have skipped : settings.followedBy { skip := true } = { settings with skip := true } := by
    simp [followedBy]
  match setting, proper with
  | .word _, skips =>
      subst skips
      exact congrArg Except.ok skipped.symm
  | .assignment _ (.string text), .inl labels =>
      obtain ⟨rfl, visible⟩ := labels
      have labelled : settings.followedBy { label := some text } =
          { settings with label := some text } := by
        simp [followedBy]
      rw [add, if_pos rfl, if_neg visible]
      exact congrArg Except.ok labelled.symm
  | .assignment _ (.string text), .inr renames =>
      subst renames
      have renamed : settings.followedBy { rename := some text } =
          { settings with rename := some text } := by
        simp [followedBy]
      exact congrArg Except.ok renamed.symm

theorem add_of_fault (fault : setting.Fault reason) : settings.add setting = .error reason := by
  cases fault with
  | word other => rw [add, if_neg other]
  | list => rfl
  | value => rfl
  | label labels blank => rw [add, if_pos labels, if_pos blank]
  | name unlabelled unnamed => rw [add, if_neg unlabelled, if_neg unnamed]

theorem exists_fault (improper : ¬setting.IsProper) : ∃ reason, setting.Fault reason := by
  match setting with
  | .word _ => exact ⟨_, .word improper⟩
  | .list _ => exact ⟨_, .list⟩
  | .assignment _ .other => exact ⟨_, .value⟩
  | .assignment name (.string text) =>
      obtain ⟨unlabelled, unnamed⟩ := not_or.1 improper
      by_cases labels : name = "label".toList
      · exact ⟨_, .label labels (Decidable.not_not.1 fun visible => unlabelled ⟨labels, visible⟩)⟩
      · exact ⟨_, .name labels unnamed⟩

theorem add_eq_ok_iff :
    settings.add setting = .ok after ↔
      setting.IsProper ∧ settings.followedBy (summary [setting]) = after := by
  by_cases proper : setting.IsProper
  · rw [add_of_isProper proper, Except.ok.injEq, iff_true_intro proper, true_and]
  · obtain ⟨reason, fault⟩ := exists_fault proper
    simp [add_of_fault fault, proper]

theorem add_eq_error_iff : settings.add setting = .error reason ↔ setting.Fault reason := by
  refine ⟨fun run => ?_, add_of_fault⟩
  by_cases proper : setting.IsProper
  · cases (add_of_isProper proper).symm.trans run
  · obtain ⟨other, fault⟩ := exists_fault proper
    cases (add_of_fault fault).symm.trans run
    exact fault

theorem addAll_cons (settings : Settings) (setting : Setting) (written : List Setting) :
    settings.addAll (setting :: written) = settings.add setting >>= (·.addAll written) := by
  rw [addAll]
  cases settings.add setting <;> rfl

theorem addAll_eq_ok_iff :
    settings.addAll written = .ok after ↔
      (∀ setting ∈ written, setting.IsProper) ∧ settings.followedBy (summary written) = after := by
  induction written generalizing settings with
  | nil =>
      rw [addAll, Except.ok.injEq, show summary [] = {} from rfl, followedBy_empty]
      exact (and_iff_right (List.forall_mem_nil _)).symm
  | cons setting written induction =>
      rw [addAll_cons, Run.bind_eq_ok_iff, List.forall_mem_cons, summary_cons,
        ← followedBy_assoc]
      simp only [add_eq_ok_iff, induction, and_assoc, exists_and_left, exists_eq_left']

theorem addAll_eq_error_iff :
    settings.addAll written = .error reason ↔ First Setting.Fault written reason := by
  induction written generalizing settings with
  | nil => simp [addAll, First.nil_iff]
  | cons setting written induction =>
      have succeeds : (∃ after, settings.add setting = .ok after) ↔
          ∀ other, ¬setting.Fault other := by
        rw [Run.isOk_iff_forall_ne_error]
        exact forall_congr' fun other => not_congr add_eq_error_iff
      rw [addAll_cons, Run.bind_eq_error_iff, First.cons_iff, add_eq_error_iff, ← succeeds]
      simp only [induction, exists_and_right]

theorem check_eq_ok_iff :
    settings.check = .ok after ↔
      (settings.skip = true → settings.label = none) ∧ settings = after := by
  rw [check]
  split
  case isTrue both =>
    obtain ⟨skips, labelled⟩ := both
    have unlike : settings.label ≠ none := Option.isSome_iff_ne_none.1 labelled
    simp [skips, unlike]
  case isFalse apart =>
    have unlabelled : settings.skip = true → settings.label = none := fun skips =>
      Option.not_isSome_iff_eq_none.1 fun labelled => apart ⟨skips, labelled⟩
    rw [Except.ok.injEq, iff_true_intro unlabelled, true_and]

theorem check_eq_error_iff :
    settings.check = .error reason ↔
      settings.skip = true ∧ settings.label ≠ none ∧ .skippedLabel = reason := by
  rw [check, ← Option.isSome_iff_ne_none, ← and_assoc]
  split
  case isTrue both => simp [both]
  case isFalse apart => simp [apart]

theorem renamesOnly_iff :
    settings.RenamesOnly ↔ ¬(settings.label.isSome = true ∨ settings.skip = true) := by
  rw [not_or, Option.not_isSome_iff_eq_none, Bool.not_eq_true]
  exact ⟨fun only => ⟨only.unlabelled, only.kept⟩, fun both => ⟨both.1, both.2⟩⟩

theorem renameOnly_eq_ok_iff {rename : Option Text} :
    settings.renameOnly place = .ok rename ↔
      settings.RenamesOnly ∧ settings.rename = rename := by
  rw [renameOnly, renamesOnly_iff]
  split
  case isTrue more => simp [more]
  case isFalse none => simp [none]

theorem renameOnly_eq_error_iff :
    settings.renameOnly place = .error reason ↔
      ¬settings.RenamesOnly ∧ .renameOnly place = reason := by
  rw [renameOnly, renamesOnly_iff, Decidable.not_not]
  split
  case isTrue more => simp [more]
  case isFalse none => simp [none]

end Adding

end Settings

section Attributes

variable {attributes : List Attribute} {written : Attribute} {list : List Setting}
  {settings : Settings} {reason : DeriveError}

inductive Attribute.Fault (written : Attribute) : DeriveError → Prop where
  | bare :
      written.arguments = .bare →
      Fault written .bareAttribute
  | assigned :
      written.arguments = .assigned →
      Fault written .assignedAttribute
  | setting {list : List Setting} {reason : DeriveError} :
      written.settings = some list →
      First Setting.Fault list reason →
      Fault written reason
  | skippedLabel {list : List Setting} :
      written.settings = some list →
      (∀ setting ∈ list, setting.IsProper) →
      (Settings.summary list).skip = true →
      (Settings.summary list).label ≠ none →
      Fault written .skippedLabel

/-- The first attribute that is about the search. -/
def searchAttribute? (attributes : List Attribute) : Option Attribute :=
  attributes.find? fun written => written.path == "search".toList

/-- The settings in the first attribute about the search, if it lists any. -/
def givenSettings (attributes : List Attribute) : List Setting :=
  ((searchAttribute? attributes).bind (·.settings)).getD []

/-- The first attribute about the search, if there is one, lists settings that are accepted. -/
def AttributesValid (attributes : List Attribute) : Prop :=
  ∀ written, searchAttribute? attributes = some written →
    ∃ list, written.settings = some list ∧ Settings.Accepted list

/-- What is wrong with the first attribute about the search. -/
def AttributesFault (attributes : List Attribute) (reason : DeriveError) : Prop :=
  ∃ written, searchAttribute? attributes = some written ∧ written.Fault reason

theorem Attribute.settings_eq_some_iff :
    written.settings = some list ↔ written.arguments = .list list := by
  rw [settings]
  cases written.arguments <;> simp

theorem Attribute.fault_iff_of_unlisted (unlisted : written.settings = none) :
    written.Fault reason ↔
      (written.arguments = .bare ∧ reason = .bareAttribute) ∨
        (written.arguments = .assigned ∧ reason = .assignedAttribute) := by
  constructor
  · intro fault
    cases fault with
    | bare form => exact .inl ⟨form, rfl⟩
    | assigned form => exact .inr ⟨form, rfl⟩
    | setting listed | skippedLabel listed => cases unlisted.symm.trans listed
  · rintro (⟨form, rfl⟩ | ⟨form, rfl⟩)
    · exact .bare form
    · exact .assigned form

theorem ofAttribute_eq_bind (listed : written.settings = some list) :
    Settings.ofAttribute written = ({} : Settings).addAll list >>= Settings.check := by
  rw [Settings.ofAttribute, Attribute.settings_eq_some_iff.1 listed]
  dsimp only
  cases ({} : Settings).addAll list <;> rfl

theorem ofAttribute_eq_ok_iff :
    Settings.ofAttribute written = .ok settings ↔
      ∃ list, written.settings = some list ∧ Settings.Accepted list ∧
        Settings.summary list = settings := by
  cases form : written.arguments with
  | bare | assigned => simp [Settings.ofAttribute, Attribute.settings, form]
  | list list =>
      have listed := Attribute.settings_eq_some_iff.2 form
      rw [ofAttribute_eq_bind listed, listed, Run.bind_eq_ok_iff]
      simp only [Settings.addAll_eq_ok_iff, Settings.empty_followedBy, Settings.check_eq_ok_iff,
        Option.some.injEq, exists_eq_left']
      constructor
      · rintro ⟨_, ⟨proper, rfl⟩, unlabelled, same⟩
        exact ⟨⟨proper, unlabelled⟩, same⟩
      · rintro ⟨accepted, same⟩
        exact ⟨_, ⟨accepted.proper, rfl⟩, accepted.unlabelled, same⟩

theorem ofAttribute_eq_error_iff :
    Settings.ofAttribute written = .error reason ↔ written.Fault reason := by
  cases form : written.arguments with
  | bare | assigned =>
      have unlisted : written.settings = none := by rw [Attribute.settings, form]
      rw [Attribute.fault_iff_of_unlisted unlisted, Settings.ofAttribute, form]
      simp [eq_comm]
  | list list =>
      have listed := Attribute.settings_eq_some_iff.2 form
      rw [ofAttribute_eq_bind listed, Run.bind_eq_error_iff]
      simp only [Settings.addAll_eq_ok_iff, Settings.addAll_eq_error_iff,
        Settings.empty_followedBy, Settings.check_eq_error_iff]
      constructor
      · rintro (wrong | ⟨_, ⟨proper, rfl⟩, skips, labelled, rfl⟩)
        · exact .setting listed wrong
        · exact .skippedLabel listed proper skips labelled
      · intro fault
        cases fault with
        | bare other | assigned other => cases form.symm.trans other
        | setting some wrong =>
            cases listed.symm.trans some
            exact .inl wrong
        | skippedLabel some proper skips labelled =>
            cases listed.symm.trans some
            exact .inr ⟨_, ⟨proper, rfl⟩, skips, labelled, rfl⟩

theorem ofAttributes_of_some (found : searchAttribute? attributes = some written) :
    Settings.ofAttributes attributes = Settings.ofAttribute written := by
  rw [searchAttribute?] at found
  rw [Settings.ofAttributes, found]

theorem ofAttributes_of_none (absent : searchAttribute? attributes = none) :
    Settings.ofAttributes attributes = .ok {} := by
  rw [searchAttribute?] at absent
  rw [Settings.ofAttributes, absent]

theorem ofAttributes_eq_ok_iff :
    Settings.ofAttributes attributes = .ok settings ↔
      AttributesValid attributes ∧ Settings.summary (givenSettings attributes) = settings := by
  rw [AttributesValid, givenSettings]
  cases found : searchAttribute? attributes with
  | none =>
      rw [ofAttributes_of_none found, Except.ok.injEq]
      exact (and_iff_right nofun).symm
  | some written =>
      rw [ofAttributes_of_some found, ofAttribute_eq_ok_iff]
      cases listed : written.settings <;> simp [listed]

theorem ofAttributes_eq_error_iff :
    Settings.ofAttributes attributes = .error reason ↔ AttributesFault attributes reason := by
  rw [AttributesFault]
  cases found : searchAttribute? attributes with
  | none => simp [ofAttributes_of_none found]
  | some written => simp [ofAttributes_of_some found, ofAttribute_eq_error_iff]

end Attributes

end RecordSearch.Derive
