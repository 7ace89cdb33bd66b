import Mathlib.Data.List.Forall2
import Readout.Proofs.Outcomes
import Readout.Proofs.Overlay
import Readout.Settings.Decode

/-!
# What values describe

A value describes a text, a list, a module or an event without regard to how it is read: a
name must be there, other parts may be missing and have a default then.  A value is read
successfully just as what it describes.
-/

namespace Readout.Settings

def Value.part? (key : String) (index : Nat) : Value → Option Value
  | table entries => find? key entries
  | list items => items[index]?
  | _ => none

/-- What a part describes, or the default where it is missing. -/
def OrDefault (Describes : Value → α → Prop) (default : α) : Option Value → α → Prop
  | some value, meaning => Describes value meaning
  | none, meaning => meaning = default

def DescribesText (value : Value) (content : String) : Prop :=
  value = .text content

/-- A list describes the list of what its items describe. -/
def DescribesList (Describes : Value → α → Prop) (value : Value) (meanings : List α) : Prop :=
  ∃ items, value = .list items ∧ List.Forall₂ Describes items meanings

structure DescribesModule (value : Value) (module : ModuleDefinition) : Prop where
  name : value.part? "name" 0 = some (.text module.name)
  headerPattern :
    OrDefault DescribesText "" (value.part? "header_filter" 1) module.headerPattern

structure DescribesEvent (value : Value) (event : EventDefinition) : Prop where
  name : value.part? "name" 0 = some (.text event.name)
  modules :
    OrDefault (DescribesList DescribesModule) [] (value.part? "modules" 1) event.modules

/-! ## Reading in steps -/

namespace Decoded

theorem within_eq_ok_iff {step : Step} {decoded : Decoded α} {value : α} :
    decoded.within step = .ok value ↔ decoded = .ok value := by
  cases decoded with
  | error mismatch => exact ⟨nofun, nofun⟩
  | ok found => exact Iff.rfl

end Decoded

open Decoded

/-! ## Parts -/

section Parts

variable {decode : Value → Decoded α} {Describes : Value → α → Prop}
  (decode_iff : ∀ value meaning, decode value = .ok meaning ↔ Describes value meaning)
include decode_iff

theorem part_eq_ok_iff {part : Option Value} {step : Step} {found : Option α} :
    (match part with
      | some value => do
          let decoded ← (decode value).within step
          return some decoded
      | none => .ok none) = (.ok found : Decoded (Option α)) ↔
      Option.Rel Describes part found := by
  cases part with
  | none =>
      constructor
      · rintro ⟨⟩
        exact .none
      · rintro ⟨⟩
        rfl
  | some value =>
      rw [Except.bind_eq_ok_iff]
      constructor
      · rintro ⟨meaning, within_eq, ⟨⟩⟩
        exact .some ((decode_iff _ _).mp (within_eq_ok_iff.mp within_eq))
      · rintro ⟨described⟩
        exact ⟨_, within_eq_ok_iff.mpr ((decode_iff _ _).mpr described), rfl⟩

theorem decodeEntry_eq_ok_iff {entries : Table} {field : String} {found : Option α} :
    decodeEntry entries field decode = .ok found ↔
      Option.Rel Describes (find? field entries) found :=
  part_eq_ok_iff decode_iff

theorem decodeItem_eq_ok_iff {items : List Value} {index : Nat} {found : Option α} :
    decodeItem items index decode = .ok found ↔
      Option.Rel Describes items[index]? found :=
  part_eq_ok_iff decode_iff

theorem decodeItems_eq_ok_iff {index : Nat} {values : List Value} {meanings : List α} :
    decodeItems decode index values = .ok meanings ↔ List.Forall₂ Describes values meanings := by
  induction values generalizing index meanings with
  | nil =>
      constructor
      · rintro ⟨⟩
        exact .nil
      · rintro ⟨⟩
        rfl
  | cons value values induction =>
      rw [decodeItems, Except.bind_eq_ok_iff]
      constructor
      · rintro ⟨first, first_eq, after_eq⟩
        obtain ⟨others, others_eq, ⟨⟩⟩ := Except.bind_eq_ok_iff.mp after_eq
        exact .cons ((decode_iff _ _).mp (within_eq_ok_iff.mp first_eq)) (induction.mp others_eq)
      · rintro (_ | ⟨first, others⟩)
        refine ⟨_, within_eq_ok_iff.mpr ((decode_iff _ _).mpr first), Except.bind_eq_ok_iff.mpr ?_⟩
        exact ⟨_, induction.mpr others, rfl⟩

theorem decodeList_eq_ok_iff (value : Value) (meanings : List α) :
    decodeList decode value = .ok meanings ↔ DescribesList Describes value meanings := by
  cases value with
  | list items =>
      rw [decodeList, decodeItems_eq_ok_iff decode_iff]
      exact ⟨fun described => ⟨items, rfl, described⟩, fun ⟨_, rfl, described⟩ => described⟩
  | _ => exact ⟨nofun, fun ⟨_, list_eq, _⟩ => nomatch list_eq⟩

end Parts

theorem decodeText_eq_ok_iff (value : Value) (content : String) :
    decodeText value = .ok content ↔ DescribesText value content := by
  cases value with
  | text found =>
      rw [decodeText, DescribesText, Except.ok.injEq, Value.text.injEq]
  | _ => exact ⟨nofun, nofun⟩

theorem orDefault_iff_of_rel {Describes : Value → α → Prop} {default meaning : α}
    {part : Option Value} :
    OrDefault Describes default part meaning ↔
      ∃ found, Option.Rel Describes part found ∧ found.getD default = meaning := by
  cases part with
  | none =>
      constructor
      · rintro rfl
        exact ⟨none, .none, rfl⟩
      · rintro ⟨_, ⟨⟩, rfl⟩
        rfl
  | some value =>
      constructor
      · intro described
        exact ⟨some meaning, .some described, rfl⟩
      · rintro ⟨_, ⟨described⟩, rfl⟩
        exact described

theorem rel_describesText_iff {part : Option Value} {content : String} :
    Option.Rel DescribesText part (some content) ↔ part = some (.text content) := by
  constructor
  · rintro ⟨rfl⟩
    rfl
  · rintro rfl
    exact .some rfl

/-! ## Modules and events -/

section Named

variable {decode : Value → Decoded α} {Describes : Value → α → Prop}
  (decode_iff : ∀ value meaning, decode value = .ok meaning ↔ Describes value meaning)
  (default : α) (build : String → α → β) {missing : Mismatch} {result : β}
include decode_iff

/-- A table is read if it has a name and its other part can be read, if there is one. -/
theorem named_entries_eq_ok_iff {entries : Table} {field : String} :
    (do
      let part ← decodeEntry entries field decode
      match ← decodeEntry entries "name" decodeText with
      | some name => return build name (part.getD default)
      | none => mismatch missing) = .ok result ↔
      ∃ name meaning, find? "name" entries = some (.text name) ∧
        OrDefault Describes default (find? field entries) meaning ∧
        build name meaning = result := by
  rw [Except.bind_eq_ok_iff]
  constructor
  · rintro ⟨part, part_eq, after_eq⟩
    obtain ⟨- | name, name_eq, ⟨⟩⟩ := Except.bind_eq_ok_iff.mp after_eq
    have part_rel := (decodeEntry_eq_ok_iff decode_iff).mp part_eq
    have name_rel := (decodeEntry_eq_ok_iff decodeText_eq_ok_iff).mp name_eq
    exact ⟨name, _, rel_describesText_iff.mp name_rel,
      orDefault_iff_of_rel.mpr ⟨part, part_rel, rfl⟩, rfl⟩
  · rintro ⟨name, meaning, name_eq, described, rfl⟩
    obtain ⟨part, part_rel, rfl⟩ := orDefault_iff_of_rel.mp described
    have name_rel := rel_describesText_iff.mpr name_eq
    refine ⟨part, (decodeEntry_eq_ok_iff decode_iff).mpr part_rel, Except.bind_eq_ok_iff.mpr ?_⟩
    exact ⟨some name, (decodeEntry_eq_ok_iff decodeText_eq_ok_iff).mpr name_rel, rfl⟩

/-- A list is read if its first item is a name and its other item can be read, if there
is one. -/
theorem named_items_eq_ok_iff {items : List Value} {index : Nat} :
    (do
      match ← decodeItem items 0 decodeText with
      | some name =>
          let part ← decodeItem items index decode
          return build name (part.getD default)
      | none => mismatch missing) = .ok result ↔
      ∃ name meaning, items[0]? = some (.text name) ∧
        OrDefault Describes default items[index]? meaning ∧ build name meaning = result := by
  rw [Except.bind_eq_ok_iff]
  constructor
  · rintro ⟨- | name, name_eq, after_eq⟩
    · cases after_eq
    · obtain ⟨part, part_eq, ⟨⟩⟩ := Except.bind_eq_ok_iff.mp after_eq
      have part_rel := (decodeItem_eq_ok_iff decode_iff).mp part_eq
      have name_rel := (decodeItem_eq_ok_iff decodeText_eq_ok_iff).mp name_eq
      exact ⟨name, _, rel_describesText_iff.mp name_rel,
        orDefault_iff_of_rel.mpr ⟨part, part_rel, rfl⟩, rfl⟩
  · rintro ⟨name, meaning, name_eq, described, rfl⟩
    obtain ⟨part, part_rel, rfl⟩ := orDefault_iff_of_rel.mp described
    have name_rel := rel_describesText_iff.mpr name_eq
    refine ⟨some name, (decodeItem_eq_ok_iff decodeText_eq_ok_iff).mpr name_rel, ?_⟩
    exact Except.bind_eq_ok_iff.mpr ⟨part, (decodeItem_eq_ok_iff decode_iff).mpr part_rel, rfl⟩

end Named

theorem describesModule_iff (value : Value) (module : ModuleDefinition) :
    DescribesModule value module ↔
      ∃ name headerPattern, value.part? "name" 0 = some (.text name) ∧
        OrDefault DescribesText "" (value.part? "header_filter" 1) headerPattern ∧
        ModuleDefinition.mk name headerPattern = module := by
  constructor
  · intro described
    exact ⟨_, _, described.name, described.headerPattern, rfl⟩
  · rintro ⟨name, headerPattern, name_eq, described, rfl⟩
    exact ⟨name_eq, described⟩

theorem describesEvent_iff (value : Value) (event : EventDefinition) :
    DescribesEvent value event ↔
      ∃ name modules, value.part? "name" 0 = some (.text name) ∧
        OrDefault (DescribesList DescribesModule) [] (value.part? "modules" 1) modules ∧
        EventDefinition.mk name modules = event := by
  constructor
  · intro described
    exact ⟨_, _, described.name, described.modules, rfl⟩
  · rintro ⟨name, modules, name_eq, described, rfl⟩
    exact ⟨name_eq, described⟩

theorem decodeModule_eq_ok_iff (value : Value) (module : ModuleDefinition) :
    decodeModule value = .ok module ↔ DescribesModule value module := by
  cases value with
  | table entries =>
      exact (named_entries_eq_ok_iff decodeText_eq_ok_iff "" ModuleDefinition.mk).trans
        (describesModule_iff (.table entries) module).symm
  | list items =>
      exact (named_items_eq_ok_iff decodeText_eq_ok_iff "" ModuleDefinition.mk).trans
        (describesModule_iff (.list items) module).symm
  | _ => exact ⟨nofun, fun described => nomatch described.name⟩

theorem decodeEvent_eq_ok_iff (value : Value) (event : EventDefinition) :
    decodeEvent value = .ok event ↔ DescribesEvent value event := by
  have modules_iff := decodeList_eq_ok_iff decodeModule_eq_ok_iff
  cases value with
  | table entries =>
      exact (named_entries_eq_ok_iff modules_iff [] EventDefinition.mk).trans
        (describesEvent_iff (.table entries) event).symm
  | list items =>
      exact (named_items_eq_ok_iff modules_iff [] EventDefinition.mk).trans
        (describesEvent_iff (.list items) event).symm
  | _ => exact ⟨nofun, fun described => nomatch described.name⟩

/-! ## Configurations -/

theorem decodeApplication_table_eq_ok_iff {entries : Table} {application : Application} :
    decodeApplication (.table entries) = .ok application ↔
      OrDefault DescribesText Application.defaultName (find? "name" entries) application.name ∧
      OrDefault DescribesText Application.defaultLogLevel (find? "log_level" entries)
        application.logLevel := by
  rw [decodeApplication, Except.bind_eq_ok_iff]
  constructor
  · rintro ⟨logLevel, logLevel_eq, after_eq⟩
    obtain ⟨name, name_eq, ⟨⟩⟩ := Except.bind_eq_ok_iff.mp after_eq
    have logLevel_rel := (decodeEntry_eq_ok_iff decodeText_eq_ok_iff).mp logLevel_eq
    have name_rel := (decodeEntry_eq_ok_iff decodeText_eq_ok_iff).mp name_eq
    exact ⟨orDefault_iff_of_rel.mpr ⟨name, name_rel, rfl⟩,
      orDefault_iff_of_rel.mpr ⟨logLevel, logLevel_rel, rfl⟩⟩
  · obtain ⟨name, logLevel⟩ := application
    rintro ⟨name_described, logLevel_described⟩
    obtain ⟨foundName, name_rel, rfl⟩ := orDefault_iff_of_rel.mp name_described
    obtain ⟨foundLevel, logLevel_rel, rfl⟩ := orDefault_iff_of_rel.mp logLevel_described
    refine ⟨foundLevel, (decodeEntry_eq_ok_iff decodeText_eq_ok_iff).mpr logLevel_rel,
      Except.bind_eq_ok_iff.mpr ?_⟩
    exact ⟨foundName, (decodeEntry_eq_ok_iff decodeText_eq_ok_iff).mpr name_rel, rfl⟩

theorem application_iff {part : Option Value} {application : Application}
    (tabular : ∀ value, part = some value → value.IsTable) :
    OrDefault (fun value meaning => decodeApplication value = .ok meaning) Application.standard
        part application ↔
      OrDefault DescribesText Application.defaultName (part.bind (Value.under? "name"))
          application.name ∧
        OrDefault DescribesText Application.defaultLogLevel
          (part.bind (Value.under? "log_level")) application.logLevel := by
  obtain ⟨name, logLevel⟩ := application
  cases part with
  | none =>
      rw [OrDefault, Application.standard, Application.mk.injEq]
      exact Iff.rfl
  | some value =>
      obtain ⟨fields, rfl⟩ := tabular value rfl
      exact decodeApplication_table_eq_ok_iff

theorem decodeConfig_eq_ok_iff {entries : Table} {config : Config}
    (tabular : ∀ value, find? "application" entries = some value → value.IsTable) :
    decodeConfig entries = .ok config ↔
      OrDefault DescribesText Application.defaultName
        ((Value.table entries).at? [.key "application", .key "name"]) config.application.name ∧
      OrDefault DescribesText Application.defaultLogLevel
        ((Value.table entries).at? [.key "application", .key "log_level"])
        config.application.logLevel ∧
      OrDefault (DescribesList DescribesEvent) [] ((Value.table entries).at? [.key "events"])
        config.events := by
  have at_pair (first second : String) :
      (Value.table entries).at? [.key first, .key second] =
        (find? first entries).bind (Value.under? second) := by
    simp only [Value.at?_key, Value.bind_at?_nil]
    rfl
  have events_iff := decodeList_eq_ok_iff decodeEvent_eq_ok_iff
  rw [at_pair, at_pair, Value.at?_single, ← and_assoc, ← application_iff tabular, decodeConfig,
    Except.bind_eq_ok_iff]
  constructor
  · rintro ⟨application, application_eq, after_eq⟩
    obtain ⟨events, events_eq, ⟨⟩⟩ := Except.bind_eq_ok_iff.mp after_eq
    have application_rel := (decodeEntry_eq_ok_iff fun _ _ => Iff.rfl).mp application_eq
    have events_rel := (decodeEntry_eq_ok_iff events_iff).mp events_eq
    exact ⟨orDefault_iff_of_rel.mpr ⟨application, application_rel, rfl⟩,
      orDefault_iff_of_rel.mpr ⟨events, events_rel, rfl⟩⟩
  · obtain ⟨application, events⟩ := config
    rintro ⟨application_described, events_described⟩
    obtain ⟨foundApplication, application_rel, rfl⟩ :=
      orDefault_iff_of_rel.mp application_described
    obtain ⟨foundEvents, events_rel, rfl⟩ := orDefault_iff_of_rel.mp events_described
    refine ⟨foundApplication, (decodeEntry_eq_ok_iff fun _ _ => Iff.rfl).mpr application_rel,
      Except.bind_eq_ok_iff.mpr ?_⟩
    exact ⟨foundEvents, (decodeEntry_eq_ok_iff events_iff).mpr events_rel, rfl⟩

end Readout.Settings
