import Readout.Proofs.Construction
import Readout.Proofs.Lowering
import Readout.Rules

/-!
# Checking and building

The check of a configuration stops at the first violation of a rule.  It goes through
events and through modules in the same way, so one lemma about a scan of named items
serves both.  A configuration without violations has patterns that are short enough, and
from these a splitter is always built.
-/

namespace Readout

theorem firstViolation_append (violations others : List SetupError) :
    firstViolation (violations ++ others) =
      match firstViolation violations with
      | .error violation => .error violation
      | .ok () => firstViolation others := by
  cases violations <;> rfl

/-- Looks for a name that has been seen before, and otherwise into the item. -/
def scan (name : Item → String) (repeated : Item → SetupError)
    (check : Item → Except SetupError Unit) : List String → List Item → Except SetupError Unit
  | _, [] => .ok ()
  | seen, item :: items =>
      if name item ∈ seen then .error (repeated item)
      else
        match check item with
        | .error error => .error error
        | .ok () => scan name repeated check (name item :: seen) items

section Scan

variable {name : Item → String} {repeated : Item → SetupError}
  {check : Item → Except SetupError Unit} {within : Item → List SetupError}

/-- The names that have been seen are those of the items in front. -/
theorem scan_append (checks : ∀ item, check item = firstViolation (within item))
    (before : List Item) {seen : List String}
    (known : ∀ text, text ∈ seen ↔ text ∈ before.map name) (items : List Item) :
    scan name repeated check seen items =
      firstViolation ((items.zipIdx before.length).flatMap fun (item, index) =>
        (if name item ∈ ((before ++ items).take index).map name then [repeated item]
          else []) ++ within item) := by
  induction items generalizing before seen with
  | nil => rfl
  | cons item items induction =>
      have next : ∀ text,
          text ∈ name item :: seen ↔ text ∈ (before ++ [item]).map name := by
        intro text
        simp [known text, or_comm]
      have others := induction (before ++ [item]) next
      rw [List.length_append, List.length_singleton, List.append_assoc,
        List.singleton_append] at others
      rw [scan, List.zipIdx_cons, List.flatMap_cons, others, checks]
      simp only [List.take_left, ← known, firstViolation_append]
      split <;> rfl

theorem scan_eq (checks : ∀ item, check item = firstViolation (within item))
    (items : List Item) :
    scan name repeated check [] items =
      firstViolation (namedViolations name repeated within items) :=
  scan_append checks [] (by simp) items

theorem nodup_map_iff (items : List Item) :
    (items.map name).Nodup ↔ ∀ index item, items[index]? = some item →
      name item ∉ (items.take index).map name := by
  rw [List.Nodup, List.pairwise_map, List.pairwise_iff_getElem]
  constructor
  · intro distinct index item item_at repeats
    obtain ⟨inside, item_eq⟩ := List.getElem?_eq_some_iff.mp item_at
    obtain ⟨earlier, member, same⟩ := List.mem_map.mp repeats
    obtain ⟨place, before, earlier_eq⟩ := List.mem_take_iff_getElem.mp member
    rw [← item_eq, ← earlier_eq] at same
    exact distinct place index _ inside (by omega) same
  · intro fresh place index _ inside before same
    refine fresh index items[index] (List.getElem?_eq_getElem inside) ?_
    rw [← same]
    apply List.mem_map_of_mem
    exact List.mem_take_iff_getElem.mpr ⟨place, by omega, rfl⟩

theorem namedViolations_eq_nil_iff (items : List Item) :
    namedViolations name repeated within items = [] ↔
      (items.map name).Nodup ∧ ∀ item ∈ items, within item = [] := by
  rw [namedViolations, List.flatMap_eq_nil_iff, nodup_map_iff]
  constructor
  · intro none
    have at_index (index : Nat) (item : Item) (item_at : items[index]? = some item) :=
      List.append_eq_nil_iff.mp
        (none (item, index) (List.mem_zipIdx_iff_getElem?.mpr item_at))
    constructor
    · intro index item item_at repeats
      have first := (at_index index item item_at).1
      rw [if_pos repeats] at first
      cases first
    · intro item member
      obtain ⟨index, item_at⟩ := List.mem_iff_getElem?.mp member
      exact (at_index index item item_at).2
  · rintro ⟨fresh, clean⟩ ⟨item, index⟩ member
    have item_at := List.mem_zipIdx_iff_getElem?.mp member
    refine List.append_eq_nil_iff.mpr ⟨if_neg (fresh index item item_at), ?_⟩
    exact clean item (List.mem_of_getElem? item_at)

end Scan

theorem firstViolation_eq_ok_iff (violations : List SetupError) :
    firstViolation violations = .ok () ↔ violations = [] := by
  cases violations <;> simp [firstViolation]

theorem ModuleDefinition.violations_eq_nil_iff (module : ModuleDefinition) :
    module.violations = [] ↔ Filter.IsShort module.headerPattern := by
  rw [violations]
  split <;> simp_all

theorem ModuleDefinition.compile_headerPattern (module : ModuleDefinition) :
    (match Filter.compile module.headerPattern none with
      | .error error => .error (.filter error)
      | .ok _ => .ok ()) = firstViolation module.violations := by
  by_cases short : Filter.IsShort module.headerPattern
  · rw [Filter.compile_of_short short, violations, if_pos short]
    rfl
  · rw [Filter.compile_of_not_short short, violations, if_neg short]
    rfl

namespace Config

theorem validateModules_eq_scan (event : String) (seen : List String)
    (modules : List ModuleDefinition) :
    validateModules event seen modules =
      scan ModuleDefinition.name
        (fun module => .invalid (.duplicateModule module.name event))
        (fun module => firstViolation module.violations) seen modules := by
  induction modules generalizing seen with
  | nil => rfl
  | cons module modules induction =>
      rw [validateModules, scan, ← ModuleDefinition.compile_headerPattern, induction]
      cases Filter.compile module.headerPattern none <;> rfl

theorem validateModules_eq (event : EventDefinition) :
    validateModules event.name [] event.modules = firstViolation event.violations := by
  rw [validateModules_eq_scan]
  exact scan_eq (fun _ => rfl) event.modules

theorem validateEvents_eq_scan (seen : List String) (events : List EventDefinition) :
    validateEvents seen events =
      scan EventDefinition.name (fun event => .invalid (.duplicateEvent event.name))
        (fun event => validateModules event.name [] event.modules) seen events := by
  induction events generalizing seen with
  | nil => rfl
  | cons event events induction =>
      rw [validateEvents, induction]
      rfl

theorem validateEvents_eq (config : Config) :
    validateEvents [] config.events =
      firstViolation (namedViolations EventDefinition.name
        (fun event => .invalid (.duplicateEvent event.name)) EventDefinition.violations
        config.events) := by
  rw [validateEvents_eq_scan]
  exact scan_eq validateModules_eq config.events

theorem levelViolations_eq (config : Config) :
    config.levelViolations =
      if Text.lowered config.application.logLevel ∈ validLevels then []
      else [.invalid (.configuredLevel config.application.logLevel)] := by
  rw [levelViolations, loweredLevel]
  simp only [LogLevel.lowered_mem_validLevels_iff]

theorem validate_eq (config : Config) :
    config.validate = firstViolation config.violations := by
  rw [violations, firstViolation_append, ← validateEvents_eq, levelViolations_eq, validate]
  split <;> rfl

theorem violations_eq_nil_iff (config : Config) :
    config.violations = [] ↔ config.Valid := by
  have level_iff : config.levelViolations = [] ↔
      config.loweredLevel ∈ LogLevel.all.map LogLevel.name := by
    rw [levelViolations]
    split <;> simp_all
  have event_iff (event : EventDefinition) : event.violations = [] ↔
      (event.modules.map ModuleDefinition.name).Nodup ∧
        ∀ module ∈ event.modules, Filter.IsShort module.headerPattern := by
    rw [EventDefinition.violations, namedViolations_eq_nil_iff]
    simp only [ModuleDefinition.violations_eq_nil_iff]
  rw [violations, List.append_eq_nil_iff, level_iff, namedViolations_eq_nil_iff]
  simp only [event_iff]
  constructor
  · rintro ⟨level, events, inside⟩
    exact ⟨level, events, fun event member => (inside event member).1,
      fun event member => (inside event member).2⟩
  · rintro ⟨level, events, modules, patterns⟩
    exact ⟨level, events, fun event member => ⟨modules event member, patterns event member⟩⟩

theorem fixesBit_eq (event : EventDefinition) :
    event.fixesBit =
      decide (Slot.FixesBit (event.modules.map ModuleDefinition.headerPattern)) := by
  rw [EventDefinition.fixesBit, Bool.eq_iff_iff, List.any_eq_true, decide_eq_true_iff,
    Slot.FixesBit]
  simp only [Filter.any_isFixed_iff, List.mem_map, exists_exists_and_eq_and]

theorem short_headerPatterns {config : Config} (valid : config.Valid) :
    ∀ slotPatterns ∈ config.headerPatterns, ∀ pattern ∈ slotPatterns,
      Filter.IsShort pattern := by
  intro slotPatterns slot_member pattern member
  obtain ⟨event, event_member, rfl⟩ := List.mem_map.mp slot_member
  obtain ⟨module, module_member, rfl⟩ := List.mem_map.mp member
  exact valid.patterns_short event event_member module module_member

theorem realizes_ofPatterns {config : Config} (valid : config.Valid) :
    (Splitter.ofPatterns config.headerPatterns).Realizes config := by
  have mirrors := Splitter.mirrors_ofPatterns (short_headerPatterns valid)
  have slot_at (index : Nat) : config.headerPatterns[index]? =
      config.events[index]?.map fun event =>
        event.modules.map ModuleDefinition.headerPattern :=
    List.getElem?_map
  constructor
  case eventCount_eq => rw [mirrors.eventCount_eq, headerPatterns, List.length_map]
  case moduleCount?_eq =>
    intro index
    rw [mirrors.moduleCount?_eq, slot_at, Option.map_map]
    simp only [Function.comp_def, List.length_map]
  case splitting?_eq =>
    intro index
    rw [mirrors.splitting?_eq, slot_at, Option.map_map]
    exact congrArg (config.events[index]?.map ·) (funext fun event => (fixesBit_eq event).symm)
  case filter?_eq =>
    intro index place
    rw [mirrors.filter?_eq, slot_at]
    cases config.events[index]? with
    | none => rfl
    | some event =>
        rw [Option.map_some, Option.bind_some, Option.bind_some, List.getElem?_map, Option.map_map]
        rfl

theorem buildSplitter_of_valid {config : Config} (valid : config.Valid) :
    config.buildSplitter.2 = .ok (.ofPatterns config.headerPatterns) := by
  have accepted : config.validate = .ok () := by
    rw [validate_eq, (violations_eq_nil_iff config).mpr valid]
    rfl
  rw [buildSplitter, accepted]
  show (Splitter.build config.headerPatterns).2.mapError SetupError.filter = _
  rw [Splitter.build_of_short (short_headerPatterns valid)]
  rfl

/-- The check reports the first violation of a rule and passes exactly if there is none.
Building the splitter fails with what the check reports, and otherwise gives a slot for
every event and a filter for every module.  A log is set up exactly if the check knows the
level. -/
theorem check_and_setup_agree (config : Config) :
    config.validate = firstViolation config.violations ∧
    (config.validate = .ok () ↔ config.Valid) ∧
    (match config.validate with
      | .error violation => config.buildSplitter.2 = .error violation
      | .ok () => ∃ splitter,
          config.buildSplitter.2 = .ok splitter ∧ splitter.Realizes config) ∧
    (match config.levelViolations with
      | [] => ∃ level ∈ LogLevel.all, level.name = config.loweredLevel ∧
          LogSetup.ofConfig config = .ok (.ofLevel level)
      | _ :: _ => LogSetup.ofConfig config =
          .error (.invalid (.unknownLevel config.application.logLevel))) := by
  have valid_iff : config.validate = .ok () ↔ config.Valid := by
    rw [validate_eq, firstViolation_eq_ok_iff, violations_eq_nil_iff]
  refine ⟨validate_eq config, valid_iff, ?_, ?_⟩
  · cases checked : config.validate with
    | error violation => rw [buildSplitter, checked]
    | ok _ =>
        have valid := valid_iff.mp checked
        exact ⟨_, buildSplitter_of_valid valid, realizes_ofPatterns valid⟩
  · rw [levelViolations_eq, LogSetup.ofConfig]
    by_cases known : Text.lowered config.application.logLevel ∈ validLevels
    · obtain ⟨level, parse_eq⟩ := (LogLevel.mem_validLevels_iff _).mp known
      have named := (LogLevel.lowered_eq_name_iff _ level).mp (LogLevel.parse_eq_ok_iff.mp parse_eq)
      rw [if_pos known, parse_eq]
      exact ⟨level, level.mem_all, named.symm, rfl⟩
    · have foreign : ∀ level, LogLevel.parse config.application.logLevel ≠ .ok level :=
        fun level parse_eq => known ((LogLevel.mem_validLevels_iff _).mpr ⟨level, parse_eq⟩)
      rw [if_neg known, LogLevel.parse_eq_error foreign]
      rfl

end Config

end Readout
