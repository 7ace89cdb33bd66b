import Readout.Proofs.Description
import Readout.Proofs.Variables
import Readout.Settings.Load

/-!
# What a configuration takes from where

Each field of a configuration is what a variable sets, otherwise what the document has
there, and otherwise a default.  Variables that set something else do not matter, and
neither does the order in which variables are listed.  All this holds for any lawful
sources.
-/

namespace Readout.Settings

/-- What a part with settings put over it describes: what the setting for it describes, or
else what it described before, unless settings go on beyond it. -/
theorem Holds.orDefault_overlaid_iff {table : Table} {settings : List Setting}
    (holds : Holds table settings) (apart : Apart settings) (merge : Table → Table → Table)
    {Describes : Value → α → Prop}
    (plain : ∀ value meaning, Describes value meaning → ¬ value.IsTable)
    {path : List String} (nonempty : path ≠ []) (open_path : OpenUpTo settings path)
    {part : Option Value} {default meaning : α} :
    OrDefault Describes default
        (Value.overlaid merge part ((Value.table table).at? (path.map .key))) meaning ↔
      OrDefault Describes default ((setAt? settings path).or part) meaning ∧
        ∀ setting ∈ settings, path <+: setting.1 → setting.1 = path := by
  have not_table (entries : Table) : ¬ Describes (.table entries) meaning :=
    fun described => plain _ _ described ⟨entries, rfl⟩
  cases set_eq : setAt? settings path with
  | some value =>
      have member := apart.setAt?_eq_some_iff.mp set_eq
      have alone : ∀ setting ∈ settings, path <+: setting.1 → setting.1 = path :=
        fun setting found front => congrArg Prod.fst (apart.eq_of_prefix member found front)
      rw [holds.found _ member, Option.some_or, and_iff_left alone]
      by_cases tabular : value.IsTable
      · obtain ⟨entries, rfl⟩ := tabular
        obtain ⟨merged, merged_eq⟩ := Value.overlaid_table merge part entries
        rw [merged_eq]
        exact iff_of_false (not_table merged) (not_table entries)
      · rw [Value.overlaid_of_not_isTable part tabular]
  -- Only a table could be there without a setting for the path itself, and a table is no
  -- description.
  | none =>
      have unset : ∀ setting ∈ settings, ¬ setting.1 <+: path := fun setting member front =>
        ne_of_setAt?_eq_none set_eq setting member (open_path setting member front)
      rw [Option.none_or]
      obtain ⟨none_eq, none_beyond⟩ | ⟨⟨entries, table_eq⟩, setting, member, front⟩ :=
        holds.at?_of_unset nonempty unset
      · have alone : ∀ setting ∈ settings, path <+: setting.1 → setting.1 = path :=
          fun setting member front => absurd front (none_beyond setting member)
        rw [none_eq, Value.overlaid, and_iff_left alone]
      · obtain ⟨merged, merged_eq⟩ := Value.overlaid_table merge part entries
        rw [table_eq, merged_eq]
        refine iff_of_false (not_table merged) fun described => ?_
        exact ne_of_setAt?_eq_none set_eq setting member (described.2 setting member front)

theorem DescribesText.not_isTable {value : Value} {content : String}
    (described : DescribesText value content) : ¬ value.IsTable := by
  rintro ⟨entries, rfl⟩
  cases described

theorem DescribesList.not_isTable {Describes : Value → α → Prop} {value : Value}
    {meanings : List α} (described : DescribesList Describes value meanings) :
    ¬ value.IsTable := by
  rintro ⟨entries, rfl⟩
  obtain ⟨items, list_eq, -⟩ := described
  cases list_eq

/-! ## Fields -/

def fields : List (List String) :=
  [["application", "name"], ["application", "log_level"], ["events"]]

namespace Sources

variable (sources : Sources) (environment : List (String × String))

/-- No variable sets a part of a field. -/
def SetsWholeFields : Prop :=
  ∀ setting ∈ sources.settings environment, ∀ field ∈ fields,
    field <+: setting.1 → setting.1 = field

/-- The application is only set by its parts. -/
def SetsApplicationByParts : Prop :=
  ∀ setting ∈ sources.settings environment, setting.1 ≠ ["application"]

def ofFields : List (String × String) :=
  environment.filter fun entry => (sources.path? entry.1).any (· ∈ fields)

/-- What the variables set at a path, or else what the document has there. -/
def chosen? (document : Table) (path : List String) : Option Value :=
  (setAt? (sources.settings environment) path).or ((Value.table document).at? (path.map .key))

/-- Every field of the configuration is what is chosen for it, or its default. -/
structure Chosen (document : Table) (config : Config) : Prop where
  name : OrDefault DescribesText Application.defaultName
    (sources.chosen? environment document ["application", "name"]) config.application.name
  logLevel : OrDefault DescribesText Application.defaultLogLevel
    (sources.chosen? environment document ["application", "log_level"])
    config.application.logLevel
  events : OrDefault (DescribesList DescribesEvent) []
    (sources.chosen? environment document ["events"]) config.events

/-- How what is loaded depends on the document and on the variables. -/
structure EnvironmentFirst (text : Option String) (document : Table) : Prop where
  load_iff : ∀ config, sources.load text environment = .ok config ↔
    sources.Chosen environment document config ∧ sources.SetsWholeFields environment
  only_fields : ∀ config, sources.load text environment = .ok config ↔
    sources.load text (sources.ofFields environment) = .ok config ∧
      sources.SetsWholeFields environment
  only_prefixed : ∀ config, sources.load text environment = .ok config ↔
    sources.load text (environment.filter fun entry => isForSettings entry.1) = .ok config
  any_order : ∀ other, other.Perm environment → ∀ config,
    sources.load text other = .ok config ↔ sources.load text environment = .ok config
  by_name : ∀ keys, keys ≠ [] → (∀ key ∈ keys, IsKey key) → ∀ content,
    (nameStart ++ "__".intercalate keys, content) ∈ environment →
      sources.chosen? environment document (keys.map fun key => key.map Char.toLower) =
        some (sources.value content)

variable {sources environment}

theorem mem_settings_iff {setting : Setting} :
    setting ∈ sources.settings environment ↔
      ∃ entry ∈ environment,
        sources.path? entry.1 = some setting.1 ∧ sources.value entry.2 = setting.2 := by
  rw [settings, List.mem_filterMap]
  refine exists_congr fun entry => and_congr_right fun _ => ?_
  rw [Option.map_eq_some_iff]
  constructor
  · rintro ⟨path, path_eq, rfl⟩
    exact ⟨path_eq, rfl⟩
  · rintro ⟨path_eq, text_eq⟩
    exact ⟨setting.1, path_eq, Prod.ext rfl text_eq⟩

/-! ## Loading -/

section Loading

variable {text : Option String} {document : Table} (lawful : sources.Lawful)
  (read_eq : sources.document text = .ok document)
  (tabular : ∀ value, find? "application" document = some value → value.IsTable)
  (independent : sources.Independent environment)
  (parts : sources.SetsApplicationByParts environment)

include lawful in
theorem ne_nil_of_mem_settings {setting : Setting}
    (member : setting ∈ sources.settings environment) : setting.1 ≠ [] := by
  obtain ⟨entry, -, path_eq, -⟩ := mem_settings_iff.mp member
  exact lawful.path_ne_nil entry.1 setting.1 path_eq

include lawful in
theorem open_single (key : String) : OpenUpTo (sources.settings environment) [key] := by
  intro setting member front
  obtain empty | ⟨rest, path_eq, nothing⟩ := List.prefix_cons_iff.mp front
  · exact absurd empty (ne_nil_of_mem_settings lawful member)
  · rw [path_eq, List.prefix_nil.mp nothing]

include lawful parts in
theorem open_application (key : String) :
    OpenUpTo (sources.settings environment) ["application", key] := by
  intro setting member front
  obtain empty | ⟨rest, path_eq, rest_front⟩ := List.prefix_cons_iff.mp front
  · exact absurd empty (ne_nil_of_mem_settings lawful member)
  · obtain rfl | ⟨more, rfl, nothing⟩ := List.prefix_cons_iff.mp rest_front
    · exact absurd path_eq (parts setting member)
    · rw [path_eq, List.prefix_nil.mp nothing]

include lawful independent in
theorem at?_merged (document : Table) {path : List String}
    (open_path : OpenUpTo (sources.settings environment) path) :
    (Value.table (sources.merge document (sources.readVariables environment))).at?
        (path.map .key) =
      Value.overlaid sources.merge ((Value.table document).at? (path.map .key))
        ((Value.table (sources.readVariables environment)).at? (path.map .key)) :=
  (lawful.holds_readVariables environment independent).at?_merge lawful.mergesByKey document
    open_path

include lawful tabular independent parts in
theorem isTable_of_merged {value : Value}
    (found : find? "application"
      (sources.merge document (sources.readVariables environment)) = some value) :
    value.IsTable := by
  have holds := lawful.holds_readVariables environment independent
  have unset : ∀ setting ∈ sources.settings environment, ¬ setting.1 <+: ["application"] :=
    fun setting member front =>
      parts setting member (open_single lawful "application" setting member front)
  have merged_eq := at?_merged lawful independent document (open_single lawful "application")
  rw [List.map_singleton, Value.at?_single, Value.at?_single, found] at merged_eq
  obtain ⟨none_eq, -⟩ | ⟨⟨entries, table_eq⟩, -⟩ :=
    holds.at?_of_unset (List.cons_ne_nil "application" []) unset
  · rw [List.map_singleton] at none_eq
    rw [none_eq, Value.overlaid] at merged_eq
    exact tabular value merged_eq.symm
  · rw [List.map_singleton] at table_eq
    obtain ⟨merged, overlaid_eq⟩ :=
      Value.overlaid_table sources.merge (find? "application" document) entries
    rw [table_eq, overlaid_eq] at merged_eq
    exact ⟨merged, Option.some.inj merged_eq⟩

include read_eq in
theorem load_eq_ok_iff {config : Config} :
    sources.load text environment = .ok config ↔
      decodeConfig (sources.merge document (sources.readVariables environment)) =
        .ok config := by
  simp only [load, read_eq]
  cases decodeConfig (sources.merge document (sources.readVariables environment)) with
  | ok found => rw [Except.ok.injEq, Except.ok.injEq]
  | error cause =>
      obtain ⟨path, mismatch⟩ := cause
      exact ⟨nofun, nofun⟩

include lawful independent in
theorem orDefault_merged_iff (document : Table) {Describes : Value → α → Prop}
    (plain : ∀ value meaning, Describes value meaning → ¬ value.IsTable)
    {path : List String} (nonempty : path ≠ [])
    (open_path : OpenUpTo (sources.settings environment) path) (default meaning : α) :
    OrDefault Describes default ((Value.table (sources.merge document
        (sources.readVariables environment))).at? (path.map .key)) meaning ↔
      OrDefault Describes default (sources.chosen? environment document path) meaning ∧
        ∀ setting ∈ sources.settings environment, path <+: setting.1 → setting.1 = path := by
  have holds := lawful.holds_readVariables environment independent
  rw [at?_merged lawful independent document open_path, chosen?]
  exact holds.orDefault_overlaid_iff independent.apart sources.merge plain nonempty open_path

include lawful read_eq tabular independent parts in
/-- A configuration is loaded just if it has what is chosen for its fields and no variable
sets a part of a field. -/
theorem load_eq_ok_iff_chosen (config : Config) :
    sources.load text environment = .ok config ↔
      sources.Chosen environment document config ∧ sources.SetsWholeFields environment := by
  have text_plain : ∀ value content, DescribesText value content → ¬ value.IsTable :=
    fun _ _ described => described.not_isTable
  have list_plain : ∀ value events, DescribesList DescribesEvent value events → ¬ value.IsTable :=
    fun _ _ described => described.not_isTable
  rw [load_eq_ok_iff read_eq,
    decodeConfig_eq_ok_iff fun _ found =>
      isTable_of_merged lawful tabular independent parts found]
  have text_iff (key : String) := orDefault_merged_iff lawful independent document text_plain
    (List.cons_ne_nil _ _) (open_application lawful parts key)
  have events_iff := orDefault_merged_iff lawful independent document list_plain
    (List.cons_ne_nil _ _) (open_single lawful "events")
  refine (and_congr (text_iff "name" _ _)
    (and_congr (text_iff "log_level" _ _) (events_iff _ _))).trans ?_
  constructor
  · rintro ⟨⟨name, name_whole⟩, ⟨logLevel, logLevel_whole⟩, ⟨events, events_whole⟩⟩
    refine ⟨⟨name, logLevel, events⟩, fun setting member field known => ?_⟩
    simp only [fields, List.mem_cons, List.not_mem_nil, or_false] at known
    obtain rfl | rfl | rfl := known
    · exact name_whole setting member
    · exact logLevel_whole setting member
    · exact events_whole setting member
  · rintro ⟨chosen, whole⟩
    have whole_field {field : List String} (known : field ∈ fields) :
        ∀ setting ∈ sources.settings environment, field <+: setting.1 → setting.1 = field :=
      fun setting member => whole setting member field known
    exact ⟨⟨chosen.name, whole_field (by simp [fields])⟩,
      ⟨chosen.logLevel, whole_field (by simp [fields])⟩,
      ⟨chosen.events, whole_field (by simp [fields])⟩⟩

end Loading

/-! ## Variables that do not matter -/

theorem mem_settings_ofFields {setting : Setting} :
    setting ∈ sources.settings (sources.ofFields environment) ↔
      setting ∈ sources.settings environment ∧ setting.1 ∈ fields := by
  rw [mem_settings_iff, mem_settings_iff]
  constructor
  · rintro ⟨entry, member, path_eq, text_eq⟩
    obtain ⟨found, known⟩ := List.mem_filter.mp member
    rw [path_eq, Option.any_some, decide_eq_true_eq] at known
    exact ⟨⟨entry, found, path_eq, text_eq⟩, known⟩
  · rintro ⟨⟨entry, found, path_eq, text_eq⟩, known⟩
    refine ⟨entry, List.mem_filter.mpr ⟨found, ?_⟩, path_eq, text_eq⟩
    rw [path_eq, Option.any_some, decide_eq_true_eq]
    exact known

theorem eq_of_prefix_of_fields :
    ∀ field ∈ fields, ∀ other ∈ fields, field <+: other → other = field := by
  decide

theorem setsWholeFields_ofFields (environment : List (String × String)) :
    sources.SetsWholeFields (sources.ofFields environment) :=
  fun setting member field known front =>
    eq_of_prefix_of_fields field known setting.1 (mem_settings_ofFields.mp member).2 front

theorem settings_filter_isForSettings (lawful : sources.Lawful)
    (environment : List (String × String)) :
    sources.settings (environment.filter fun entry => isForSettings entry.1) =
      sources.settings environment := by
  rw [settings, settings, List.filterMap_filter]
  apply List.filterMap_congr
  intro entry _
  cases path_eq : sources.path? entry.1 with
  | none => rw [Option.map_none, ite_self]
  | some path => rw [if_pos (lawful.isForSettings_of_path entry.1 path path_eq)]

namespace Independent

variable {other : List (String × String)} (independent : sources.Independent environment)
include independent

theorem filter (keep : String × String → Bool) :
    sources.Independent (environment.filter keep) where
  names := (List.filter_sublist.map Prod.fst).nodup independent.names
  apart := independent.apart.sublist (List.filter_sublist.filterMap _)

theorem of_perm (order : other.Perm environment) : sources.Independent other where
  names := (order.map Prod.fst).nodup_iff.mpr independent.names
  apart := ((order.filterMap _).pairwise_iff fun untouched => untouched.symm).mpr independent.apart

theorem setAt?_ofFields {field : List String} (known : field ∈ fields) :
    setAt? (sources.settings (sources.ofFields environment)) field =
      setAt? (sources.settings environment) field :=
  (independent.filter _).apart.setAt?_congr independent.apart fun _ =>
    mem_settings_ofFields.trans (and_iff_left known)

theorem setAt?_of_perm (order : other.Perm environment) (path : List String) :
    setAt? (sources.settings other) path = setAt? (sources.settings environment) path :=
  (independent.of_perm order).apart.setAt?_congr independent.apart fun _ =>
    (order.filterMap _).mem_iff

end Independent

theorem Chosen.congr {document : Table} {other : List (String × String)} {config : Config}
    (same : ∀ field ∈ fields,
      setAt? (sources.settings other) field = setAt? (sources.settings environment) field)
    (chosen : sources.Chosen environment document config) :
    sources.Chosen other document config := by
  have chosen_eq (field : List String) (known : field ∈ fields) :
      sources.chosen? environment document field = sources.chosen? other document field := by
    rw [chosen?, chosen?, same field known]
  obtain ⟨name, logLevel, events⟩ := chosen
  rw [chosen_eq _ (by decide)] at name logLevel events
  exact ⟨name, logLevel, events⟩

theorem load_eq_ok_iff_of_same {text : Option String} {document : Table}
    {other : List (String × String)} (lawful : sources.Lawful)
    (read_eq : sources.document text = .ok document)
    (tabular : ∀ value, find? "application" document = some value → value.IsTable)
    (independent : sources.Independent other) (parts : sources.SetsApplicationByParts other)
    (same : ∀ field ∈ fields,
      setAt? (sources.settings other) field = setAt? (sources.settings environment) field)
    (config : Config) :
    sources.load text other = .ok config ↔
      sources.Chosen environment document config ∧ sources.SetsWholeFields other :=
  (load_eq_ok_iff_chosen lawful read_eq tabular independent parts config).trans
    (and_congr_left fun _ => ⟨.congr fun field known => (same field known).symm, .congr same⟩)

/-- Each field of a loaded configuration is what a variable sets, or else what the document
has there, or else its default, and a configuration is loaded whenever there is one that
describes this and no variable sets a part of a field.  Other variables change nothing, nor
does their order. -/
theorem load_takes_environment_first {text : Option String} {document : Table}
    (lawful : sources.Lawful) (read_eq : sources.document text = .ok document)
    (tabular : ∀ value, find? "application" document = some value → value.IsTable)
    (independent : sources.Independent environment)
    (parts : sources.SetsApplicationByParts environment) :
    sources.EnvironmentFirst environment text document := by
  have load_iff_of_same {other : List (String × String)}
      (other_independent : sources.Independent other)
      (fewer : ∀ setting ∈ sources.settings other, setting ∈ sources.settings environment)
      (same : ∀ field ∈ fields,
        setAt? (sources.settings other) field = setAt? (sources.settings environment) field) :=
    load_eq_ok_iff_of_same lawful read_eq tabular other_independent
      (fun setting member => parts setting (fewer setting member)) same
  have load_iff := load_iff_of_same independent (fun _ member => member) (fun _ _ => rfl)
  refine ⟨load_iff, ?only_fields, ?only_prefixed, ?any_order, ?by_name⟩
  case only_fields =>
    intro config
    have independent_fields : sources.Independent (sources.ofFields environment) :=
      independent.filter _
    rw [load_iff, load_iff_of_same independent_fields
        (fun setting member => (mem_settings_ofFields.mp member).1)
        (fun field known => independent.setAt?_ofFields known),
      and_iff_left (setsWholeFields_ofFields environment)]
  case only_prefixed =>
    intro config
    have settings_eq := settings_filter_isForSettings lawful environment
    rw [load_iff, load_iff_of_same (independent.filter _)
      (fun setting member => settings_eq ▸ member) (fun field _ => by rw [settings_eq]),
      SetsWholeFields, SetsWholeFields, settings_eq]
  case any_order =>
    intro other order config
    have settings_order : (sources.settings other).Perm (sources.settings environment) :=
      order.filterMap _
    rw [load_iff, load_iff_of_same (independent.of_perm order)
      (fun setting member => settings_order.mem_iff.mp member)
      (fun field _ => independent.setAt?_of_perm order field)]
    simp only [SetsWholeFields, settings_order.mem_iff]
  case by_name =>
    intro keys some_key spelled content member
    have path_eq := lawful.path?_intercalate keys some_key spelled
    rw [chosen?, independent.apart.setAt?_eq_some_iff.mpr
      (mem_settings_iff.mpr ⟨_, member, path_eq, rfl⟩), Option.some_or]

end Sources

theorem load_takes_environment_first_log_level :
    load (some "application.log_level=\"debug\"\nevents=[[\"physics\"]]")
        [("DAQ_SPLIT_APPLICATION__LOG_LEVEL", "trace"), ("HOME", "/root"),
          ("DAQ_SPLIT_COLOUR", "red")] =
      .ok
        { application := { name := "daq-splitter", logLevel := "trace" }
          events := [{ name := "physics", modules := [] }] } := by
  have reads :
      (Toml.read? "application.log_level=\"debug\"\nevents=[[\"physics\"]]").any (fun document =>
        ((Value.table document).at? [.key "application", .key "log_level"]).isSome &&
        (((Value.table document).at? [.key "application", .key "name"]).isNone &&
        ((Value.table document).at? [.key "events"]).any fun events =>
          (decodeList decodeEvent events).toOption == some [⟨"physics", []⟩])) = true := by
    decide +kernel
  obtain ⟨document, document_eq, facts⟩ := (Option.any_eq_true _ _).mp reads
  rw [Bool.and_eq_true, Bool.and_eq_true, Option.isSome_iff_exists, Option.isNone_iff_eq_none,
    Option.any_eq_true] at facts
  obtain ⟨⟨level, level_at⟩, name_unset, events, events_at, events_eq⟩ := facts
  have read_eq : Sources.standard.document
      (some "application.log_level=\"debug\"\nevents=[[\"physics\"]]") = .ok document := by
    simp only [Sources.document, Sources.standard, document_eq]
  have settings_eq :
      Sources.standard.settings [("DAQ_SPLIT_APPLICATION__LOG_LEVEL", "trace"),
          ("HOME", "/root"), ("DAQ_SPLIT_COLOUR", "red")] =
        [(["application", "log_level"], .text "trace"), (["colour"], .text "red")] := by
    have level_path : Sources.standard.path? "DAQ_SPLIT_APPLICATION__LOG_LEVEL" =
        some ["application", "log_level"] := by
      decide +kernel
    have home_path : Sources.standard.path? "HOME" = none := rfl
    have colour_path : Sources.standard.path? "DAQ_SPLIT_COLOUR" = some ["colour"] := by
      decide +kernel
    have trace_value : Sources.standard.value "trace" = .text "trace" := rfl
    have red_value : Sources.standard.value "red" = .text "red" := rfl
    simp [Sources.settings, level_path, home_path, colour_path, trace_value, red_value]
  have independent :
      Sources.standard.Independent [("DAQ_SPLIT_APPLICATION__LOG_LEVEL", "trace"),
        ("HOME", "/root"), ("DAQ_SPLIT_COLOUR", "red")] := by
    constructor
    case names => simp
    case apart => simp [settings_eq, Apart]
  refine ((Sources.load_takes_environment_first Sources.standard_lawful read_eq ?tabular
    independent ?parts).load_iff _).mpr ⟨?chosen, ?whole⟩
  case tabular =>
    intro value found
    have below : (Value.table document).at?
        ((["application"] ++ ["log_level"]).map .key) = some level := level_at
    obtain ⟨entries, table_at⟩ := Value.isTable_of_at?_append (List.cons_ne_nil _ _) below
    rw [List.map_singleton, Value.at?_single, found] at table_at
    exact ⟨entries, Option.some.inj table_at⟩
  case parts => simp [Sources.SetsApplicationByParts, settings_eq]
  case chosen =>
    constructor
    case name =>
      simp [Sources.chosen?, settings_eq, setAt?, name_unset, OrDefault, Application.defaultName]
    case logLevel => simp [Sources.chosen?, settings_eq, setAt?, OrDefault, DescribesText]
    case events =>
      have chosen_eq : Sources.standard.chosen? [("DAQ_SPLIT_APPLICATION__LOG_LEVEL", "trace"),
          ("HOME", "/root"), ("DAQ_SPLIT_COLOUR", "red")] document ["events"] = some events := by
        simp [Sources.chosen?, settings_eq, setAt?, events_at]
      rw [chosen_eq]
      exact (decodeList_eq_ok_iff decodeEvent_eq_ok_iff events _).mp
        (Except.toOption_eq_some_iff.mp (eq_of_beq events_eq))
  case whole => simp [Sources.SetsWholeFields, settings_eq, fields]

end Readout.Settings
