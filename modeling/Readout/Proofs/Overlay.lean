import Mathlib.Data.List.Pairwise
import Readout.Settings.Sources

/-!
# Settings put over one another

Where tables are merged key by key, the value at a path is found by following the path in
both tables, as long as the later one has nothing but tables on the way.  A table that holds
settings has only tables on the way to a path that no setting ends before, and at the path
what was set there, a table if settings go on beyond it, or nothing.
-/

namespace Readout.Settings

namespace Value

def IsTable (value : Value) : Prop :=
  ∃ entries, value = .table entries

def under? (key : String) : Value → Option Value
  | table entries => find? key entries
  | _ => none

theorem at?_key (value : Value) (key : String) (path : Path) :
    value.at? (.key key :: path) = (value.under? key).bind (at? · path) := by
  cases value <;> rfl

theorem bind_at?_nil (value : Option Value) : value.bind (at? · []) = value := by
  cases value with
  | none => rfl
  | some value => cases value <;> rfl

theorem at?_single (entries : Table) (key : String) :
    (table entries).at? [.key key] = find? key entries := by
  rw [at?_key, bind_at?_nil, under?]

/-- Only a table has anything below it. -/
theorem isTable_of_at?_append {value found : Value} {path rest : List String}
    (below : rest ≠ []) (found_eq : value.at? ((path ++ rest).map .key) = some found) :
    ∃ entries, value.at? (path.map .key) = some (.table entries) := by
  induction path generalizing value with
  | nil =>
      cases rest with
      | nil => exact absurd rfl below
      | cons key rest =>
          cases value with
          | table entries => exact ⟨entries, rfl⟩
          | _ => cases found_eq
  | cons key path induction =>
      rw [List.cons_append, List.map_cons, at?_key] at found_eq
      obtain ⟨next, next_eq, rest_eq⟩ := Option.bind_eq_some_iff.mp found_eq
      rw [List.map_cons, at?_key, next_eq]
      exact induction rest_eq

/-! ## One value over another -/

variable {merge : Table → Table → Table}

theorem overlaid_none (merge : Table → Table → Table) (later : Option Value) :
    overlaid merge none later = later := by
  obtain - | value := later
  · rfl
  · cases value <;> rfl

theorem overlaid_of_not_isTable (earlier : Option Value) {value : Value}
    (plain : ¬ value.IsTable) : overlaid merge earlier (some value) = some value := by
  cases value with
  | table entries => exact absurd ⟨entries, rfl⟩ plain
  | _ =>
      obtain - | old := earlier
      · rfl
      · cases old <;> rfl

theorem overlaid_table (merge : Table → Table → Table) (earlier : Option Value)
    (entries : Table) : ∃ merged, overlaid merge earlier (some (.table entries)) =
      some (.table merged) := by
  obtain - | old := earlier
  · exact ⟨entries, rfl⟩
  · cases old with
    | table before => exact ⟨merge before entries, rfl⟩
    | _ => exact ⟨entries, rfl⟩

variable (mergesByKey : MergesByKey merge)
include mergesByKey

theorem under?_overlaid (earlier : Option Value) {later : Option Value}
    (tabular : ∀ value, later = some value → value.IsTable) (key : String) :
    (overlaid merge earlier later).bind (under? key) =
      overlaid merge (earlier.bind (under? key)) (later.bind (under? key)) := by
  obtain - | value := later
  · cases earlier <;> rfl
  · obtain ⟨after, rfl⟩ := tabular value rfl
    have alone : find? key after = overlaid merge none (find? key after) :=
      (overlaid_none merge _).symm
    obtain - | old := earlier
    · exact alone
    · cases old with
      | table before => exact mergesByKey before after key
      | _ => exact alone

/-- The value at a path, if the later value has nothing but tables on the way. -/
theorem at?_overlaid (earlier later : Option Value) {path : List String}
    (tabular : ∀ front value, front <+: path → front ≠ path →
      later.bind (at? · (front.map .key)) = some value → value.IsTable) :
    (overlaid merge earlier later).bind (at? · (path.map .key)) =
      overlaid merge (earlier.bind (at? · (path.map .key)))
        (later.bind (at? · (path.map .key))) := by
  induction path generalizing earlier later with
  | nil => rw [List.map_nil, bind_at?_nil, bind_at?_nil, bind_at?_nil]
  | cons key path induction =>
      have here : ∀ value, later = some value → value.IsTable := by
        intro value later_eq
        refine tabular [] value List.nil_prefix (List.cons_ne_nil key path).symm ?_
        rw [List.map_nil, bind_at?_nil, later_eq]
      have at_cons (value : Option Value) (rest : List String) :
          value.bind (at? · ((key :: rest).map .key)) =
            (value.bind (under? key)).bind (at? · (rest.map .key)) := by
        simp only [List.map_cons, at?_key, Option.bind_assoc]
      rw [at_cons, at_cons, at_cons, under?_overlaid mergesByKey earlier here]
      apply induction
      intro front value front_path front_ne found_eq
      refine tabular (key :: front) value (List.cons_prefix_cons.mpr ⟨rfl, front_path⟩)
        (fun same => front_ne (List.cons.inj same).2) ?_
      rw [at_cons, found_eq]

end Value

/-! ## Settings that do not touch each other -/

/-- The value that a setting gives to a path. -/
def setAt? (settings : List Setting) (path : List String) : Option Value :=
  (settings.find? fun setting => setting.1 = path).map Prod.snd

theorem mem_of_setAt? {settings : List Setting} {path : List String} {value : Value}
    (set_eq : setAt? settings path = some value) : (path, value) ∈ settings := by
  obtain ⟨setting, found_eq, rfl⟩ := Option.map_eq_some_iff.mp set_eq
  have path_eq := List.find?_some found_eq
  rw [← of_decide_eq_true path_eq]
  exact List.mem_of_find?_eq_some found_eq

theorem ne_of_setAt?_eq_none {settings : List Setting} {path : List String}
    (unset : setAt? settings path = none) : ∀ setting ∈ settings, setting.1 ≠ path := by
  intro setting member same
  have other := List.find?_eq_none.mp (Option.map_eq_none_iff.mp unset) setting member
  exact other (decide_eq_true same)

namespace Apart

variable {settings : List Setting} (apart : Apart settings)
include apart

theorem eq_of_prefix {first second : Setting} (first_member : first ∈ settings)
    (second_member : second ∈ settings) (front : first.1 <+: second.1) : second = first := by
  by_contra different
  have symmetric : Std.Symm fun one other : Setting =>
      ¬ one.1 <+: other.1 ∧ ¬ other.1 <+: one.1 := ⟨fun _ _ away => away.symm⟩
  have untouched := List.Pairwise.forall apart second_member first_member different
  exact untouched.2 front

theorem setAt?_eq_some_iff {path : List String} {value : Value} :
    setAt? settings path = some value ↔ (path, value) ∈ settings := by
  refine ⟨mem_of_setAt?, fun member => ?_⟩
  cases set_eq : setAt? settings path with
  | none => exact absurd rfl (ne_of_setAt?_eq_none set_eq _ member)
  | some found =>
      obtain ⟨⟩ := apart.eq_of_prefix member (mem_of_setAt? set_eq) (List.prefix_refl path)
      rfl

theorem setAt?_congr {other : List Setting} (other_apart : Apart other) {path : List String}
    (same : ∀ value, (path, value) ∈ settings ↔ (path, value) ∈ other) :
    setAt? settings path = setAt? other path := by
  apply Option.ext
  intro value
  rw [apart.setAt?_eq_some_iff, other_apart.setAt?_eq_some_iff]
  exact same value

end Apart

/-! ## Tables that hold settings -/

/-- No setting ends before the end of a path. -/
def OpenUpTo (settings : List Setting) (path : List String) : Prop :=
  ∀ setting ∈ settings, setting.1 <+: path → setting.1 = path

namespace Holds

variable {table : Table} {settings : List Setting} (holds : Holds table settings)
include holds

/-- Where nothing is set there is nothing, or the table of what is set further on. -/
theorem at?_of_unset {path : List String} (nonempty : path ≠ [])
    (unset : ∀ setting ∈ settings, ¬ setting.1 <+: path) :
    ((Value.table table).at? (path.map .key) = none ∧
        ∀ setting ∈ settings, ¬ path <+: setting.1) ∨
      ((∃ entries, (Value.table table).at? (path.map .key) = some (.table entries)) ∧
        ∃ setting ∈ settings, path <+: setting.1) := by
  by_cases beyond : ∃ setting ∈ settings, path <+: setting.1
  · obtain ⟨⟨_, value⟩, member, rest, rfl⟩ := beyond
    have below : rest ≠ [] := by
      rintro rfl
      exact unset _ member ((List.append_nil path).symm ▸ List.prefix_refl path)
    refine .inr ⟨Value.isTable_of_at?_append below (holds.found _ member), _, member, ?_⟩
    exact List.prefix_append path rest
  · have away : ∀ setting ∈ settings, ¬ path <+: setting.1 :=
      fun setting member front => beyond ⟨setting, member, front⟩
    exact .inl ⟨holds.nothing_else path nonempty fun setting member =>
      ⟨unset setting member, away setting member⟩, away⟩

theorem isTable_of_front {path front : List String} {value : Value}
    (open_path : OpenUpTo settings path) (front_path : front <+: path) (front_ne : front ≠ path)
    (found_eq : (Value.table table).at? (front.map .key) = some value) : value.IsTable := by
  by_cases empty : front = []
  · subst empty
    obtain ⟨⟩ := found_eq
    exact ⟨table, rfl⟩
  · have unset : ∀ setting ∈ settings, ¬ setting.1 <+: front := by
      intro setting member before
      have whole := open_path setting member (before.trans front_path)
      exact front_ne (front_path.eq_of_length_le (whole ▸ before.length_le))
    obtain ⟨none_eq, -⟩ | ⟨⟨entries, table_eq⟩, -⟩ := holds.at?_of_unset empty unset
    · rw [none_eq] at found_eq
      cases found_eq
    · rw [table_eq] at found_eq
      obtain ⟨⟩ := found_eq
      exact ⟨entries, rfl⟩

theorem at?_merge {merge : Table → Table → Table} (mergesByKey : MergesByKey merge)
    (earlier : Table) {path : List String}
    (open_path : OpenUpTo settings path) :
    (Value.table (merge earlier table)).at? (path.map .key) =
      Value.overlaid merge ((Value.table earlier).at? (path.map .key))
        ((Value.table table).at? (path.map .key)) := by
  exact Value.at?_overlaid mergesByKey (some (.table earlier)) (some (.table table))
    fun front value front_path front_ne found_eq =>
      holds.isTable_of_front open_path front_path front_ne found_eq

theorem merge_single {merge : Table → Table → Table} (mergesByKey : MergesByKey merge)
    {added : Table} {setting : Setting} (holds_added : Holds added [setting])
    (nonempty : setting.1 ≠ []) (apart : Apart (settings ++ [setting])) :
    Holds (merge table added) (settings ++ [setting]) := by
  have away : AwayFrom settings setting.1 := fun other member =>
    (List.pairwise_append.mp apart).2.2 other member setting (List.mem_singleton.mpr rfl)
  have last_mem : setting ∈ [setting] := List.mem_singleton.mpr rfl
  have merge_eq {path : List String} (open_path : OpenUpTo [setting] path) :=
    holds_added.at?_merge mergesByKey table open_path
  constructor
  case found =>
    intro other member
    obtain before | last := List.mem_append.mp member
    · obtain ⟨notOther, notSetting⟩ := away other before
      have other_nonempty : other.1 ≠ [] := fun empty => notOther (empty ▸ List.nil_prefix)
      have away_other : AwayFrom [setting] other.1 := by
        intro found found_member
        rw [List.mem_singleton.mp found_member]
        exact ⟨notSetting, notOther⟩
      rw [merge_eq fun found found_member front => absurd front (away_other found found_member).1,
        holds.found other before, holds_added.nothing_else other.1 other_nonempty away_other]
      rfl
    · obtain rfl := List.mem_singleton.mp last
      rw [merge_eq fun found member _ => congrArg Prod.fst (List.mem_singleton.mp member),
        holds.nothing_else other.1 nonempty away, holds_added.found other last_mem,
        Value.overlaid_none]
  case nothing_else =>
    intro path path_nonempty away_path
    have away_settings : AwayFrom settings path := fun other member =>
      away_path other (List.mem_append_left _ member)
    have away_setting : AwayFrom [setting] path := fun other member =>
      away_path other (List.mem_append_right _ member)
    rw [merge_eq fun found found_member front => absurd front (away_setting found found_member).1,
      holds.nothing_else path path_nonempty away_settings,
      holds_added.nothing_else path path_nonempty away_setting]
    rfl

end Holds

end Readout.Settings
