import Mathlib.Data.List.Nodup
import Readout.Proofs.Overlay
import Readout.Settings.Standard

/-!
# The sources of a program are lawful

A name spells a path if it is made of keys that contain no mark of their own.  Variables
that do not touch each other's path are read one after the other, each into a table that is
put over what the others have set, so all of them are held in the end.
-/

namespace Readout.Settings

theorem Value.mergesByKey_mergeEntries : MergesByKey Value.mergeEntries := by
  intro earlier later key
  induction later with
  | nil =>
      rw [mergeEntries]
      rfl
  | cons entry later induction =>
      obtain ⟨name, value⟩ := entry
      rw [mergeEntries, find?_put, find?]
      by_cases same : name = key
      · subst same
        rw [if_pos rfl, if_pos rfl]
        cases find? name earlier with
        | none => exact (overlaid_none _ _).symm
        | some old => cases old <;> cases value <;> simp [merge, overlaid]
      · rw [if_neg same, if_neg same, induction]

namespace Environment

open Text

/-! ## Names -/

theorem splitName_ne_nil (characters : List Char) : splitName characters ≠ [] := by
  fun_cases splitName characters <;> exact List.cons_ne_nil _ _

theorem splitName_cons {character : Char} {rest : List Char} (point : character ≠ '.')
    (pair : character = '_' → rest.head? ≠ some '_') :
    splitName (character :: rest) =
      (character :: (splitName rest).headD []) :: (splitName rest).tail := by
  rw [splitName]
  · cases parts_eq : splitName rest with
    | nil => exact absurd parts_eq (splitName_ne_nil rest)
    | cons part parts => rfl
  · exact point
  · rintro more rfl rfl
    exact pair rfl rfl

theorem splitName_append {key : List Char} (no_point : ∀ character ∈ key, character ≠ '.')
    (no_pair : ¬ ['_', '_'] <:+: key) (no_end : key.getLast? ≠ some '_') (rest : List Char) :
    splitName (key ++ rest) = (key ++ (splitName rest).headD []) :: (splitName rest).tail := by
  induction key with
  | nil =>
      cases parts_eq : splitName rest with
      | nil => exact absurd parts_eq (splitName_ne_nil rest)
      | cons part parts => exact parts_eq
  | cons character key induction =>
      have others := induction (fun other member => no_point other (List.mem_cons_of_mem _ member))
        (fun inside => no_pair (inside.trans (List.suffix_cons character key).isInfix))
      cases key with
      | nil =>
          have single : character ≠ '_' := fun same => no_end (same ▸ rfl)
          rw [List.cons_append, splitName_cons (no_point character (List.mem_cons_self ..))
            (fun same => absurd same single), others nofun]
          rfl
      | cons next key =>
          have pair : character = '_' → (next :: key ++ rest).head? ≠ some '_' := by
            rintro rfl next_eq
            obtain rfl := Option.some.inj next_eq
            exact no_pair (List.prefix_append ['_', '_'] key).isInfix
          rw [List.cons_append, splitName_cons (no_point character (List.mem_cons_self ..)) pair,
            others no_end]
          rfl

theorem splitName_intercalate {keys : List String} (some_key : keys ≠ [])
    (spelled : ∀ key ∈ keys, IsKey key) :
    splitName ("__".intercalate keys).toList = keys.map String.toList := by
  rw [String.toList_intercalate]
  induction keys with
  | nil => exact absurd rfl some_key
  | cons key keys induction =>
      have first := spelled key (List.mem_cons_self ..)
      have split_key := splitName_append first.no_point first.no_pair first.no_end
      cases keys with
      | nil =>
          rw [List.map_singleton, List.intercalate_singleton, ← List.append_nil key.toList,
            split_key]
          rfl
      | cons next keys =>
          have others := induction (List.cons_ne_nil next keys)
            fun other member => spelled other (List.mem_cons_of_mem _ member)
          have mark_eq (rest : List Char) :
              splitName ("__".toList ++ rest) = [] :: splitName rest := splitName.eq_3 rest
          rw [List.map_cons, List.map_cons, List.intercalate_cons_cons, List.append_assoc,
            split_key, mark_eq, ← List.map_cons, others, List.headD_cons, List.append_nil]
          rfl

theorem trimBlanks_of_no_blank {characters : List Char}
    (no_blank : ∀ character ∈ characters, isBlank character = false) :
    trimBlanks characters = characters := by
  have kept {list : List Char} (same : ∀ character ∈ list, isBlank character = false) :
      list.dropWhile isBlank = list := by
    cases list with
    | nil => rfl
    | cons first rest =>
        rw [List.dropWhile_cons_of_neg (ne_true_of_eq_false (same first (List.mem_cons_self ..)))]
  rw [trimBlanks, kept no_blank,
    kept fun character member => no_blank character (List.mem_reverse.mp member),
    List.reverse_reverse]

theorem startsWithAnyCase_append (start rest : List Char) :
    startsWithAnyCase (start ++ rest) start = true := by
  induction start with
  | nil => rw [List.nil_append, startsWithAnyCase]
  | cons character start induction =>
      rw [List.cons_append, startsWithAnyCase, beq_self_eq_true, induction]
      rfl

theorem isBlank_of_all {characters : List Char}
    (all_visible : characters.all (!isBlank ·) = true) :
    ∀ character ∈ characters, isBlank character = false := by
  intro character member
  have visible := List.all_eq_true.mp all_visible character member
  simpa using visible

theorem isBlank_of_mem_intercalate {keys : List String} (spelled : ∀ key ∈ keys, IsKey key) :
    ∀ character ∈ ("__".intercalate keys).toList, isBlank character = false := by
  rw [String.toList_intercalate]
  induction keys with
  | nil => exact nofun
  | cons key keys induction =>
      have first := (spelled key (List.mem_cons_self ..)).no_blank
      have others := induction fun other member => spelled other (List.mem_cons_of_mem _ member)
      cases keys with
      | nil => rwa [List.map_singleton, List.intercalate_singleton]
      | cons next keys =>
          rw [List.map_cons, List.map_cons, List.intercalate_cons_cons, ← List.map_cons]
          intro character member
          rw [List.mem_append, List.mem_append] at member
          obtain (key_member | mark_member) | rest_member := member
          · exact first character key_member
          · exact isBlank_of_all (by decide) character mark_member
          · exact others character rest_member

theorem path?_intercalate {keys : List String} (some_key : keys ≠ [])
    (spelled : ∀ key ∈ keys, IsKey key) :
    path? (nameStart ++ "__".intercalate keys) =
      some (keys.map fun key => key.map Char.toLower) := by
  have keys_no_blank := isBlank_of_mem_intercalate spelled
  have no_blank : ∀ character ∈ (nameStart ++ "__".intercalate keys).toList,
      isBlank character = false := by
    intro character member
    rw [String.toList_append, List.mem_append] at member
    obtain start_member | key_member := member
    · exact isBlank_of_all (by decide) character start_member
    · exact keys_no_blank character key_member
  have nonempty : ¬ (keys.map String.toList).any List.isEmpty = true := by
    intro empty
    obtain ⟨_, member, part_empty⟩ := List.any_eq_true.mp empty
    obtain ⟨key, key_member, rfl⟩ := List.mem_map.mp member
    exact (spelled key key_member).nonempty
      (String.toList_eq_nil_iff.mp (List.isEmpty_iff.mp part_empty))
  have dropped : (nameStart.toList ++ ("__".intercalate keys).toList).drop nameStart.length =
      ("__".intercalate keys).toList := by
    rw [← String.length_toList, List.drop_left]
  rw [path?, isForSettings, trimBlanks_of_no_blank no_blank, String.toList_append,
    if_pos (startsWithAnyCase_append _ _)]
  simp only [dropped]
  rw [trimBlanks_of_no_blank keys_no_blank, splitName_intercalate some_key spelled]
  simp only [if_neg nonempty, List.map_map, Function.comp_def, String.ofList_toList]

theorem path_ne_nil {name : String} {path : List String} (path_eq : path? name = some path) :
    path ≠ [] := by
  rw [path?, Option.ite_none_right_eq_some] at path_eq
  obtain ⟨-, parts_eq⟩ := Option.ite_none_left_eq_some.mp path_eq.2
  obtain ⟨⟩ := parts_eq
  exact fun empty => splitName_ne_nil _ (List.map_eq_nil_iff.mp empty)

theorem isForSettings_of_path {name : String} {path : List String}
    (path_eq : path? name = some path) : isForSettings name = true := by
  rw [path?, Option.ite_none_right_eq_some] at path_eq
  exact path_eq.1

/-! ## Variables -/

theorem at?_nest (value : Value) (path : List String) :
    (nest value path).at? (path.map .key) = some value := by
  induction path with
  | nil => cases value <;> rfl
  | cons key path induction =>
      rw [nest, List.map_cons, Value.at?_key, Value.under?, find?, if_pos rfl]
      exact induction

theorem at?_nest_of_away (value : Value) {path other : List String}
    (away : ¬ path <+: other ∧ ¬ other <+: path) :
    (nest value path).at? (other.map .key) = none := by
  induction path generalizing other with
  | nil => exact absurd List.nil_prefix away.1
  | cons key path induction =>
      cases other with
      | nil => exact absurd List.nil_prefix away.2
      | cons first other =>
          rw [nest, List.map_cons, Value.at?_key, Value.under?, find?, find?]
          split
          case isTrue same =>
            subst same
            rw [List.cons_prefix_cons, List.cons_prefix_cons] at away
            exact induction (away.imp (mt (.intro rfl)) (mt (.intro rfl)))
          case isFalse different => rfl

/-- A variable holds just what it sets. -/
theorem holds_ofVariable {name : String} {path : List String} (path_eq : path? name = some path)
    (text : String) : Holds (ofVariable name text) [(path, ofText text)] := by
  have table_eq : Value.table (ofVariable name text) = nest (ofText text) path := by
    rw [ofVariable, path_eq]
    cases path with
    | nil => exact absurd rfl (path_ne_nil path_eq)
    | cons key path => rfl
  constructor
  case found =>
    intro setting member
    rw [List.mem_singleton.mp member, table_eq]
    exact at?_nest (ofText text) path
  case nothing_else =>
    intro other _ away
    rw [table_eq]
    exact at?_nest_of_away (ofText text) (away _ (List.mem_singleton.mpr rfl))

theorem holds_foldl_ofVariable {environment : List (String × String)} {table : Table}
    {settings : List Setting} (holds : Holds table settings)
    (apart : Apart (settings ++ Sources.standard.settings environment)) :
    Holds (environment.foldl
        (fun table (name, text) => Value.mergeEntries table (ofVariable name text)) table)
      (settings ++ Sources.standard.settings environment) := by
  induction environment generalizing table settings with
  | nil => exact (List.append_nil settings).symm ▸ holds
  | cons entry environment induction =>
      obtain ⟨name, text⟩ := entry
      change Holds (environment.foldl _ (Value.mergeEntries table (ofVariable name text))) _
      cases path_eq : path? name with
      | none =>
          have settings_eq : Sources.standard.settings ((name, text) :: environment) =
              Sources.standard.settings environment :=
            List.filterMap_cons_none (congrArg (Option.map fun path => (path, ofText text)) path_eq)
          have nothing : ofVariable name text = [] := by rw [ofVariable, path_eq, Option.map_none]
          rw [settings_eq] at apart ⊢
          rw [nothing, Value.mergeEntries]
          exact induction holds apart
      | some path =>
          have settings_eq : Sources.standard.settings ((name, text) :: environment) =
              (path, ofText text) :: Sources.standard.settings environment :=
            List.filterMap_cons_some (congrArg (Option.map fun path => (path, ofText text)) path_eq)
          rw [settings_eq, List.append_cons] at apart ⊢
          exact induction (holds.merge_single Value.mergesByKey_mergeEntries
            (holds_ofVariable path_eq text) (path_ne_nil path_eq)
            (List.pairwise_append.mp apart).1) apart

theorem put_of_not_mem {key : String} (value : α) {entries : List (String × α)}
    (fresh : key ∉ entries.map Prod.fst) : put key value entries = entries ++ [(key, value)] := by
  induction entries with
  | nil => rfl
  | cons entry entries induction =>
      rw [List.map_cons, List.mem_cons, not_or] at fresh
      rw [put, if_neg (Ne.symm fresh.1), induction fresh.2, List.cons_append]

theorem foldl_put_of_nodup {entries added : List (String × α)}
    (names : ((entries ++ added).map Prod.fst).Nodup) :
    added.foldl (fun all (key, value) => put key value all) entries = entries ++ added := by
  induction added generalizing entries with
  | nil => exact (List.append_nil entries).symm
  | cons entry added induction =>
      obtain ⟨key, value⟩ := entry
      have fresh : key ∉ entries.map Prod.fst := by
        rw [List.map_append, List.map_cons] at names
        exact fun member => List.disjoint_of_nodup_append names member (List.mem_cons_self ..)
      rw [List.append_cons] at names ⊢
      rw [← induction names, ← put_of_not_mem value fresh]
      rfl

theorem assign_of_nodup {environment : List (String × String)}
    (names : (environment.map Prod.fst).Nodup) : assign environment = environment := by
  rw [← List.nil_append environment] at names
  exact foldl_put_of_nodup names

end Environment

theorem Sources.standard_lawful : Sources.standard.Lawful where
  path_ne_nil := fun _ _ => Environment.path_ne_nil
  isForSettings_of_path := fun _ _ => Environment.isForSettings_of_path
  path?_intercalate := fun _ => Environment.path?_intercalate
  mergesByKey := Value.mergesByKey_mergeEntries
  holds_readVariables := by
    intro environment independent
    have empty : Holds [] [] := by
      refine ⟨nofun, fun path nonempty _ => ?_⟩
      cases path with
      | nil => exact absurd rfl nonempty
      | cons key path => rfl
    change Holds (Environment.read environment) _
    rw [Environment.read, Environment.assign_of_nodup independent.names]
    exact Environment.holds_foldl_ofVariable empty independent.apart

end Readout.Settings
