import Readout.Proofs.Rounds

/-!
# What one module gets

The calls of a decode cycle carry the words of all modules of a slot.  Seen from
one module, a slot that is split delivers the sub-events of that module and
settles its statistics, whatever the other modules hold; any other slot delivers
the dynamic region as a whole.
-/

namespace Readout

namespace Call

/-- The words of the dynamic calls for one module, in order. -/
def dynamicWords (event module : Nat) (calls : List Call) : List (List Word) :=
  calls.filterMap fun call =>
    match call with
    | dynamic calledEvent calledModule words =>
        if calledEvent = event ∧ calledModule = module then some words else none
    | _ => none

@[simp]
theorem dynamicWords_nil (event module : Nat) : dynamicWords event module [] = [] := rfl

@[simp]
theorem dynamicWords_append (event module : Nat) (front back : List Call) :
    dynamicWords event module (front ++ back) =
      dynamicWords event module front ++ dynamicWords event module back :=
  List.filterMap_append

@[simp]
theorem dynamicWords_beginEvent (event module begun : Nat) (calls : List Call) :
    dynamicWords event module (beginEvent begun :: calls) =
      dynamicWords event module calls := rfl

@[simp]
theorem dynamicWords_endEvent (event module ended : Nat) :
    dynamicWords event module [endEvent ended] = [] := rfl

theorem dynamicWords_dynamic (event module index : Nat) (words : List Word)
    (calls : List Call) :
    dynamicWords event module (dynamic event index words :: calls) =
      (if index = module then [words] else []) ++ dynamicWords event module calls := by
  by_cases same : index = module
  · simp [dynamicWords, same]
  · simp [dynamicWords, same]

@[simp]
theorem dynamicWords_leading (event module index : Nat) (words : List Word) :
    dynamicWords event module (forWords .leading event index words) = [] := by
  unfold forWords
  split <;> rfl

@[simp]
theorem dynamicWords_trailing (event module index : Nat) (words : List Word) :
    dynamicWords event module (forWords .trailing event index words) = [] := by
  unfold forWords
  split <;> rfl

theorem dynamicWords_forWords_dynamic (event module index : Nat) (words : List Word) :
    dynamicWords event module (forWords .dynamic event index words) =
      if index = module ∧ words ≠ [] then [words] else [] := by
  cases words with
  | nil => simp [forWords]
  | cons word words =>
      have single : forWords .dynamic event index (word :: words) =
          [dynamic event index (word :: words)] := rfl
      simp [single, dynamicWords_dynamic]

theorem dynamicWords_flatten (event module : Nat) (brackets : List (List Call)) :
    dynamicWords event module brackets.flatten =
      (brackets.map (dynamicWords event module)).flatten :=
  List.filterMap_flatten

end Call

namespace Cutting

theorem dynamicWords_moduleCalls (event number module index : Nat) (header : Header)
    (recorded : Regions) :
    Call.dynamicWords event module (moduleCalls event number index header recorded) =
      if index = module then ((header.delivered recorded.dynamic)[number]?).toList
      else [] := by
  rw [Header.getElem?_delivered]
  unfold moduleCalls
  split
  · rename_i words step_eq
    rw [step_eq, Call.dynamicWords_append, Call.dynamicWords_dynamic]
    simp [Cut.delivered?]
  · rename_i other
    have nothing : (header.cuts recorded.dynamic)[number]?.bind Cut.delivered? = none := by
      cases step_eq : (header.cuts recorded.dynamic)[number]? with
      | none => rfl
      | some step =>
          cases step with
          | subEvent words => exact absurd step_eq (other words)
          | truncated => rfl
    simp [nothing]

theorem dynamicWords_callsFrom_of_lt {module index : Nat} (below : module < index)
    (event number : Nat) (modules : List (Header × Regions)) :
    Call.dynamicWords event module (callsFrom event number index modules) = [] := by
  induction modules generalizing index with
  | nil => rfl
  | cons entry modules induction =>
      rw [callsFrom, Call.dynamicWords_append, dynamicWords_moduleCalls,
        if_neg (Nat.ne_of_gt below), induction (Nat.lt_succ_of_lt below)]
      rfl

theorem dynamicWords_callsFrom {modules : List (Header × Regions)} {module : Nat}
    {header : Header} {recorded : Regions}
    (entry_at : modules[module]? = some (header, recorded)) (event number index : Nat) :
    Call.dynamicWords event (index + module) (callsFrom event number index modules) =
      ((header.delivered recorded.dynamic)[number]?).toList := by
  induction modules generalizing index module with
  | nil => simp at entry_at
  | cons entry modules induction =>
      rw [callsFrom, Call.dynamicWords_append, dynamicWords_moduleCalls]
      cases module with
      | zero =>
          have entry_eq : entry = (header, recorded) := by simpa using entry_at
          rw [Nat.add_zero, if_pos rfl, entry_eq,
            dynamicWords_callsFrom_of_lt (Nat.lt_add_one index), List.append_nil]
      | succ module =>
          have later := induction (by simpa using entry_at) (index + 1)
          rw [if_neg (by omega), List.nil_append, ← later]
          congr 1
          omega

theorem dynamicWords_bracket {modules : List (Header × Regions)} {module : Nat}
    {header : Header} {recorded : Regions}
    (entry_at : modules[module]? = some (header, recorded)) (event number : Nat) :
    Call.dynamicWords event module (bracket event modules number) =
      ((header.delivered recorded.dynamic)[number]?).toList := by
  have calls := dynamicWords_callsFrom entry_at event number 0
  rw [Nat.zero_add] at calls
  simp [bracket, calls]

private theorem flatten_map_getElem?_range {α : Type} (items : List α) {count : Nat}
    (enough : items.length ≤ count) :
    ((List.range count).map fun number => items[number]?.toList).flatten = items := by
  induction items generalizing count with
  | nil => simp
  | cons item items induction =>
      obtain ⟨later, rfl⟩ : ∃ later, count = later + 1 :=
        Nat.exists_eq_succ_of_ne_zero (Nat.ne_of_gt (Nat.lt_of_lt_of_le (Nat.succ_pos _) enough))
      have tail := induction (Nat.le_of_succ_le_succ enough)
      rw [List.range_succ_eq_map, List.map_cons, List.map_map, List.flatten_cons]
      exact congrArg (item :: ·) tail

theorem dynamicWords_brackets {modules : List (Header × Regions)} {module : Nat}
    {header : Header} {recorded : Regions}
    (entry_at : modules[module]? = some (header, recorded)) (event : Nat) :
    Call.dynamicWords event module (brackets event modules).flatten =
      header.delivered recorded.dynamic := by
  have enough : (header.delivered recorded.dynamic).length ≤ stepCount modules := by
    have steps := length_cuts_le_stepCount (List.mem_of_getElem? entry_at)
    rw [Header.length_cuts] at steps
    exact Nat.le_trans (Nat.le_add_right _ _) steps
  rw [Call.dynamicWords_flatten, brackets, List.map_map]
  simp only [Function.comp_def, dynamicWords_bracket entry_at]
  exact flatten_map_getElem?_range _ enough

end Cutting

namespace Lanes

theorem map_entry_ofModules (index : Nat) {headers : List Header}
    {regions : List Regions} {tallies : List ModuleTally}
    (fitting : regions.length = headers.length)
    (counted : tallies.length = headers.length) :
    (ofModules index headers regions tallies).map Lane.entry = headers.zip regions := by
  fun_induction ofModules index headers regions tallies with
  | case1 index header headers recorded regions tally tallies induction =>
      rw [List.map_cons, induction (by simpa using fitting) (by simpa using counted)]
      rfl
  | case2 headers index regions tallies exhausted =>
      cases headers with
      | nil => rfl
      | cons header headers =>
          obtain ⟨recorded, regions, rfl⟩ := List.exists_cons_of_length_eq_add_one fitting
          obtain ⟨tally, tallies, rfl⟩ := List.exists_cons_of_length_eq_add_one counted
          exact (exhausted _ _ _ _ _ _ rfl rfl rfl).elim

theorem getElem?_ofModules {headers : List Header} {regions : List Regions}
    {tallies : List ModuleTally} {module : Nat} {header : Header} {recorded : Regions}
    {tally : ModuleTally} (header_at : headers[module]? = some header)
    (recorded_at : regions[module]? = some recorded)
    (tally_at : tallies[module]? = some tally) (index : Nat) :
    (ofModules index headers regions tallies)[module]? =
      some { index := index + module, header, regions := recorded, tally } := by
  fun_induction ofModules index headers regions tallies generalizing module with
  | case1 index first headers firstRecorded regions firstTally tallies induction =>
      cases module with
      | zero => simp_all
      | succ module =>
          have later := induction (by simpa using header_at) (by simpa using recorded_at)
            (by simpa using tally_at)
          rw [List.getElem?_cons_succ, later, Nat.succ_add_eq_add_succ]
  | case2 headers index regions tallies exhausted =>
      cases headers with
      | nil => simp at header_at
      | cons first headers =>
          cases regions with
          | nil => simp at recorded_at
          | cons firstRecorded regions =>
              cases tallies with
              | nil => simp at tally_at
              | cons firstTally tallies =>
                  exact (exhausted _ _ _ _ _ _ rfl rfl rfl).elim

end Lanes

namespace Slot

section Splitting

variable {slot : Slot} (splitting : slot.splitting = true) {regions : List Regions}
  {tallies : List ModuleTally} (fitting : regions.length = slot.headers.length)
  (counted : tallies.length = slot.headers.length)
include splitting fitting counted

theorem deliver_of_splitting (event : Nat) :
    (slot.deliver event regions tallies).calls =
        (Cutting.brackets event (slot.headers.zip regions)).flatten ∧
      (slot.deliver event regions tallies).brackets =
        (Cutting.brackets event (slot.headers.zip regions)).length ∧
      (slot.deliver event regions tallies).tallies =
        (Lanes.ofModules 0 slot.headers regions tallies).map Lane.settled := by
  rw [deliver, if_pos splitting, ← Lanes.map_entry_ofModules 0 fitting counted]
  exact Lanes.split_eq_cutting (Lanes.numbered_ofModules 0 _ _ _) event

theorem deliver_module_of_splitting (event : Nat) {module : Nat} {header : Header}
    {recorded : Regions} {tally : ModuleTally}
    (header_at : slot.headers[module]? = some header)
    (recorded_at : regions[module]? = some recorded)
    (tally_at : tallies[module]? = some tally) :
    Call.dynamicWords event module (slot.deliver event regions tallies).calls =
        header.delivered recorded.dynamic ∧
      (slot.deliver event regions tallies).tallies[module]? =
        some (header.settle recorded.dynamic tally) := by
  obtain ⟨calls, -, settled⟩ := deliver_of_splitting splitting fitting counted event
  have entry_at : (slot.headers.zip regions)[module]? = some (header, recorded) :=
    List.getElem?_zip_eq_some.mpr ⟨header_at, recorded_at⟩
  rw [calls, settled, List.getElem?_map,
    Lanes.getElem?_ofModules header_at recorded_at tally_at]
  exact ⟨Cutting.dynamicWords_brackets entry_at event, rfl⟩

end Splitting

theorem dynamicWords_wholeCalls_of_lt {module index : Nat} (below : module < index)
    (event : Nat) (regions : List Regions) :
    Call.dynamicWords event module (wholeCalls event index regions) = [] := by
  induction regions generalizing index with
  | nil => rfl
  | cons recorded regions induction =>
      have different : index ≠ module := Nat.ne_of_gt below
      simp [wholeCalls, Call.dynamicWords_forWords_dynamic, different,
        induction (Nat.lt_succ_of_lt below)]

theorem dynamicWords_wholeCalls {regions : List Regions} {module : Nat}
    {recorded : Regions} (recorded_at : regions[module]? = some recorded)
    (event index : Nat) :
    Call.dynamicWords event (index + module) (wholeCalls event index regions) =
      if recorded.dynamic ≠ [] then [recorded.dynamic] else [] := by
  induction regions generalizing index module with
  | nil => simp at recorded_at
  | cons first regions induction =>
      cases module with
      | zero =>
          have first_eq : first = recorded := by simpa using recorded_at
          have later := dynamicWords_wholeCalls_of_lt (Nat.lt_add_one index) event regions
          simp [wholeCalls, Call.dynamicWords_forWords_dynamic, later, first_eq]
      | succ module =>
          have later := induction (by simpa using recorded_at) (index + 1)
          rw [Nat.succ_add_eq_add_succ] at later
          simp [wholeCalls, Call.dynamicWords_forWords_dynamic, later]

/-- The words that a module of the slot delivers, call by call. -/
def moduleWords (slot : Slot) (header : Header) (recorded : Regions) : List (List Word) :=
  if slot.splitting then header.delivered recorded.dynamic
  else if recorded.dynamic ≠ [] then [recorded.dynamic]
  else []

/-- The statistics of a module of the slot after a cycle. -/
def moduleTally (slot : Slot) (header : Header) (recorded : Regions)
    (tally : ModuleTally) : ModuleTally :=
  if slot.splitting then header.settle recorded.dynamic tally
  else countWhole recorded tally

/-- What a module delivers and counts depends on that module alone. -/
theorem deliver_module {slot : Slot} (event : Nat) {regions : List Regions}
    {tallies : List ModuleTally} (fitting : regions.length = slot.headers.length)
    (counted : tallies.length = slot.headers.length) {module : Nat} {header : Header}
    {recorded : Regions} {tally : ModuleTally}
    (header_at : slot.headers[module]? = some header)
    (recorded_at : regions[module]? = some recorded)
    (tally_at : tallies[module]? = some tally) :
    Call.dynamicWords event module (slot.deliver event regions tallies).calls =
        slot.moduleWords header recorded ∧
      (slot.deliver event regions tallies).tallies[module]? =
        some (slot.moduleTally header recorded tally) := by
  unfold moduleWords moduleTally
  cases splitting : slot.splitting with
  | true =>
      exact deliver_module_of_splitting splitting fitting counted event
        header_at recorded_at tally_at
  | false =>
      have calls := dynamicWords_wholeCalls recorded_at event 0
      rw [Nat.zero_add] at calls
      simp only [deliver, splitting, passThrough]
      constructor
      · simpa using calls
      · simp [List.getElem?_zipWith, recorded_at, tally_at]

theorem length_tallies_deliver (slot : Slot) (event : Nat) {regions : List Regions}
    {tallies : List ModuleTally} (fitting : regions.length = slot.headers.length)
    (counted : tallies.length = slot.headers.length) :
    (slot.deliver event regions tallies).tallies.length = tallies.length := by
  cases splitting : slot.splitting with
  | true =>
      have entries := congrArg List.length (Lanes.map_entry_ofModules 0 fitting counted)
      rw [(deliver_of_splitting splitting fitting counted event).2.2, List.length_map]
      rw [List.length_map, List.length_zip, fitting, Nat.min_self] at entries
      exact entries.trans counted.symm
  | false =>
      simp [deliver, splitting, passThrough, fitting, counted]

end Slot

end Readout
