import Readout.Proofs.Steps

/-!
# Rounds of a slot and steps of its modules

A round takes the first step of every module and leaves the later ones.  From
this the brackets of a whole split are those of `Cutting`, and the statistics it
ends with are those that `Header.settle` gives to each module alone.
-/

namespace Readout

namespace Lane

def steps (lane : Lane) : List Cut :=
  lane.header.cuts lane.regions.dynamic

/-- The statistics of the module once its slot is split. -/
def settled (lane : Lane) : ModuleTally :=
  lane.header.settle lane.regions.dynamic lane.tally

def entry (lane : Lane) : Header × Regions :=
  (lane.header, lane.regions)

@[simp]
theorem index_advance (lane : Lane) : lane.advance.index = lane.index := by
  unfold advance
  split <;> rfl

theorem steps_advance (lane : Lane) : lane.advance.steps = lane.steps.tail := by
  cases front_eq : lane.header.front lane.regions.dynamic with
  | unmatched =>
      simp [advance, steps, front_eq, Header.cuts_of_unmatched front_eq]
  | truncated length =>
      simp [advance, steps, front_eq, drop, Header.cuts_of_truncated front_eq]
  | subEvent taken rest =>
      simp [advance, steps, front_eq, Header.cuts_of_subEvent front_eq]

theorem starts_eq_false_iff_steps (lane : Lane) :
    lane.starts = false ↔ lane.steps = [] :=
  lane.header.starts_eq_false_iff_cuts lane.regions.dynamic

/-- In a round a module makes the calls of its first step. -/
theorem calls_eq_moduleCalls (event : Nat) (lane : Lane) :
    lane.calls event =
      Cutting.moduleCalls event 0 lane.index lane.header lane.regions := by
  cases front_eq : lane.header.front lane.regions.dynamic with
  | unmatched =>
      simp [calls, Cutting.moduleCalls, front_eq, Header.cuts_of_unmatched front_eq]
  | truncated length =>
      simp [calls, Cutting.moduleCalls, front_eq, Header.cuts_of_truncated front_eq]
  | subEvent taken rest =>
      simp [calls, Cutting.moduleCalls, front_eq, Header.cuts_of_subEvent front_eq]

theorem moduleCalls_advance (event number module : Nat) (lane : Lane) :
    Cutting.moduleCalls event number module lane.advance.header lane.advance.regions =
      Cutting.moduleCalls event (number + 1) module lane.header lane.regions := by
  cases front_eq : lane.header.front lane.regions.dynamic with
  | unmatched =>
      simp [advance, Cutting.moduleCalls, front_eq, Header.cuts_of_unmatched front_eq]
  | truncated length =>
      simp [advance, drop, Cutting.moduleCalls, front_eq,
        Header.cuts_of_truncated front_eq]
  | subEvent taken rest =>
      simp [advance, Cutting.moduleCalls, front_eq, Header.cuts_of_subEvent front_eq]

theorem settled_advance (lane : Lane) : lane.advance.settled = lane.settled := by
  cases front_eq : lane.header.front lane.regions.dynamic with
  | unmatched => simp [advance, front_eq]
  | truncated length =>
      simp [advance, settled, drop, remaining, front_eq, Header.settle,
        Header.cuts_of_truncated front_eq, Header.delivered_of_truncated front_eq,
        Header.remainder_of_truncated front_eq]
  | subEvent taken rest =>
      simp [advance, settled, front_eq, Header.settle,
        Header.cuts_of_subEvent front_eq, Header.delivered_of_subEvent front_eq,
        Header.remainder_of_subEvent front_eq]
      omega

theorem settled_of_not_starts {lane : Lane} (ended : lane.starts = false) :
    lane.settled = lane.drop.tally := by
  have front_eq := (Header.starts_eq_false_iff _ _).mp ended
  simp [settled, drop, remaining, Header.settle, Header.cuts_of_unmatched front_eq,
    Header.delivered_of_unmatched front_eq, Header.remainder_of_unmatched front_eq]

end Lane

theorem foldl_max_le_iff (numbers : List Nat) (start bound : Nat) :
    numbers.foldl max start ≤ bound ↔
      start ≤ bound ∧ ∀ number ∈ numbers, number ≤ bound := by
  induction numbers generalizing start with
  | nil => simp
  | cons number numbers induction =>
      rw [List.foldl_cons, induction, Nat.max_le, and_assoc, List.forall_mem_cons]

namespace Cutting

theorem stepCount_le_iff (modules : List (Header × Regions)) (bound : Nat) :
    stepCount modules ≤ bound ↔
      ∀ entry ∈ modules, (entry.1.cuts entry.2.dynamic).length ≤ bound := by
  rw [stepCount, foldl_max_le_iff, List.forall_mem_map]
  exact and_iff_right (Nat.zero_le bound)

theorem lt_stepCount_iff (modules : List (Header × Regions)) (bound : Nat) :
    bound < stepCount modules ↔
      ∃ entry ∈ modules, bound < (entry.1.cuts entry.2.dynamic).length := by
  rw [← Nat.not_le, stepCount_le_iff]
  simp only [Classical.not_forall, exists_prop, Nat.not_le]

theorem length_cuts_le_stepCount {modules : List (Header × Regions)}
    {entry : Header × Regions} (member : entry ∈ modules) :
    (entry.1.cuts entry.2.dynamic).length ≤ stepCount modules :=
  (stepCount_le_iff modules _).mp (Nat.le_refl _) entry member

end Cutting

namespace Lanes

def Numbered : Nat → List Lane → Prop
  | _, [] => True
  | index, lane :: lanes => lane.index = index ∧ Numbered (index + 1) lanes

theorem numbered_advance {index : Nat} {lanes : List Lane}
    (numbered : Numbered index lanes) : Numbered index (advance lanes) := by
  induction lanes generalizing index with
  | nil => exact trivial
  | cons lane lanes induction =>
      obtain ⟨here, later⟩ := numbered
      exact ⟨lane.index_advance.trans here, induction later⟩

theorem numbered_ofModules (index : Nat) (headers : List Header)
    (regions : List Regions) (tallies : List ModuleTally) :
    Numbered index (ofModules index headers regions tallies) := by
  fun_induction ofModules index headers regions tallies with
  | case1 index header headers recorded regions tally tallies induction =>
      exact ⟨rfl, induction⟩
  | case2 => exact trivial

theorem flatMap_calls {index : Nat} {lanes : List Lane}
    (numbered : Numbered index lanes) (event : Nat) :
    lanes.flatMap (Lane.calls event) =
      Cutting.callsFrom event 0 index (lanes.map Lane.entry) := by
  induction lanes generalizing index with
  | nil => rfl
  | cons lane lanes induction =>
      obtain ⟨here, later⟩ := numbered
      rw [List.flatMap_cons, induction later, Lane.calls_eq_moduleCalls, here]
      rfl

theorem callsFrom_advance (event number index : Nat) (lanes : List Lane) :
    Cutting.callsFrom event number index ((advance lanes).map Lane.entry) =
      Cutting.callsFrom event (number + 1) index (lanes.map Lane.entry) := by
  induction lanes generalizing index with
  | nil => rfl
  | cons lane lanes induction =>
      have later := induction (index + 1)
      simp only [advance, List.map_cons, Cutting.callsFrom, Lane.entry] at later ⊢
      rw [later, Lane.moduleCalls_advance]

theorem bracket_eq_cutting {lanes : List Lane} (numbered : Numbered 0 lanes)
    (event : Nat) :
    bracket event lanes = Cutting.bracket event (lanes.map Lane.entry) 0 := by
  rw [bracket, Cutting.bracket, flatMap_calls numbered]

theorem bracket_advance (event number : Nat) (lanes : List Lane) :
    Cutting.bracket event ((advance lanes).map Lane.entry) number =
      Cutting.bracket event (lanes.map Lane.entry) (number + 1) := by
  rw [Cutting.bracket, callsFrom_advance]
  rfl

theorem stepCount_le_iff_steps (lanes : List Lane) (bound : Nat) :
    Cutting.stepCount (lanes.map Lane.entry) ≤ bound ↔
      ∀ lane ∈ lanes, lane.steps.length ≤ bound := by
  rw [Cutting.stepCount_le_iff, List.forall_mem_map]
  rfl

theorem any_starts_eq_false_iff (lanes : List Lane) :
    lanes.any Lane.starts = false ↔
      Cutting.stepCount (lanes.map Lane.entry) = 0 := by
  rw [← Nat.le_zero, stepCount_le_iff_steps, List.any_eq_false]
  simp [Lane.starts_eq_false_iff_steps]

/-- A round takes one step off the longest list of steps. -/
theorem stepCount_advance (lanes : List Lane) :
    Cutting.stepCount ((advance lanes).map Lane.entry) =
      Cutting.stepCount (lanes.map Lane.entry) - 1 := by
  -- A maximum does not follow the list of lanes, so it is compared by its bounds.
  have bounds : ∀ bound, Cutting.stepCount ((advance lanes).map Lane.entry) ≤ bound ↔
      Cutting.stepCount (lanes.map Lane.entry) - 1 ≤ bound := by
    intro bound
    rw [Nat.sub_le_iff_le_add, stepCount_le_iff_steps, stepCount_le_iff_steps, advance,
      List.forall_mem_map]
    simp only [Lane.steps_advance, List.length_tail, Nat.sub_le_iff_le_add]
  exact Nat.le_antisymm ((bounds _).mpr (Nat.le_refl _)) ((bounds _).mp (Nat.le_refl _))

theorem brackets_advance {lanes : List Lane} (numbered : Numbered 0 lanes)
    (starting : lanes.any Lane.starts = true) (event : Nat) :
    Cutting.brackets event (lanes.map Lane.entry) =
      bracket event lanes ::
        Cutting.brackets event ((advance lanes).map Lane.entry) := by
  have positive : Cutting.stepCount (lanes.map Lane.entry) ≠ 0 := by
    rw [Ne, ← any_starts_eq_false_iff, starting]
    decide
  obtain ⟨later, count_eq⟩ := Nat.exists_eq_succ_of_ne_zero positive
  rw [Cutting.brackets, Cutting.brackets, stepCount_advance, count_eq,
    Nat.succ_sub_one, List.range_succ_eq_map, List.map_cons, List.map_map,
    bracket_eq_cutting numbered]
  congr 1
  apply List.map_congr_left
  intro number _
  exact (bracket_advance event number lanes).symm

/-- Rounds deliver the brackets of all steps, in order, and leave every module
with the statistics of its own steps. -/
theorem split_eq_cutting {lanes : List Lane} (numbered : Numbered 0 lanes)
    (event : Nat) :
    (split event lanes).calls =
        (Cutting.brackets event (lanes.map Lane.entry)).flatten ∧
      (split event lanes).brackets =
        (Cutting.brackets event (lanes.map Lane.entry)).length ∧
      (split event lanes).tallies = lanes.map Lane.settled := by
  fun_induction split event lanes with
  | case1 lanes starting later induction =>
      obtain ⟨calls, brackets, tallies⟩ := induction (numbered_advance numbered)
      rw [brackets_advance numbered starting]
      refine ⟨?_, ?_, ?_⟩
      · rw [List.flatten_cons, ← calls]
      · rw [List.length_cons, ← brackets]
      · have kept : (advance lanes).map Lane.settled = lanes.map Lane.settled := by
          simp [advance, Lane.settled_advance]
        exact tallies.trans kept
  | case2 lanes ended =>
      rw [Bool.not_eq_true] at ended
      rw [Cutting.brackets, (any_starts_eq_false_iff lanes).mp ended]
      refine ⟨rfl, rfl, ?_⟩
      apply List.map_congr_left
      intro lane member
      exact (Lane.settled_of_not_starts
        (by simpa using List.any_eq_false.mp ended lane member)).symm

end Lanes

end Readout
