import Mathlib.Algebra.GroupWithZero.Nat
import Mathlib.Algebra.Order.BigOperators.Group.List
import Mathlib.Algebra.Order.Group.Nat
import Readout.Proofs.Faults

/-!
# Rounds use up words

The rounds of a slot are not counted while they run.  They come to an end because every
round takes words from each module that starts a sub-event.  So there are as many rounds
as the module with the most headers has headers, and no module has more headers than
words.
-/

namespace Readout

namespace Header

theorem length_cuts_le (header : Header) (words : List Word) :
    (header.cuts words).length ≤ words.length := by
  induction words using front_induction header with
  | unmatched words front_eq =>
      rw [cuts_of_unmatched front_eq]
      exact Nat.zero_le _
  | truncated words length front_eq =>
      rw [cuts_of_truncated front_eq]
      exact front_truncated_length_pos front_eq
  | subEvent words taken rest front_eq induction =>
      have shorter := front_rest_length_lt front_eq
      rw [cuts_of_subEvent front_eq, List.length_cons]
      omega

end Header

namespace Lane

/-- A round takes words from the front of a module that starts a sub-event, and leaves its
fixed words. -/
theorem exists_taken_of_starts {lane : Lane} (starting : lane.starts = true) :
    ∃ taken, taken ≠ [] ∧
      lane.regions =
        { lane.advance.regions with dynamic := taken ++ lane.advance.regions.dynamic } := by
  cases front_eq : lane.header.front lane.regions.dynamic with
  | unmatched =>
      rw [starts, (Header.starts_eq_false_iff _ _).mpr front_eq] at starting
      cases starting
  | truncated length =>
      have nonempty := List.length_pos_iff.mp (Header.front_truncated_length_pos front_eq)
      exact ⟨lane.regions.dynamic, nonempty, by simp [advance, drop, front_eq]⟩
  | subEvent taken rest =>
      have nonempty := Header.front_taken_ne_nil front_eq
      exact ⟨taken, nonempty, by simp [advance, front_eq, Header.front_append front_eq]⟩

end Lane

namespace Cutting

def stepCounts (modules : List (Header × Regions)) : List Nat :=
  modules.map fun entry => (entry.1.cuts entry.2.dynamic).length

theorem stepCount_eq_max? (modules : List (Header × Regions)) :
    stepCount modules = (stepCounts modules).max?.getD 0 := by
  rw [stepCount, List.foldl_max, Nat.zero_max]
  rfl

theorem sum_stepCounts_le (modules : List (Header × Regions)) :
    (stepCounts modules).sum ≤
      (modules.map fun entry => entry.2.dynamic.length).sum :=
  List.sum_le_sum fun entry _ => entry.1.length_cuts_le entry.2.dynamic

theorem stepCount_le_longest (modules : List (Header × Regions)) :
    stepCount modules ≤
      ((modules.map fun entry => entry.2.dynamic.length).max?).getD 0 := by
  have longest := (foldl_max_le_iff (modules.map fun entry => entry.2.dynamic.length) 0 _).mp
    (Nat.le_refl _)
  rw [List.foldl_max, Nat.zero_max] at longest
  rw [stepCount_le_iff]
  intro entry member
  exact Nat.le_trans (entry.1.length_cuts_le entry.2.dynamic)
    (longest.2 _ (List.mem_map_of_mem member))

end Cutting

namespace Slot

theorem headerMatches_deliver {slot : Slot} (splitting : slot.splitting = true)
    {regions : List Regions} {tallies : List ModuleTally}
    (fitting : regions.length = slot.headers.length)
    (counted : tallies.length = slot.headers.length) (event : Nat) :
    (slot.deliver event regions tallies).tallies.map ModuleTally.headerMatches =
      List.zipWith (· + ·) (tallies.map ModuleTally.headerMatches)
        (Cutting.stepCounts (slot.headers.zip regions)) := by
  have settled := (deliver_of_splitting splitting fitting counted event).2.2
  have tallies_eq := (Lanes.map_ofModules 0 fitting counted).2.2
  rw [settled, ← Lanes.map_entry_ofModules 0 fitting counted]
  generalize Lanes.ofModules 0 slot.headers regions tallies = lanes at tallies_eq
  rw [← tallies_eq, Cutting.stepCounts, List.map_map, List.map_map, List.map_map,
    List.zipWith_map, List.zipWith_self]
  rfl

end Slot

namespace Engine

/-- The rounds that are run from a stage on, until none of the modules starts a
sub-event, and the stage in which they end. -/
inductive Rounds (event : Nat) (headers : List Header) : Stage → List Round → Stage → Prop where
  | ended {stage : Stage} {flags : List Bool} :
      mark stage.flags headers stage.regions = (flags, false) →
      Rounds event headers stage [] { stage with flags }
  | opened {stage last : Stage} {flags : List Bool} {next : Round} {later : List Round} :
      mark stage.flags headers stage.regions = (flags, true) →
      round event 0 headers stage.regions stage.tallies flags = .ok next →
      Rounds event headers { flags, regions := next.regions, tallies := next.tallies }
        later last →
      Rounds event headers stage (next :: later) last

/-- The outcome of the rounds is put together from what every round yields and what is
swept up behind the last one. -/
theorem exists_rounds {event : Nat} {headers : List Header} {stage : Stage}
    {outcome : Outcome} (rounds_eq : rounds event headers stage = .ok outcome) :
    ∃ trace last, Rounds event headers stage trace last ∧
      outcome.brackets = trace.length ∧
      outcome.notices =
        trace.flatMap Round.notices ++ (sweep event 0 last.regions last.tallies).1 := by
  fun_induction rounds event headers stage generalizing outcome with
  | case1 stage flags mark_eq induction =>
      obtain ⟨next, round_eq, rounds_eq⟩ := Except.bind_eq_ok_iff.mp rounds_eq
      simp only at rounds_eq
      split at rounds_eq
      · rename_i shorter
        obtain ⟨later, later_eq, rounds_eq⟩ := Except.bind_eq_ok_iff.mp rounds_eq
        obtain ⟨trace, last, traced, brackets, notices⟩ := induction next shorter later_eq
        cases rounds_eq
        refine ⟨next :: trace, last, .opened mark_eq round_eq traced, ?_, ?_⟩
        · rw [List.length_cons, ← brackets]
        · rw [List.flatMap_cons, List.append_assoc, ← notices]
      · cases rounds_eq
  | case2 stage flags starting mark_eq ended notices tallies sweep_eq =>
      cases rounds_eq
      rw [Bool.not_eq_true] at ended
      subst ended
      exact ⟨[], _, .ended mark_eq, rfl, (congrArg Prod.fst sweep_eq).symm⟩

theorem rounds_of_split {event : Nat} {headers : List Header} {stage : Stage}
    {outcome : Outcome} (split_eq : split event headers stage = .ok outcome) :
    ∃ inner,
      rounds event headers { stage with flags := stage.flags.take stage.regions.length } =
        .ok inner ∧
      outcome.brackets = inner.brackets ∧ outcome.notices = inner.notices := by
  simp only [split] at split_eq
  split at split_eq
  · obtain ⟨inner, inner_eq, split_eq⟩ := Except.bind_eq_ok_iff.mp split_eq
    cases split_eq
    exact ⟨inner, inner_eq, rfl, rfl⟩
  · cases split_eq

/-- From the first list of regions to the second one, words are taken from the front of
every module that starts a sub-event, and all other modules keep their regions. -/
def UsesUp (headers : List Header) (before after : List Regions) : Prop :=
  ∀ (module : Nat) (header : Header) (recorded : Regions),
    headers[module]? = some header → before[module]? = some recorded →
      ∃ later, after[module]? = some later ∧
        (header.starts recorded.dynamic = true →
          ∃ taken, taken ≠ [] ∧
            recorded = { later with dynamic := taken ++ later.dynamic }) ∧
        (header.starts recorded.dynamic = false → later = recorded)

theorem round_of_mark {event : Nat} {headers : List Header} {stage : Stage}
    {flags : List Bool} {starting : Bool} {next : Round} (paired : stage.Paired headers)
    (mark_eq : mark stage.flags headers stage.regions = (flags, starting))
    (round_eq : round event 0 headers stage.regions stage.tallies flags = .ok next) :
    next.notices =
        (Lanes.ofModules 0 headers stage.regions stage.tallies).flatMap (Lane.notices event) ∧
      next.regions =
        (Lanes.advance (Lanes.ofModules 0 headers stage.regions stage.tallies)).map
          Lane.regions := by
  obtain ⟨headers_eq, regions_eq, tallies_eq⟩ :=
    Lanes.map_ofModules 0 paired.regions paired.tallies
  have count_eq := Lanes.length_ofModules 0 paired.regions paired.tallies
  have marked := mark_lanes (paired.flags.trans count_eq.symm)
  rw [headers_eq, regions_eq, mark_eq] at marked
  have rounded := round_lanes
    (Lanes.numbered_ofModules 0 headers stage.regions stage.tallies) event
  rw [headers_eq, regions_eq, tallies_eq, ← (Prod.mk.inj marked).1, round_eq] at rounded
  cases rounded
  exact ⟨rfl, rfl⟩

theorem usesUp_of_round {event : Nat} {headers : List Header} {stage : Stage}
    {flags : List Bool} {starting : Bool} {next : Round} (paired : stage.Paired headers)
    (mark_eq : mark stage.flags headers stage.regions = (flags, starting))
    (round_eq : round event 0 headers stage.regions stage.tallies flags = .ok next) :
    UsesUp headers stage.regions next.regions := by
  rw [(round_of_mark paired mark_eq round_eq).2]
  intro module header recorded header_at recorded_at
  have inside : module < stage.tallies.length :=
    paired.tallies ▸ (List.getElem?_eq_some_iff.mp header_at).1
  let lane : Lane :=
    { index := 0 + module, header, regions := recorded, tally := stage.tallies[module] }
  have lane_at : (Lanes.ofModules 0 headers stage.regions stage.tallies)[module]? = some lane :=
    Lanes.getElem?_ofModules header_at recorded_at (List.getElem?_eq_getElem inside) 0
  refine ⟨lane.advance.regions, by simp [Lanes.advance, lane_at], ?_, ?_⟩
  · intro starting
    have starts : lane.starts = true := starting
    exact Lane.exists_taken_of_starts starts
  · intro ended
    have still : lane.starts = false := ended
    exact congrArg Lane.regions (Lane.advance_of_not_starts still)

/-- The stage in which the rounds of a cycle start, with one flag for every module. -/
def firstStage (engine : Engine) (cycle : Cycle) (counted : EventTally) : Stage :=
  { flags := engine.flags.take cycle.regions.length
    regions := cycle.regions
    tallies := counted.modules }

theorem paired_firstStage {engine : Engine} {cycle : Cycle} {counted : EventTally}
    {slot : Slot}
    (fits : Stage.Fits
      { flags := engine.flags, regions := cycle.regions, tallies := counted.modules } slot) :
    (engine.firstStage cycle counted).Paired slot.headers := by
  refine ⟨?_, fits.regions, fits.tallies⟩
  have enough : slot.headers.length ≤ engine.flags.length := fits.flags
  have fitting : cycle.regions.length = slot.headers.length := fits.regions
  rw [firstStage, List.length_take, fitting, Nat.min_eq_left enough]

theorem exists_rounds_of_deliver {engine : Engine} {cycle : Cycle} {counted : EventTally}
    {slot : Slot}
    (fits : Stage.Fits
      { flags := engine.flags, regions := cycle.regions, tallies := counted.modules } slot)
    (splitting : slot.splitting = true) :
    ∃ trace last,
      Rounds cycle.event slot.headers (engine.firstStage cycle counted) trace last ∧
      (slot.deliver cycle.event cycle.regions counted.modules).brackets = trace.length ∧
      (slot.deliver cycle.event cycle.regions counted.modules).notices =
        trace.flatMap Round.notices ++
          (sweep cycle.event 0 last.regions last.tallies).1 := by
  obtain ⟨flagsLeft, regionsLeft, -, deliver_eq⟩ := deliver_of_fits fits cycle.event
  rw [deliver, if_pos splitting] at deliver_eq
  obtain ⟨inner, inner_eq, brackets, notices⟩ := rounds_of_split deliver_eq
  obtain ⟨trace, last, traced, count, logged⟩ := exists_rounds inner_eq
  exact ⟨trace, last, traced, brackets.trans count, notices.trans logged⟩

/-- The cycle ends after some rounds, in which every module has gained some header
matches.  Each round uses up words of every module that starts a sub-event and of no
other. -/
structure EndsInRounds (engine ended : Engine) (cycle : Cycle) (slot : Slot)
    (counted after : EventTally) (report : Report) (trace : List Round) (last : Stage)
    (gains : List Nat) : Prop where
  rounds : Rounds cycle.event slot.headers (engine.firstStage cycle counted) trace last
  brackets_eq_length : report.brackets = trace.length
  usesUp : ∀ stage flags next,
    Leads cycle.event slot.headers (engine.firstStage cycle counted) stage →
    mark stage.flags slot.headers stage.regions = (flags, true) →
    round cycle.event 0 slot.headers stage.regions stage.tallies flags = .ok next →
    UsesUp slot.headers stage.regions next.regions
  after_at : ended.tally.events[cycle.event]? = some after
  length_modules : counted.modules.length = slot.headers.length
  length_gains : gains.length = slot.headers.length
  headerMatches_eq : after.modules.map ModuleTally.headerMatches =
    List.zipWith (· + ·) (counted.modules.map ModuleTally.headerMatches) gains
  brackets_eq_max : report.brackets = gains.max?.getD 0
  brackets_le : report.brackets ≤
    (cycle.regions.map fun recorded => recorded.dynamic.length).max?.getD 0
  sum_gains_le : gains.sum ≤
    (cycle.regions.map fun recorded => recorded.dynamic.length).sum

/-- Whatever was recorded, the end of a cycle gives a report.  In a slot that is split it
comes after as many rounds as the most header matches that a module gains. -/
theorem finish_within_words {patterns : List (List String)} {engine : Engine}
    {cycle : Cycle} (reachable : Reachable patterns engine)
    (opened : engine.cycle = some cycle) :
    ∃ slot counted ended report,
      engine.slots[cycle.event]? = some slot ∧
      engine.tally.events[cycle.event]? = some counted ∧
      engine.step .finish = .ok (ended, .finished report) ∧
      (slot.splitting = true → ∃ after trace last gains,
        engine.EndsInRounds ended cycle slot counted after report trace last gains) := by
  obtain ⟨slot, counted, ended, delivery, slot_at, counted_at, fits, delivery_eq, step_eq,
    after_at⟩ := exists_after_of_opened reachable.consistent opened
  refine ⟨slot, counted, ended, delivery.report, slot_at, counted_at, step_eq, ?_⟩
  intro splitting
  have fitting : cycle.regions.length = slot.headers.length := fits.regions
  have brackets_eq : delivery.report.brackets =
      Cutting.stepCount (slot.headers.zip cycle.regions) := by
    have brackets :=
      (Slot.deliver_of_splitting splitting fits.regions fits.tallies cycle.event).2.1
    rw [Cutting.brackets, List.length_map, List.length_range, ← delivery_eq] at brackets
    exact brackets
  have words_eq : (slot.headers.zip cycle.regions).map (fun entry => entry.2.dynamic.length) =
      cycle.regions.map fun recorded => recorded.dynamic.length := by
    have dynamic_eq := congrArg (List.map fun recorded => recorded.dynamic.length)
      (List.map_snd_zip (Nat.le_of_eq fitting))
    rwa [List.map_map] at dynamic_eq
  obtain ⟨trace, last, traced, count, -⟩ := exists_rounds_of_deliver fits splitting
  rw [← delivery_eq] at count
  refine ⟨counted.after delivery, trace, last,
    Cutting.stepCounts (slot.headers.zip cycle.regions), traced, count, ?_, after_at, fits.tallies,
    ?_, ?_, ?_, ?_, ?_⟩
  · intro stage flags next leads mark_eq round_eq
    exact usesUp_of_round (leads.paired (paired_firstStage fits)) mark_eq round_eq
  · simp [Cutting.stepCounts, fitting]
  · rw [delivery_eq]
    exact Slot.headerMatches_deliver splitting fits.regions fits.tallies cycle.event
  · rw [brackets_eq, Cutting.stepCount_eq_max?]
  · rw [brackets_eq, ← words_eq]
    exact Cutting.stepCount_le_longest _
  · rw [← words_eq]
    exact Cutting.sum_stepCounts_le _

/-- Of four modules one ends with a truncated sub-event, one delivers its region as a whole,
one has sub-events of one word, and the size field of the last one is always 0. -/
theorem finish_within_words_four_modules :
    ∃ (engine : Engine) (cycle : Cycle) (slot : Slot) (counted : EventTally) (ended : Engine)
        (report : Report) (trace : List Round) (last : Stage) (gains : List Nat),
      Reachable [["1SSS", "", "01", "1S"]] engine ∧
      engine.cycle = some cycle ∧
      slot.splitting = true ∧
      engine.step .finish = .ok (ended, .finished report) ∧
      Rounds cycle.event slot.headers (engine.firstStage cycle counted) trace last ∧
      report.brackets = trace.length ∧
      report.brackets = gains.max?.getD 0 ∧
      report.brackets ≤ 5 ∧
      gains.sum ≤ 14 := by
  have reachable : Reachable [["1SSS", "", "01", "1S"]] _ :=
    ⟨_, [.start 0, .record .leading 0 [5], .record .dynamic 0 [9, 1, 15, 2],
      .record .dynamic 1 [7, 7], .record .dynamic 2 [1, 1, 1, 0],
      .record .dynamic 3 [2, 2, 2, 2]], _, rfl, rfl⟩
  obtain ⟨slot, counted, ended, report, slot_at, counted_at, step_eq, bounds⟩ :=
    finish_within_words reachable rfl
  cases slot_at
  obtain ⟨after, trace, last, gains, inRounds⟩ := bounds rfl
  exact ⟨_, _, _, counted, ended, report, trace, last, gains, reachable, rfl, rfl, step_eq,
    inRounds.rounds, inRounds.brackets_eq_length, inRounds.brackets_eq_max,
    Nat.le_trans inRounds.brackets_le (by decide), inRounds.sum_gains_le⟩

end Engine

end Readout
