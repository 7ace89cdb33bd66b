import Readout.Proofs.Outcomes
import Readout.Proofs.Storage

/-!
# Runs without faults

Every run of an engine keeps its lists fitting its slots: there is a flag for every
module of the largest slot, there are statistics for every module, and an open cycle
has regions for exactly the modules of its slot.  So no action has a fault, no module
is left out where lists are walked together, in any round, and the end of a cycle
delivers nothing only if no module starts a sub-event.
-/

namespace Readout

namespace Splitter

theorem widestOf_eq_max? (slots : List Slot) :
    widestOf slots = (slots.map Slot.moduleCount).max?.getD 0 := by
  rw [widestOf, List.foldl_max, Nat.zero_max]

end Splitter

namespace Slot

theorem brackets_deliver_eq_zero_iff {slot : Slot} {regions : List Regions}
    {tallies : List ModuleTally} (fitting : regions.length = slot.headers.length)
    (counted : tallies.length = slot.headers.length) (event : Nat) :
    (slot.deliver event regions tallies).brackets = 0 ↔
      slot.splitting = true ∧
        ∀ (module : Nat) (header : Header) (recorded : Regions),
          slot.headers[module]? = some header → regions[module]? = some recorded →
            header.starts recorded.dynamic = false := by
  cases splitting : slot.splitting with
  | true =>
      obtain ⟨-, brackets, -⟩ := deliver_of_splitting splitting fitting counted event
      rw [brackets, Cutting.brackets, List.length_map, List.length_range, ← Nat.le_zero,
        Cutting.stepCount_le_iff]
      simp only [Nat.le_zero, List.length_eq_zero_iff, ← Header.starts_eq_false_iff_cuts,
        true_and]
      constructor
      · intro ended module header recorded header_at recorded_at
        exact ended (header, recorded)
          (List.mem_of_getElem? (List.getElem?_zip_eq_some.mpr ⟨header_at, recorded_at⟩))
      · intro ended entry member
        obtain ⟨module, entry_at⟩ := List.mem_iff_getElem?.mp member
        obtain ⟨header_at, recorded_at⟩ := List.getElem?_zip_eq_some.mp entry_at
        exact ended module entry.1 entry.2 header_at recorded_at
  | false => simp [deliver, splitting, passThrough]

end Slot

namespace Engine

/-- Every module has a flag, regions and statistics. -/
structure Stage.Paired (stage : Stage) (headers : List Header) : Prop where
  flags : stage.flags.length = headers.length
  regions : stage.regions.length = headers.length
  tallies : stage.tallies.length = headers.length

/-- The stages that rounds lead through. -/
inductive Leads (event : Nat) (headers : List Header) : Stage → Stage → Prop where
  | here (stage : Stage) : Leads event headers stage stage
  | later {stage last : Stage} {flags : List Bool} {next : Round} :
      mark stage.flags headers stage.regions = (flags, true) →
      round event 0 headers stage.regions stage.tallies flags = .ok next →
      Leads event headers { flags, regions := next.regions, tallies := next.tallies } last →
      Leads event headers stage last

theorem length_mark (flags : List Bool) (headers : List Header) (regions : List Regions) :
    (mark flags headers regions).1.length = flags.length := by
  fun_induction mark flags headers regions with
  | case1 flag flags header headers recorded regions later starting mark_eq induction =>
      rw [mark_eq] at induction
      simpa using induction
  | case2 => rfl

theorem lengths_of_round {event module : Nat} {headers : List Header}
    {regions : List Regions} {tallies : List ModuleTally} {flags : List Bool} {next : Round}
    (round_eq : round event module headers regions tallies flags = .ok next) :
    next.regions.length = regions.length ∧ next.tallies.length = tallies.length := by
  fun_induction round event module headers regions tallies flags generalizing next with
  | case1 module header headers recorded regions tally tallies flag flags induction =>
      obtain ⟨here, -, round_eq⟩ := Except.bind_eq_ok_iff.mp round_eq
      obtain ⟨later, later_eq, round_eq⟩ := Except.bind_eq_ok_iff.mp round_eq
      obtain ⟨regions_kept, tallies_kept⟩ := induction later_eq
      cases round_eq
      exact ⟨congrArg (· + 1) regions_kept, congrArg (· + 1) tallies_kept⟩
  | case2 =>
      cases round_eq
      exact ⟨rfl, rfl⟩

theorem Leads.paired {event : Nat} {headers : List Header} {stage last : Stage}
    (leads : Leads event headers stage last) (paired : stage.Paired headers) :
    last.Paired headers := by
  induction leads with
  | here stage => exact paired
  | @later stage last flags next mark_eq round_eq leads induction =>
      have flags_kept := length_mark stage.flags headers stage.regions
      rw [mark_eq] at flags_kept
      obtain ⟨regions_kept, tallies_kept⟩ := lengths_of_round round_eq
      exact induction
        { flags := flags_kept.trans paired.flags
          regions := regions_kept.trans paired.regions
          tallies := tallies_kept.trans paired.tallies }

/-- The lists of an engine fit the slots of its header patterns. -/
structure Fitted (patterns : List (List String)) (engine : Engine) : Prop where
  compiled : patterns.map Slot.compile = engine.slots.map .ok
  flags : engine.flags.length = (engine.slots.map Slot.moduleCount).max?.getD 0
  layout : engine.tally.layout = engine.slots.map Slot.moduleCount
  opened : ∀ cycle, engine.cycle = some cycle →
    ∃ slot, engine.slots[cycle.event]? = some slot ∧
      cycle.regions.length = slot.moduleCount

theorem fitted_of_consistent {patterns : List (List String)} {engine : Engine}
    (consistent : engine.session.Consistent patterns) : engine.Fitted patterns := by
  refine ⟨consistent.splitter.compiled, ?_, consistent.splitter.layout, ?_⟩
  · rw [← Splitter.widestOf_eq_max?]
    exact consistent.splitter.widest
  · intro cycle opened
    obtain ⟨slot, counted, slot_at, -, fits⟩ := fits_of_opened consistent opened
    exact ⟨slot, slot_at, fits.regions⟩

/-- Whatever the actions, no run has a fault, and it leads to an engine whose lists fit
its slots.  A cycle that is open there finds its slot and statistics, enough flags, and
lists that pair every module in all its rounds; its end gives a report, which is without
brackets exactly if the slot is split and no module starts a sub-event. -/
theorem run_without_fault {patterns : List (List String)} {built : Engine}
    (compiled : (build patterns).2 = .ok built) (actions : List Action) :
    ∃ engine replies, built.run actions = .ok (engine, replies) ∧
      engine.Fitted patterns ∧
      ∀ cycle, engine.cycle = some cycle →
        ∃ slot counted ended report,
          engine.slots[cycle.event]? = some slot ∧
          engine.tally.events[cycle.event]? = some counted ∧
          cycle.regions.length ≤ engine.flags.length ∧
          (∀ stage,
            Leads cycle.event slot.headers
                { flags := engine.flags.take cycle.regions.length
                  regions := cycle.regions
                  tallies := counted.modules } stage →
              stage.Paired slot.headers) ∧
          engine.step .finish = .ok (ended, .finished report) ∧
          (report.brackets = 0 ↔
            slot.splitting = true ∧
              ∀ module header recorded, slot.headers[module]? = some header →
                cycle.recorded? module = some recorded →
                  header.starts recorded.dynamic = false) := by
  have consistent := consistent_of_build compiled
  obtain ⟨engine, run_eq, engine_eq⟩ := run_eq_session consistent actions
  have reached : engine.session.Consistent patterns :=
    engine_eq ▸ Session.consistent_run consistent actions
  refine ⟨engine, _, run_eq, fitted_of_consistent reached, ?_⟩
  intro cycle opened
  obtain ⟨slot, counted, ended, delivery, slot_at, counted_at, fits, delivery_eq, step_eq, -⟩ :=
    step_finish_of_opened reached opened
  have enough : cycle.regions.length ≤ engine.flags.length := fits.regions ▸ fits.flags
  refine ⟨slot, counted, ended, delivery.report, slot_at, counted_at, enough, ?_, step_eq, ?_⟩
  · intro stage leads
    apply leads.paired
    exact
      { flags := by rw [List.length_take, Nat.min_eq_left enough]; exact fits.regions
        regions := fits.regions
        tallies := fits.tallies }
  · rw [delivery_eq]
    exact Slot.brackets_deliver_eq_zero_iff fits.regions fits.tallies cycle.event

/-- A start and a record are refused, and then the open cycle of a slot that is split ends
with some brackets, as one of its modules starts a sub-event. -/
theorem run_without_fault_refused :
    ∃ built engine replies ended report,
      (build [["1SSS", ""], ["01"]]).2 = .ok built ∧
      built.run [.start 5, .start 0, .record .dynamic 7 [1], .record .dynamic 0 [9, 1]] =
        .ok (engine, replies) ∧
      engine.Fitted [["1SSS", ""], ["01"]] ∧
      engine.step .finish = .ok (ended, .finished report) ∧
      report.brackets ≠ 0 := by
  have compiled : (build [["1SSS", ""], ["01"]]).2 = .ok _ := rfl
  obtain ⟨engine, replies, run_eq, fitted, finishes⟩ :=
    run_without_fault compiled
      [.start 5, .start 0, .record .dynamic 7 [1], .record .dynamic 0 [9, 1]]
  cases run_eq
  obtain ⟨slot, counted, ended, report, slot_at, -, -, -, step_eq, empty_iff⟩ :=
    finishes _ rfl
  cases slot_at
  refine ⟨_, _, _, ended, report, compiled, rfl, fitted, step_eq, ?_⟩
  intro empty
  have ends := (empty_iff.mp empty).2 0 _ _ rfl rfl
  revert ends
  decide

end Engine

end Readout
