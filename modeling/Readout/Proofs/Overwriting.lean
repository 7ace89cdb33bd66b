import Mathlib.Data.List.TakeWhile
import Readout.LastWrites
import Readout.Proofs.Isolation

/-!
# Later recordings replace earlier ones

The regions of an open cycle are what the last recordings say, and a recording that is
refused is as good as none.  So the end of a cycle depends on nothing but the last
recordings, and does not tell their order.
-/

namespace Readout

namespace Regions

theorem eq_of_get_eq {regions others : Regions}
    (same : ∀ region, regions.get region = others.get region) : regions = others := by
  have leading : regions.leading = others.leading := same .leading
  have dynamic : regions.dynamic = others.dynamic := same .dynamic
  have trailing : regions.trailing = others.trailing := same .trailing
  cases regions
  cases others
  simp_all

end Regions

namespace Action

theorem worksInside_of_perm {count : Nat} {actions others : List Action}
    (permuted : others.Perm (lastWrites count actions)) :
    ∀ action ∈ others, action.worksInside = true := by
  intro action member
  rw [permuted.mem_iff, mem_lastWrites_iff] at member
  obtain ⟨_, _, _, rfl, -, -⟩ := member
  rfl

/-- Recordings of the last words have these last words, whatever their order. -/
theorem lastWrite?_of_perm {count module : Nat} {actions others : List Action}
    (permuted : others.Perm (lastWrites count actions)) (inside : module < count)
    (region : Region) :
    lastWrite? region module others = lastWrite? region module actions := by
  have member_iff : ∀ words, record region module words ∈ others ↔
      lastWrite? region module actions = some words := by
    intro words
    rw [permuted.mem_iff, mem_lastWrites_iff]
    constructor
    · rintro ⟨_, _, _, same, -, last⟩
      cases same
      exact last
    · intro last
      exact ⟨region, module, words, rfl, inside, last⟩
  have unreset : ∀ action ∈ others.reverse, decide (action ≠ reset) = true := by
    intro action member
    rw [List.mem_reverse, permuted.mem_iff, mem_lastWrites_iff] at member
    obtain ⟨_, _, _, rfl, -, -⟩ := member
    rfl
  have read_eq : lastWrite? region module others =
      others.reverse.findSome? (writes? region module) := by
    rw [lastWrite?, List.takeWhile_eq_self_iff.mpr unreset]
  cases other_eq : lastWrite? region module others with
  | some words =>
      rw [read_eq] at other_eq
      obtain ⟨action, member, writes⟩ := List.exists_of_findSome?_eq_some other_eq
      rw [writes?_eq_some_iff] at writes
      rw [List.mem_reverse, writes, member_iff] at member
      exact member.symm
  | none =>
      rw [read_eq, List.findSome?_eq_none_iff] at other_eq
      cases last : lastWrite? region module actions with
      | none => rfl
      | some words =>
          have written := other_eq _ (List.mem_reverse.mpr ((member_iff words).mpr last))
          rw [writes?_eq_some_iff.mpr rfl] at written
          cases written

end Action

namespace Cycle

/-- Every region holds the words of its last recording, and none if there is none. -/
def Holds (cycle : Cycle) (actions : List Action) : Prop :=
  ∀ module recorded, cycle.recorded? module = some recorded →
    ∀ region, recorded.get region = (Action.lastWrite? region module actions).getD []

theorem holds_of_empty {cycle : Cycle} {actions : List Action}
    (empty : ∀ recorded ∈ cycle.regions, recorded = Regions.empty)
    (unwritten : ∀ region module, Action.lastWrite? region module actions = none) :
    cycle.Holds actions := by
  intro module recorded recorded_at region
  rw [empty recorded (List.mem_of_getElem? recorded_at), unwritten]
  cases region <;> rfl

theorem holds_record {cycle later : Cycle} {actions : List Action} {region : Region}
    {module : Nat} {words : List Word} (holds : cycle.Holds actions)
    (recorded_eq : cycle.record region module words = .ok later) :
    later.Holds (actions ++ [.record region module words]) := by
  rw [record] at recorded_eq
  split at recorded_eq
  · rename_i found found_at
    cases recorded_eq
    have inside := (List.getElem?_eq_some_iff.mp found_at).1
    intro index recorded recorded_at other
    rw [Action.lastWrite?_concat_record]
    by_cases same : module = index
    · subst same
      rw [recorded?, List.getElem?_set_self inside] at recorded_at
      cases recorded_at
      by_cases written : other = region
      · simp [written]
      · simp [written, Ne.symm written, holds module found found_at]
    · rw [recorded?, List.getElem?_set_ne same] at recorded_at
      rw [if_neg (fun both => same both.2)]
      exact holds index recorded recorded_at other
  · cases recorded_eq

theorem holds_refused {cycle : Cycle} {actions : List Action} {region : Region}
    {module : Nat} {words : List Word} {error : IndexError} (holds : cycle.Holds actions)
    (refused : cycle.record region module words = .error error) :
    cycle.Holds (actions ++ [.record region module words]) := by
  rw [record] at refused
  split at refused
  · cases refused
  · rename_i missing
    intro index recorded recorded_at other
    have different : module ≠ index := by
      rintro rfl
      rw [recorded?, missing] at recorded_at
      cases recorded_at
    rw [Action.lastWrite?_concat_record, if_neg (fun both => different both.2)]
    exact holds index recorded recorded_at other

/-- Cycles with as many modules and the same last recordings hold the same regions. -/
theorem Holds.regions_eq {cycle other : Cycle} {actions others : List Action}
    (holds : cycle.Holds actions) (otherHolds : other.Holds others)
    (length_eq : cycle.regions.length = other.regions.length)
    (same : ∀ region module, module < cycle.regions.length →
      Action.lastWrite? region module actions = Action.lastWrite? region module others) :
    cycle.regions = other.regions := by
  apply List.ext_getElem length_eq
  intro module inside otherInside
  apply Regions.eq_of_get_eq
  intro region
  rw [holds module _ (List.getElem?_eq_getElem inside) region,
    otherHolds module _ (List.getElem?_eq_getElem otherInside) region, same region module inside]

end Cycle

namespace Session

/-- An open cycle holds the last recordings among some actions. -/
def Holds (session : Session) (actions : List Action) : Prop :=
  ∀ cycle, session.cycle = some cycle → cycle.Holds actions

theorem holds_step {session : Session} {actions : List Action} (holds : session.Holds actions)
    {action : Action} (inside : action.worksInside = true) :
    (session.step action).1.Holds (actions ++ [action]) := by
  obtain ⟨splitter, opened⟩ := session
  cases opened with
  | none =>
      rw [step_worksInside_of_closed inside]
      intro cycle opened
      cases opened
  | some cycle =>
      have held := holds cycle rfl
      cases action with
      | record region module words =>
          simp only [step]
          split
          · rename_i later recorded_eq
            rintro _ ⟨⟩
            exact Cycle.holds_record held recorded_eq
          · rename_i error refused
            rintro _ ⟨⟩
            exact Cycle.holds_refused held refused
      | recorded index =>
          rintro _ ⟨⟩ module recorded recorded_at region
          rw [Action.lastWrite?_concat_recorded]
          exact held module recorded recorded_at region
      | reset =>
          rintro _ ⟨⟩
          apply Cycle.holds_of_empty
          · intro recorded member
            obtain ⟨_, -, rfl⟩ := List.mem_map.mp member
            rfl
          · intro region module
            exact Action.lastWrite?_concat_reset region module actions
      | _ => cases inside

theorem holds_run {session : Session} {earlier actions : List Action}
    (holds : session.Holds earlier)
    (inside : ∀ action ∈ actions, action.worksInside = true) :
    (session.run actions).1.Holds (earlier ++ actions) := by
  induction actions generalizing session earlier with
  | nil =>
      rw [List.append_nil]
      exact holds
  | cons action actions induction =>
      obtain ⟨here, others⟩ := List.forall_mem_cons.mp inside
      have later := induction (holds_step holds here) others
      rwa [List.append_assoc] at later

theorem run_start {slot : Slot} {actions : List Action}
    (inside : ∀ action ∈ actions, action.worksInside = true) (event : Nat) :
    ∃ regions replies, regions.length = slot.headers.length ∧
      Cycle.Holds { event, regions } actions ∧
      ∀ session : Session, session.splitter.slots[event]? = some slot →
        session.run (.start event :: actions) =
          ({ splitter := session.splitter, cycle := some { event, regions } }, replies) := by
  obtain ⟨regions, replies, length_eq, -, run_eq⟩ :=
    run_worksInside inside (List.replicate slot.moduleCount Regions.empty)
  let started : Session :=
    { splitter := Splitter.ofSlots [slot]
      cycle := some { event, regions := List.replicate slot.moduleCount Regions.empty } }
  have nothing : started.Holds [] := by
    rintro _ ⟨⟩
    exact Cycle.holds_of_empty (fun _ member => List.eq_of_mem_replicate member)
      Action.lastWrite?_nil
  have held := holds_run nothing inside
  rw [run_eq] at held
  refine ⟨regions, .started event :: replies, length_eq.trans List.length_replicate,
    held _ rfl, ?_⟩
  intro session slot_at
  rw [run_cons, step_start_of_slot slot_at, run_eq]

/-- The end of a cycle that holds given regions does not depend on the actions that have
recorded them, nor on the session but for the statistics it adds to. -/
theorem run_finish_of_regions {slot : Slot} {regions : List Regions}
    (fitting : regions.length = slot.headers.length) (event : Nat) :
    ∃ (report : Report) (gained : EventTally), ∀ (session : Session) actions replies before,
      session.run actions =
        ({ splitter := session.splitter, cycle := some { event, regions } }, replies) →
      session.splitter.slots[event]? = some slot →
      session.splitter.tally.events[event]? = some before →
      before.modules.length = slot.headers.length →
      session.run (actions ++ [.finish]) =
        ({ splitter :=
            { session.splitter with
              tally := ⟨session.splitter.tally.events.set event (before.add gained)⟩ }
           cycle := none },
          replies ++ [.finished report]) := by
  obtain ⟨report, gained, finish_eq⟩ := step_finish_uncounted fitting
  refine ⟨report.shift event, gained, ?_⟩
  intro session actions replies before run_eq slot_at before_at counted
  rw [run_append, run_eq, run_cons, finish_eq session.splitter event before slot_at before_at
    counted]
  rfl

end Session

namespace Engine

theorem run_finish_of_session {patterns : List (List String)} {engine : Engine} {event : Nat}
    {before gained : EventTally} {actions : List Action} {replies : List Reply}
    (consistent : engine.session.Consistent patterns)
    (before_at : engine.tally.events[event]? = some before)
    (run_eq : engine.session.run actions =
      ({ splitter :=
          { engine.splitter with
            tally := ⟨engine.tally.events.set event (before.add gained)⟩ }
         cycle := none }, replies)) :
    ∃ last, engine.run actions = .ok (last, replies) ∧
      last.tally.events[event]? = some (before.add gained) := by
  obtain ⟨last, engineRun, last_eq⟩ := run_of_session consistent run_eq
  have lastEvents : last.tally.events = engine.tally.events.set event (before.add gained) :=
    congrArg (fun session => session.splitter.tally.events) last_eq
  refine ⟨last, engineRun, ?_⟩
  rw [lastEvents, List.getElem?_set_self (List.getElem?_eq_some_iff.mp before_at).1]

theorem step_record_of_opened {engine : Engine} {cycle : Cycle}
    (opened : engine.cycle = some cycle) (region : Region) (module : Nat) (words : List Word) :
    (cycle.regions.length ≤ module →
        engine.step (.record region module words) = .ok (engine, .refused .module)) ∧
      (module < cycle.regions.length →
        ∃ later, engine.step (.record region module words) = .ok (later, .done)) := by
  constructor
  · intro outside
    simp only [step, opened, Cycle.record, List.getElem?_eq_none outside]
  · intro inside
    simp only [step, opened, Cycle.record, List.getElem?_eq_getElem inside]
    exact ⟨_, rfl⟩

theorem step_recorded_of_holds {engine : Engine} {cycle : Cycle} {actions : List Action}
    (opened : engine.cycle = some cycle) (holds : cycle.Holds actions) (module : Nat) :
    (cycle.regions.length ≤ module →
        engine.step (.recorded module) = .ok (engine, .recorded none)) ∧
      (module < cycle.regions.length →
        ∃ recorded, engine.step (.recorded module) = .ok (engine, .recorded (some recorded)) ∧
          ∀ region,
            recorded.get region = (Action.lastWrite? region module actions).getD []) := by
  constructor
  · intro outside
    simp only [step, opened, Cycle.recorded?, List.getElem?_eq_none outside]
  · intro inside
    have recorded_at : cycle.recorded? module = some cycle.regions[module] :=
      List.getElem?_eq_getElem inside
    refine ⟨cycle.regions[module], ?_, holds module _ recorded_at⟩
    simp only [step, opened, recorded_at]

/-- After a cycle is started and some work is done in it, a recording is refused exactly if
its module is out of range, and then nothing changes; every region of a module in range
holds the words of its last recording that no reset follows, or nothing.  A new cycle in
which only these words are recorded, once each and in any order, ends with the same report
and adds the same to the statistics. -/
theorem run_overwrites {patterns : List (List String)} {engine : Engine} {event : Nat}
    {slotPatterns : List String} {actions : List Action}
    (reachable : Reachable patterns engine)
    (slotPatterns_at : patterns[event]? = some slotPatterns)
    (inside : ∀ action ∈ actions, action.worksInside = true) :
    ∃ opened replies,
      engine.run (.start event :: actions) = .ok (opened, replies) ∧
      (∀ region module words,
        (slotPatterns.length ≤ module →
          opened.step (.record region module words) = .ok (opened, .refused .module)) ∧
        (module < slotPatterns.length →
          ∃ later, opened.step (.record region module words) = .ok (later, .done))) ∧
      (∀ module,
        (slotPatterns.length ≤ module →
          opened.step (.recorded module) = .ok (opened, .recorded none)) ∧
        (module < slotPatterns.length →
          ∃ recorded, opened.step (.recorded module) = .ok (opened, .recorded (some recorded)) ∧
            ∀ region,
              recorded.get region = (Action.lastWrite? region module actions).getD [])) ∧
      ∀ other others,
        Reachable patterns other →
        others.Perm (Action.lastWrites slotPatterns.length actions) →
        ∃ report last otherReplies lastOther before beforeOther gained,
          engine.run (.start event :: actions ++ [.finish]) =
            .ok (last, replies ++ [.finished report]) ∧
          other.run (.start event :: others ++ [.finish]) =
            .ok (lastOther, otherReplies ++ [.finished report]) ∧
          engine.tally.events[event]? = some before ∧
          last.tally.events[event]? = some (before.add gained) ∧
          other.tally.events[event]? = some beforeOther ∧
          lastOther.tally.events[event]? = some (beforeOther.add gained) := by
  have consistent := reachable.consistent
  obtain ⟨slot, slot_at, compiled⟩ :=
    Splitter.slot_of_patterns consistent.splitter slotPatterns_at
  have count_eq : slot.headers.length = slotPatterns.length := by
    have counts := congrArg List.length (Slot.headers_of_compile compiled).1
    simpa using counts.symm
  obtain ⟨regions, replies, fitting, holds, run_eq⟩ := Session.run_start inside event
  obtain ⟨opened, opened_run, opened_eq⟩ :=
    run_of_session consistent (run_eq engine.session slot_at)
  have cycle_eq : opened.cycle = some { event, regions } := congrArg Session.cycle opened_eq
  have length_eq : regions.length = slotPatterns.length := fitting.trans count_eq
  refine ⟨opened, replies, opened_run, ?_, ?_, ?_⟩
  · rw [← length_eq]
    exact step_record_of_opened cycle_eq
  · rw [← length_eq]
    exact step_recorded_of_holds cycle_eq holds
  · intro other others otherReachable permuted
    have otherConsistent := otherReachable.consistent
    obtain ⟨sameSlot, otherSlot_at, sameCompiled⟩ :=
      Splitter.slot_of_patterns otherConsistent.splitter slotPatterns_at
    cases compiled.symm.trans sameCompiled
    obtain ⟨otherRegions, otherReplies, otherFitting, otherHolds, otherRun_eq⟩ :=
      Session.run_start (Action.worksInside_of_perm permuted) event
    have same : regions = otherRegions := by
      refine holds.regions_eq otherHolds (fitting.trans otherFitting.symm) ?_
      intro region module placed
      rw [length_eq] at placed
      exact (Action.lastWrite?_of_perm permuted placed region).symm
    subst same
    obtain ⟨before, before_at, counted⟩ := Splitter.tally_of_slot consistent.splitter slot_at
    obtain ⟨beforeOther, beforeOther_at, otherCounted⟩ :=
      Splitter.tally_of_slot otherConsistent.splitter otherSlot_at
    obtain ⟨report, gained, finish_eq⟩ := Session.run_finish_of_regions fitting event
    obtain ⟨last, last_run, last_at⟩ := run_finish_of_session consistent before_at
      (finish_eq engine.session _ replies before (run_eq _ slot_at) slot_at before_at counted)
    obtain ⟨lastOther, other_run, lastOther_at⟩ :=
      run_finish_of_session otherConsistent beforeOther_at
        (finish_eq other.session _ otherReplies beforeOther (otherRun_eq _ otherSlot_at)
          otherSlot_at beforeOther_at otherCounted)
    exact ⟨report, last, otherReplies, lastOther, before, beforeOther, gained, last_run,
      other_run, before_at, last_at, beforeOther_at, lastOther_at⟩

/-- A recording before a reset, a refused one and an overwritten one leave no trace. -/
theorem run_overwrites_after_reset :
    ∃ actions others built engine earlier other opened replies report last otherReplies lastOther,
      actions =
        [.record .leading 1 [7], .reset, .record .dynamic 0 [10], .record .dynamic 7 [1],
          .record .trailing 0 [3], .record .dynamic 0 [9, 1]] ∧
      others = [.record .trailing 0 [3], .record .dynamic 0 [9, 1]] ∧
      (build [["1SSS", ""]]).2 = .ok built ∧
      built.run [] = .ok (engine, []) ∧
      built.run [.start 0, .record .dynamic 1 [5], .abandon] = .ok (other, earlier) ∧
      (∀ action ∈ actions, action.worksInside = true) ∧
      others.Perm (Action.lastWrites 2 actions) ∧
      engine.run (.start 0 :: actions) = .ok (opened, replies) ∧
      opened.step (.record .leading 2 [1]) = .ok (opened, .refused .module) ∧
      engine.run (.start 0 :: actions ++ [.finish]) =
        .ok (last, replies ++ [.finished report]) ∧
      other.run (.start 0 :: others ++ [.finish]) =
        .ok (lastOther, otherReplies ++ [.finished report]) := by
  let actions : List Action :=
    [.record .leading 1 [7], .reset, .record .dynamic 0 [10], .record .dynamic 7 [1],
      .record .trailing 0 [3], .record .dynamic 0 [9, 1]]
  let others : List Action := [.record .trailing 0 [3], .record .dynamic 0 [9, 1]]
  have reachable : Reachable [["1SSS", ""]] _ := ⟨_, [], _, rfl, rfl⟩
  have otherReachable : Reachable [["1SSS", ""]] _ :=
    ⟨_, [.start 0, .record .dynamic 1 [5], .abandon], _, rfl, rfl⟩
  have inside : ∀ action ∈ actions, action.worksInside = true := by decide
  have permuted : others.Perm (Action.lastWrites 2 actions) := by decide
  obtain ⟨opened, replies, opened_run, records, -, ends⟩ :=
    run_overwrites reachable (show [["1SSS", ""]][0]? = some ["1SSS", ""] from rfl) inside
  obtain ⟨report, last, otherReplies, lastOther, -, -, -, last_run, other_run, -⟩ :=
    ends _ others otherReachable permuted
  exact ⟨actions, others, _, _, _, _, opened, replies, report, last, otherReplies, lastOther, rfl,
    rfl, rfl, rfl, rfl, inside, permuted, opened_run, (records .leading 2 [1]).1 (Nat.le_refl 2),
    last_run, other_run⟩

end Engine

end Readout
