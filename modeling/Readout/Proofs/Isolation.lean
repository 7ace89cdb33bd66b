import Readout.Proofs.Placement
import Readout.Proofs.Storage

/-!
# Cycles do not touch each other

A cycle finds nothing of earlier cycles, of its own slot or of another one: all that
happens in it happens in the first cycle of a splitter that has no other slot.  The only
trace it leaves is what it adds to the statistics of its slot.
-/

namespace Readout

namespace Action

/-- Whether an action works in the open cycle and leaves it open. -/
def worksInside : Action → Bool
  | record .. => true
  | recorded _ => true
  | reset => true
  | _ => false

/-- Whether an action ends the open cycle and does nothing else. -/
def closes : Action → Bool
  | finish => true
  | abandon => true
  | _ => false

end Action

namespace Report

def shift (distance : Nat) (report : Report) : Report :=
  { report with
    calls := report.calls.map (Call.shift distance)
    notices := report.notices.map (Notice.shift distance) }

end Report

namespace Reply

/-- The same reply for the slot that lies a distance further on. -/
def shift (distance : Nat) : Reply → Reply
  | started event => started (distance + event)
  | finished report => finished (report.shift distance)
  | reply => reply

theorem shift_zero : shift 0 = id := by
  funext reply
  cases reply <;> simp [shift, Report.shift, Call.shift_zero, Notice.shift_zero]

end Reply

namespace EventTally

def add (tally gained : EventTally) : EventTally :=
  { inputEvents := tally.inputEvents + gained.inputEvents
    outputEvents := tally.outputEvents + gained.outputEvents
    modules := List.zipWith ModuleTally.add tally.modules gained.modules }

theorem add_zero {tally : EventTally} {count : Nat} (counted : tally.modules.length = count) :
    tally.add (zero count) = tally := by
  have kept : List.zipWith ModuleTally.add tally.modules
      (List.replicate count ModuleTally.zero) = tally.modules := by
    subst counted
    induction tally.modules with
    | nil => rfl
    | cons module modules induction => exact congrArg (module :: ·) induction
  rw [add, zero, kept]
  rfl

end EventTally

namespace Session

theorem run_cons (session : Session) (action : Action) (actions : List Action) :
    session.run (action :: actions) =
      (((session.step action).1.run actions).1,
        (session.step action).2 :: ((session.step action).1.run actions).2) := rfl

theorem run_append (session : Session) (front back : List Action) :
    session.run (front ++ back) =
      (((session.run front).1.run back).1,
        (session.run front).2 ++ ((session.run front).1.run back).2) := by
  induction front generalizing session with
  | nil => rfl
  | cons action front induction =>
      rw [List.cons_append, run_cons, induction, run_cons]
      rfl

theorem step_start_of_slot {session : Session} {event : Nat} {slot : Slot}
    (slot_at : session.splitter.slots[event]? = some slot) :
    session.step (.start event) =
      ({ session with
          cycle := some
            { event, regions := List.replicate slot.moduleCount Regions.empty } },
        .started event) := by
  simp only [step, Splitter.start, Splitter.moduleCount?, slot_at, Option.map_some]

theorem step_worksInside_of_closed {action : Action} (inside : action.worksInside = true)
    (splitter : Splitter) :
    step { splitter, cycle := none } action = ({ splitter, cycle := none }, .noCycle) := by
  cases action with
  | record region module words => rfl
  | recorded module => rfl
  | reset => rfl
  | _ => cases inside

/-- What an action in a cycle does depends on the regions of the cycle alone. -/
theorem step_worksInside {action : Action} (inside : action.worksInside = true)
    (regions : List Regions) :
    ∃ later reply, later.length = regions.length ∧
      (∀ distance, Reply.shift distance reply = reply) ∧
      ∀ splitter event,
        step { splitter, cycle := some { event, regions } } action =
          ({ splitter, cycle := some { event, regions := later } }, reply) := by
  cases action with
  | record region module words =>
      cases recorded : regions[module]? with
      | none =>
          refine ⟨regions, .refused .module, rfl, fun _ => rfl, ?_⟩
          intro splitter event
          simp only [step, Cycle.record, recorded]
      | some found =>
          refine ⟨regions.set module (found.set region words), .done, List.length_set,
            fun _ => rfl, ?_⟩
          intro splitter event
          simp only [step, Cycle.record, recorded]
  | recorded module =>
      exact ⟨regions, .recorded regions[module]?, rfl, fun _ => rfl, fun _ _ => rfl⟩
  | reset =>
      exact ⟨regions.map fun _ => Regions.empty, .done, List.length_map _, fun _ => rfl,
        fun _ _ => rfl⟩
  | _ => cases inside

theorem run_worksInside {actions : List Action}
    (inside : ∀ action ∈ actions, action.worksInside = true) (regions : List Regions) :
    ∃ later replies, later.length = regions.length ∧
      (∀ distance, replies.map (Reply.shift distance) = replies) ∧
      ∀ splitter event,
        run { splitter, cycle := some { event, regions } } actions =
          ({ splitter, cycle := some { event, regions := later } }, replies) := by
  induction actions generalizing regions with
  | nil => exact ⟨regions, [], rfl, fun _ => rfl, fun _ _ => rfl⟩
  | cons action actions induction =>
      obtain ⟨here, others⟩ := List.forall_mem_cons.mp inside
      obtain ⟨next, reply, next_length, reply_shift, step_eq⟩ := step_worksInside here regions
      obtain ⟨last, replies, last_length, replies_shift, run_eq⟩ := induction others next
      refine ⟨last, reply :: replies, last_length.trans next_length, ?_, ?_⟩
      · intro distance
        rw [List.map_cons, reply_shift, replies_shift]
      · intro splitter event
        rw [run_cons, step_eq, run_eq]

/-- What a finished cycle reports depends on its slot and its regions, apart from the place
of the slot, and it adds to the statistics of the slot. -/
theorem step_finish_uncounted {slot : Slot} {regions : List Regions}
    (fitting : regions.length = slot.headers.length) :
    ∃ (report : Report) (gained : EventTally), ∀ (splitter : Splitter) event before,
      splitter.slots[event]? = some slot →
      splitter.tally.events[event]? = some before →
      before.modules.length = slot.headers.length →
      step { splitter, cycle := some { event, regions } } .finish =
        ({ splitter :=
            { splitter with
              tally := ⟨splitter.tally.events.set event (before.add gained)⟩ }
           cycle := none },
          .finished (report.shift event)) := by
  let fresh := slot.deliver 0 regions slot.zeros
  refine ⟨fresh.report, ⟨1, fresh.brackets, fresh.tallies⟩, ?_⟩
  intro splitter event before slot_at before_at counted
  have placed := slot.deliver_shift event 0 regions slot.zeros
  have added := Slot.tallies_deliver_eq_add fitting counted event
  obtain ⟨calls, notices, brackets⟩ :=
    slot.deliver_uncounted event regions (counted.trans slot.length_zeros.symm)
  rw [Nat.add_zero] at placed
  rw [placed] at added calls notices brackets
  rw [step_finish_of_opened rfl, Splitter.finish_eq_after slot_at before_at]
  simp only [EventTally.after, EventTally.add, Delivery.report, added, calls, notices,
    brackets, Report.shift, Delivery.shift, fresh]

theorem step_closes {close : Action} (closing : close.closes = true) {slot : Slot}
    {regions : List Regions} (fitting : regions.length = slot.headers.length) :
    ∃ reply gained, ∀ (splitter : Splitter) event before,
      splitter.slots[event]? = some slot →
      splitter.tally.events[event]? = some before →
      before.modules.length = slot.headers.length →
      step { splitter, cycle := some { event, regions } } close =
        ({ splitter :=
            { splitter with
              tally := ⟨splitter.tally.events.set event (before.add gained)⟩ }
           cycle := none },
          Reply.shift event reply) := by
  cases close with
  | finish =>
      obtain ⟨report, gained, finish_eq⟩ := step_finish_uncounted fitting
      exact ⟨.finished report, gained, finish_eq⟩
  | abandon =>
      refine ⟨.done, EventTally.zero slot.headers.length, ?_⟩
      intro splitter event before slot_at before_at counted
      obtain ⟨placed, rfl⟩ := List.getElem?_eq_some_iff.mp before_at
      rw [EventTally.add_zero counted, List.set_getElem_self]
      rfl
  | _ => cases closing

/-- A cycle gives the replies of the cycle with the same actions in a slot with index 0
and the same modules, and adds the same to the statistics of its slot. -/
theorem run_cycle (slot : Slot) {actions : List Action}
    (inside : ∀ action ∈ actions, action.worksInside = true) {close : Action}
    (closing : close.closes = true) :
    ∃ (replies : List Reply) (gained : EventTally), ∀ (session : Session) event before,
      session.splitter.slots[event]? = some slot →
      session.splitter.tally.events[event]? = some before →
      before.modules.length = slot.headers.length →
      session.run (.start event :: actions ++ [close]) =
        ({ splitter :=
            { session.splitter with
              tally := ⟨session.splitter.tally.events.set event (before.add gained)⟩ }
           cycle := none },
          replies.map (Reply.shift event)) := by
  -- All cycles of the slot start with the same empty regions, so what is recorded at the
  -- end does not depend on the session.
  obtain ⟨later, workReplies, length_eq, work_shift, work_eq⟩ :=
    run_worksInside inside (List.replicate slot.moduleCount Regions.empty)
  have fitting : later.length = slot.headers.length :=
    length_eq.trans List.length_replicate
  obtain ⟨closeReply, gained, close_eq⟩ := step_closes closing fitting
  refine ⟨.started 0 :: workReplies ++ [closeReply], gained, ?_⟩
  intro session event before slot_at before_at counted
  have ended := close_eq session.splitter event before slot_at before_at counted
  rw [List.cons_append, run_cons, step_start_of_slot slot_at, run_append, work_eq, run_cons,
    ended]
  simp [run, work_shift, Reply.shift]

end Session

namespace Splitter

theorem build_of_compile {slotPatterns : List String} {slot : Slot}
    (compiled : Slot.compile slotPatterns = .ok slot) :
    (build [slotPatterns]).2 = .ok (ofSlots [slot]) := by
  simp only [build, compileSlots, compiled]
  rfl

end Splitter

namespace Engine

theorem run_of_session {patterns : List (List String)} {engine : Engine}
    (consistent : engine.session.Consistent patterns) {actions : List Action}
    {last : Session} {replies : List Reply}
    (run_eq : engine.session.run actions = (last, replies)) :
    ∃ ended, engine.run actions = .ok (ended, replies) ∧ ended.session = last := by
  have engine_run := run_eq_session consistent actions
  rwa [run_eq] at engine_run

/-- Whatever happened before, a cycle of a slot gives the replies that it gives as the
first cycle of an engine for this slot alone, except that they carry the index of the
slot, and it adds the same to the statistics of the slot.  The statistics of other slots
and the compiled filters stay as they are. -/
theorem run_cycle_eq_first_cycle {patterns : List (List String)} {engine : Engine}
    {event : Nat} {slotPatterns : List String} {actions : List Action} {close : Action}
    (reachable : Reachable patterns engine)
    (slotPatterns_at : patterns[event]? = some slotPatterns)
    (inside : ∀ action ∈ actions, action.worksInside = true)
    (closing : close.closes = true) :
    ∃ alone replies last lastAlone before beforeAlone gained,
      (build [slotPatterns]).2 = .ok alone ∧
      alone.run (.start 0 :: actions ++ [close]) = .ok (lastAlone, replies) ∧
      engine.run (.start event :: actions ++ [close]) =
        .ok (last, replies.map (Reply.shift event)) ∧
      alone.tally.events[0]? = some beforeAlone ∧
      lastAlone.tally.events[0]? = some (beforeAlone.add gained) ∧
      engine.tally.events[event]? = some before ∧
      last.tally.events[event]? = some (before.add gained) ∧
      (∀ other, other ≠ event →
        last.tally.events[other]? = engine.tally.events[other]?) ∧
      last.slots = engine.slots := by
  have consistent := reachable.consistent
  obtain ⟨slot, slot_at, compiled⟩ :=
    Splitter.slot_of_patterns consistent.splitter slotPatterns_at
  obtain ⟨before, before_at, counted⟩ := Splitter.tally_of_slot consistent.splitter slot_at
  obtain ⟨replies, gained, run_eq⟩ := Session.run_cycle slot inside closing
  have built := Splitter.build_of_compile compiled
  have builtEngine : (build [slotPatterns]).2 = .ok (ofSplitter (Splitter.ofSlots [slot])) := by
    rw [(build_eq _).2, built]
    rfl
  have consistentAlone := consistent_of_build builtEngine
  have aloneRun := run_eq (ofSplitter (Splitter.ofSlots [slot])).session 0
    (EventTally.zero slot.moduleCount) rfl rfl List.length_replicate
  obtain ⟨lastAlone, aloneEngine, alone_eq⟩ := run_of_session consistentAlone aloneRun
  obtain ⟨last, engineRun, last_eq⟩ := run_of_session consistent
    (run_eq engine.session event before slot_at before_at counted)
  rw [Reply.shift_zero, List.map_id] at aloneEngine
  have aloneEvents : lastAlone.tally.events =
      [(EventTally.zero slot.moduleCount).add gained] :=
    congrArg (fun session => session.splitter.tally.events) alone_eq
  have lastEvents : last.tally.events = engine.tally.events.set event (before.add gained) :=
    congrArg (fun session => session.splitter.tally.events) last_eq
  have placed : event < engine.tally.events.length :=
    (List.getElem?_eq_some_iff.mp before_at).1
  refine ⟨_, replies, last, lastAlone, before, EventTally.zero slot.moduleCount, gained,
    builtEngine, aloneEngine, engineRun, rfl, ?_, before_at, ?_, ?_, ?_⟩
  · rw [aloneEvents]
    rfl
  · rw [lastEvents, List.getElem?_set_self placed]
  · intro other different
    rw [lastEvents, List.getElem?_set_ne different.symm]
  · exact congrArg (fun session => session.splitter.slots) last_eq

/-- A second slot works as if alone after a finished, a refused and an abandoned cycle. -/
theorem run_cycle_eq_first_cycle_second_slot :
    ∃ built engine earlier alone replies last lastAlone,
      (build [["1SSS", ""], ["01"]]).2 = .ok built ∧
      built.run [.start 0, .record .dynamic 0 [9, 1, 15, 2], .finish, .start 5, .start 0,
          .record .dynamic 1 [3], .abandon] =
        .ok (engine, earlier) ∧
      (build [["01"]]).2 = .ok alone ∧
      alone.run [.start 0, .record .dynamic 0 [1, 1, 2], .recorded 0, .record .leading 3 [],
          .finish] =
        .ok (lastAlone, replies) ∧
      engine.run [.start 1, .record .dynamic 0 [1, 1, 2], .recorded 0, .record .leading 3 [],
          .finish] =
        .ok (last, replies.map (Reply.shift 1)) ∧
      last.tally.events[0]? = engine.tally.events[0]? := by
  have compiled : (build [["1SSS", ""], ["01"]]).2 = .ok _ := rfl
  obtain ⟨engine, run_eq, -⟩ := run_eq_session (consistent_of_build compiled)
    [.start 0, .record .dynamic 0 [9, 1, 15, 2], .finish, .start 5, .start 0,
      .record .dynamic 1 [3], .abandon]
  have reachable : Reachable [["1SSS", ""], ["01"]] engine := ⟨_, _, _, compiled, run_eq⟩
  have slotPatterns_at : [["1SSS", ""], ["01"]][1]? = some ["01"] := rfl
  have inside : ∀ action ∈
      [Action.record .dynamic 0 [1, 1, 2], .recorded 0, .record .leading 3 []],
      action.worksInside = true := by decide
  have closing : Action.finish.closes = true := rfl
  obtain ⟨alone, replies, last, lastAlone, before, beforeAlone, gained, built, aloneRun,
    engineRun, -, -, -, -, others, -⟩ :=
    run_cycle_eq_first_cycle reachable slotPatterns_at inside closing
  exact ⟨_, engine, _, alone, replies, last, lastAlone, compiled, run_eq, built, aloneRun,
    engineRun, others 0 (by decide)⟩

end Engine

end Readout
