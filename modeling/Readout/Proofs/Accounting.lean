import Readout.Observer
import Readout.Proofs.Isolation
import Readout.Proofs.Shares

/-!
# Statistics say what was seen

Whatever the actions of a run, the statistics of an engine are those that an observer of
the run could have kept: what fails, what is abandoned and what other slots do leaves no
trace in them.
-/

namespace Readout

namespace Call

theorem dynamicWords_of_event_ne {event other : Nat} {calls : List Call}
    (placed : ∀ call ∈ calls, call.event = other) (different : other ≠ event)
    (module : Nat) : dynamicWords event module calls = [] := by
  rw [dynamicWords, List.filterMap_eq_nil_iff]
  intro call member
  cases call with
  | dynamic called index words =>
      have elsewhere : called ≠ event := by
        rw [show called = other from placed _ member]
        exact different
      simp [elsewhere]
  | _ => rfl

theorem count_of_event_ne {event other : Nat} {calls : List Call}
    (placed : ∀ call ∈ calls, call.event = other) (different : other ≠ event)
    {call : Call} (called : call.event = event) : calls.count call = 0 :=
  List.count_eq_zero.mpr fun member => different ((placed call member).symm.trans called)

theorem countP_isDynamic_forWords (region : Region) (event module : Nat)
    (words : List Word) :
    (forWords region event module words).countP isDynamic =
      if region = .dynamic ∧ words ≠ [] then 1 else 0 := by
  cases words with
  | nil => simp [forWords]
  | cons word words => cases region <;> rfl

end Call

namespace Share

/-- Between its two ends a bracket neither begins nor ends an event. -/
theorem ends_not_mem_calls (event called : Nat) (share : Share) :
    Call.beginEvent called ∉ share.calls event ∧
      Call.endEvent called ∉ share.calls event := by
  have regional : ∀ call ∈ share.calls event, ∃ region module words,
      call = Call.ofRegion region event module words := by
    intro call member
    obtain ⟨part, -, rfl⟩ := List.mem_map.mp member
    exact ⟨part.1, share.module, part.2, rfl⟩
  constructor
  · intro member
    obtain ⟨region, module, words, call_eq⟩ := regional _ member
    cases region <;> cases call_eq
  · intro member
    obtain ⟨region, module, words, call_eq⟩ := regional _ member
    cases region <;> cases call_eq

theorem count_brackets (event : Nat) (brackets : List (List Share)) :
    (brackets.map (bracket event)).flatten.count (.beginEvent event) = brackets.length ∧
      (brackets.map (bracket event)).flatten.count (.endEvent event) = brackets.length := by
  induction brackets with
  | nil => exact ⟨rfl, rfl⟩
  | cons shares brackets induction =>
      have begun : (shares.flatMap (calls event)).count (.beginEvent event) = 0 := by
        simp [List.count_eq_zero, ends_not_mem_calls]
      have ended : (shares.flatMap (calls event)).count (.endEvent event) = 0 := by
        simp [List.count_eq_zero, ends_not_mem_calls]
      simp [bracket, induction, begun, ended]

end Share

namespace Lane

theorem subEvents_advance (event : Nat) (lane : Lane) :
    lane.advance.tally.subEvents =
      lane.tally.subEvents + (lane.calls event).countP Call.isDynamic := by
  cases front_eq : lane.header.front lane.regions.dynamic with
  | unmatched => simp [advance, calls, front_eq]
  | truncated length => simp [advance, calls, drop, front_eq]
  | subEvent words rest =>
      simp [advance, calls, front_eq, Call.countP_isDynamic_forWords, Call.isDynamic,
        List.countP_cons]

end Lane

def ModuleTally.subEventsOf (tallies : List ModuleTally) : Nat :=
  tallies.foldr (fun module total => module.subEvents + total) 0

@[simp]
theorem ModuleTally.subEventsOf_cons (tally : ModuleTally) (tallies : List ModuleTally) :
    subEventsOf (tally :: tallies) = tally.subEvents + subEventsOf tallies := rfl

theorem EventTally.subEvents_eq_sum (tally : EventTally) :
    tally.subEvents = ModuleTally.subEventsOf tally.modules := rfl

namespace Lanes

theorem subEvents_advance (event : Nat) (lanes : List Lane) :
    ModuleTally.subEventsOf ((advance lanes).map Lane.tally) =
      ModuleTally.subEventsOf (lanes.map Lane.tally) +
        (bracket event lanes).countP Call.isDynamic := by
  have ends : (bracket event lanes).countP Call.isDynamic =
      (lanes.flatMap (Lane.calls event)).countP Call.isDynamic := by
    simp [bracket, Call.isDynamic]
  rw [ends]
  induction lanes with
  | nil => rfl
  | cons lane lanes induction =>
      have here := lane.subEvents_advance event
      have later := induction (by simp [bracket, Call.isDynamic])
      simp only [ModuleTally.subEventsOf_cons, advance, List.map_cons, List.flatMap_cons,
        List.countP_append] at later ⊢
      omega

theorem subEvents_split (event : Nat) (lanes : List Lane) :
    ModuleTally.subEventsOf (split event lanes).tallies =
      ModuleTally.subEventsOf (lanes.map Lane.tally) +
        (split event lanes).calls.countP Call.isDynamic := by
  fun_induction split event lanes with
  | case1 lanes starting later induction =>
      rw [subEvents_advance event, Nat.add_assoc] at induction
      rwa [List.countP_append]
  | case2 lanes ended => simp [ModuleTally.subEventsOf, List.foldr_map, Lane.drop]

end Lanes

namespace Slot

theorem subEvents_whole (event module : Nat) {regions : List Regions}
    {tallies : List ModuleTally} (fitting : regions.length = tallies.length) :
    ModuleTally.subEventsOf (List.zipWith countWhole regions tallies) =
      ModuleTally.subEventsOf tallies +
        (wholeCalls event module regions).countP Call.isDynamic := by
  induction regions generalizing module tallies with
  | nil =>
      rw [List.eq_nil_of_length_eq_zero fitting.symm]
      rfl
  | cons recorded regions induction =>
      obtain ⟨tally, tallies, rfl⟩ := List.exists_cons_of_length_eq_add_one fitting.symm
      have later := induction (module + 1) (by simpa using fitting)
      have here : (countWhole recorded tally).subEvents =
          tally.subEvents + if recorded.dynamic ≠ [] then 1 else 0 := by
        cases dynamic_eq : recorded.dynamic <;> simp [countWhole, dynamic_eq]
      simp only [ModuleTally.subEventsOf_cons, List.zipWith_cons_cons, wholeCalls,
        List.countP_append, Call.countP_isDynamic_forWords, here]
      simp only [reduceCtorEq, false_and, if_false, true_and]
      omega

/-- A slot counts every dynamic call as a sub-event of one of its modules. -/
theorem subEvents_deliver {slot : Slot} {regions : List Regions}
    {tallies : List ModuleTally} (fitting : regions.length = slot.headers.length)
    (counted : tallies.length = slot.headers.length) (event : Nat) :
    ModuleTally.subEventsOf (slot.deliver event regions tallies).tallies =
      ModuleTally.subEventsOf tallies +
        (slot.deliver event regions tallies).calls.countP Call.isDynamic := by
  unfold deliver
  split
  · rw [Lanes.subEvents_split, (Lanes.map_ofModules 0 fitting counted).2.2]
  · simp [passThrough, Call.isDynamic, subEvents_whole event 0 (fitting.trans counted.symm)]

theorem moduleTally_gains (slot : Slot) (header : Header) (recorded : Regions)
    (tally : ModuleTally) :
    (slot.moduleTally header recorded tally).subEvents =
        tally.subEvents + (slot.moduleWords header recorded).length ∧
      (slot.splitting = true → ∃ truncated : Bool,
        (slot.moduleTally header recorded tally).headerMatches =
            tally.headerMatches +
              ((slot.moduleWords header recorded).length + truncated.toNat) ∧
          (slot.moduleTally header recorded tally).truncated =
            tally.truncated + truncated.toNat) ∧
      (slot.splitting = false →
        (slot.moduleTally header recorded tally).headerMatches = tally.headerMatches ∧
          (slot.moduleTally header recorded tally).truncated = tally.truncated) := by
  unfold moduleTally moduleWords
  cases splitting : slot.splitting with
  | true =>
      refine ⟨rfl, fun _ => ⟨header.starts (header.remainder recorded.dynamic), ?_, ?_⟩, nofun⟩
      · exact congrArg (tally.headerMatches + ·) (header.length_cuts recorded.dynamic)
      · exact congrArg (tally.truncated + ·) (header.count_truncated_cuts recorded.dynamic)
  | false => cases dynamic_eq : recorded.dynamic <;> simp [countWhole, dynamic_eq]

/-- Every entry of the statistics after a cycle is that of a module and what it delivers. -/
theorem module_of_tally {slot : Slot} {regions : List Regions} {tallies : List ModuleTally}
    (fitting : regions.length = slot.headers.length)
    (counted : tallies.length = slot.headers.length) (event : Nat) {module : Nat}
    {after : ModuleTally}
    (after_at : (slot.deliver event regions tallies).tallies[module]? = some after) :
    ∃ header recorded before, tallies[module]? = some before ∧
      after = slot.moduleTally header recorded before ∧
      Call.dynamicWords event module (slot.deliver event regions tallies).calls =
        slot.moduleWords header recorded := by
  have inside := (List.getElem?_eq_some_iff.mp after_at).1
  rw [length_tallies_deliver slot event fitting counted, counted] at inside
  have before_at := List.getElem?_eq_getElem (counted.symm ▸ inside : module < tallies.length)
  have recorded_at := List.getElem?_eq_getElem (fitting.symm ▸ inside : module < regions.length)
  obtain ⟨words, tally_at⟩ := deliver_module event fitting counted
    (List.getElem?_eq_getElem inside) recorded_at before_at
  exact ⟨_, _, _, before_at, Option.some.inj (after_at.symm.trans tally_at), words⟩

end Slot

namespace Journal

structure Counts (journal : Journal) (event : Nat) (slot : Slot) (counted : EventTally) :
    Prop where
  inputEvents : counted.inputEvents = journal.inputs event
  begun : counted.outputEvents = journal.calls.count (.beginEvent event)
  ended : counted.outputEvents = journal.calls.count (.endEvent event)
  brackets : counted.outputEvents = journal.brackets event
  subEvents : ∀ (module : Nat) (tally : ModuleTally), counted.modules[module]? = some tally →
    tally.subEvents = (Call.dynamicWords event module journal.calls).length
  splitting : slot.splitting = true →
    ∀ (module : Nat) (tally : ModuleTally), counted.modules[module]? = some tally →
      tally.headerMatches = tally.subEvents + tally.truncated ∧
        tally.truncated ≤ counted.inputEvents
  whole : slot.splitting = false →
    ∀ (module : Nat) (tally : ModuleTally), counted.modules[module]? = some tally →
      tally.headerMatches = 0 ∧ tally.truncated = 0

theorem counts_zero (event : Nat) (slot : Slot) (moduleCount : Nat) :
    empty.Counts event slot (EventTally.zero moduleCount) := by
  have untouched : ∀ (module : Nat) (tally : ModuleTally),
      (EventTally.zero moduleCount).modules[module]? = some tally →
        tally = ModuleTally.zero := by
    intro module tally tally_at
    exact List.eq_of_mem_replicate (List.mem_of_getElem? tally_at)
  constructor
  case inputEvents => rfl
  case begun => rfl
  case ended => rfl
  case brackets => rfl
  case subEvents =>
    intro module tally tally_at
    rw [untouched module tally tally_at]
    rfl
  case splitting =>
    intro _ module tally tally_at
    rw [untouched module tally tally_at]
    exact ⟨rfl, Nat.le_refl 0⟩
  case whole =>
    intro _ module tally tally_at
    rw [untouched module tally tally_at]
    exact ⟨rfl, rfl⟩

section Finish

variable {journal : Journal} {event : Nat} {slot : Slot} {counted : EventTally}
  (counts : journal.Counts event slot counted)
include counts

theorem Counts.add_other {other : Nat} {report : Report}
    (placed : ∀ call ∈ report.calls, call.event = other) (different : other ≠ event) :
    (journal.add (some other) report).Counts event slot counted := by
  have begun := Call.count_of_event_ne placed different
    (show (Call.beginEvent event).event = event from rfl)
  have ended := Call.count_of_event_ne placed different
    (show (Call.endEvent event).event = event from rfl)
  constructor
  case inputEvents => simpa [different] using counts.inputEvents
  case begun => simpa [begun] using counts.begun
  case ended => simpa [ended] using counts.ended
  case brackets => simpa [different] using counts.brackets
  case subEvents =>
    intro module tally tally_at
    simpa [Call.dynamicWords_of_event_ne placed different] using
      counts.subEvents module tally tally_at
  case splitting => exact counts.splitting
  case whole => exact counts.whole

theorem Counts.add_same {regions : List Regions}
    (fitting : regions.length = slot.headers.length)
    (length_eq : counted.modules.length = slot.headers.length) :
    (journal.add (some event)
        (slot.deliver event regions counted.modules).report).Counts event slot
      (counted.after (slot.deliver event regions counted.modules)) := by
  obtain ⟨calls, brackets⟩ := Slot.deliver_eq_shares fitting length_eq event
  obtain ⟨begun, ended⟩ := Share.count_brackets event (slot.shares regions)
  rw [← calls, ← brackets] at begun ended
  constructor
  case inputEvents => simp [EventTally.after, counts.inputEvents]
  case begun => simp [EventTally.after, Delivery.report, begun, ← counts.begun]
  case ended => simp [EventTally.after, Delivery.report, ended, ← counts.ended]
  case brackets => simp [EventTally.after, Delivery.report, counts.brackets]
  case subEvents =>
    intro module after after_at
    obtain ⟨header, recorded, before, before_at, rfl, words⟩ :=
      Slot.module_of_tally fitting length_eq event after_at
    simp only [Journal.calls_add, Call.dynamicWords_append, Delivery.report, words,
      List.length_append, (slot.moduleTally_gains header recorded before).1,
      counts.subEvents module before before_at]
  case splitting =>
    intro splitting module after after_at
    obtain ⟨header, recorded, before, before_at, rfl, -⟩ :=
      Slot.module_of_tally fitting length_eq event after_at
    obtain ⟨subEvents, gains, -⟩ := slot.moduleTally_gains header recorded before
    obtain ⟨truncated, matches_eq, truncated_eq⟩ := gains splitting
    obtain ⟨matched, bounded⟩ := counts.splitting splitting module before before_at
    have once := Bool.toNat_le truncated
    simp only [EventTally.after]
    omega
  case whole =>
    intro whole module after after_at
    obtain ⟨header, recorded, before, before_at, rfl, -⟩ :=
      Slot.module_of_tally fitting length_eq event after_at
    obtain ⟨matches_eq, truncated_eq⟩ :=
      (slot.moduleTally_gains header recorded before).2.2 whole
    rw [matches_eq, truncated_eq]
    exact counts.whole whole module before before_at

end Finish

end Journal

theorem Tally.totalSubEvents_set {events : List EventTally} {event gained : Nat}
    {before after : EventTally} (before_at : events[event]? = some before)
    (gain : after.subEvents = before.subEvents + gained) :
    totalSubEvents ⟨events.set event after⟩ = totalSubEvents ⟨events⟩ + gained := by
  induction events generalizing event with
  | nil => cases before_at
  | cons first events induction =>
      cases event with
      | zero =>
          cases before_at
          simp only [totalSubEvents, List.set_cons_zero, List.foldr_cons, gain]
          omega
      | succ event =>
          have later := induction before_at
          simp only [totalSubEvents, List.set_cons_succ, List.foldr_cons] at later ⊢
          omega

theorem EventTally.subEvents_zero (moduleCount : Nat) : (zero moduleCount).subEvents = 0 := by
  induction moduleCount with
  | zero => rfl
  | succ moduleCount induction => exact (Nat.zero_add _).trans induction

theorem Tally.totalSubEvents_zero (counts : List Nat) : totalSubEvents (zero counts) = 0 := by
  induction counts with
  | nil => rfl
  | cons count counts induction =>
      simp only [totalSubEvents, zero, List.map_cons, List.foldr_cons,
        EventTally.subEvents_zero] at induction ⊢
      omega

namespace Splitter

/-- The statistics of a splitter say what a journal holds. -/
structure Accounted (splitter : Splitter) (journal : Journal) : Prop where
  total : splitter.tally.totalSubEvents = journal.calls.countP Call.isDynamic
  counts : ∀ event slot counted, splitter.slots[event]? = some slot →
    splitter.tally.events[event]? = some counted → journal.Counts event slot counted

theorem tally_of_build {patterns : List (List String)} {splitter : Splitter}
    (built : (build patterns).2 = .ok splitter) :
    splitter.tally = Tally.zero (splitter.slots.map Slot.moduleCount) := by
  rw [build] at built
  split at built
  · cases built
    rfl
  · cases built

theorem accounted_zero {splitter : Splitter} {counts : List Nat}
    (cleared : splitter.tally = Tally.zero counts) : splitter.Accounted .empty := by
  constructor
  case total =>
    rw [cleared, Tally.totalSubEvents_zero]
    rfl
  case counts =>
    intro event slot counted slot_at counted_at
    rw [cleared, Tally.zero, List.getElem?_map] at counted_at
    obtain ⟨moduleCount, -, rfl⟩ := Option.map_eq_some_iff.mp counted_at
    exact Journal.counts_zero event slot moduleCount

theorem accounted_finish {patterns : List (List String)} {splitter : Splitter}
    {journal : Journal} {cycle : Cycle} (consistent : splitter.Consistent patterns)
    (runs : splitter.Runs cycle) (accounted : splitter.Accounted journal) :
    (splitter.finish cycle).1.Accounted
      (journal.add (some cycle.event) (splitter.finish cycle).2) := by
  obtain ⟨slot, counted, delivery, slot_at, counted_at, fitting, length_eq, -, -⟩ :=
    finish_of_runs consistent runs
  rw [finish_eq_after slot_at counted_at]
  constructor
  case total =>
    have gain := Slot.subEvents_deliver fitting length_eq cycle.event
    rw [← EventTally.subEvents_eq_sum counted] at gain
    rw [Journal.calls_add, List.countP_append, ← accounted.total]
    exact Tally.totalSubEvents_set counted_at ((EventTally.subEvents_eq_sum _).trans gain)
  case counts =>
    intro event other otherCounted other_at otherCounted_at
    by_cases same : cycle.event = event
    · subst same
      have inside := (List.getElem?_eq_some_iff.mp counted_at).1
      cases slot_at.symm.trans other_at
      cases (List.getElem?_set_self inside).symm.trans otherCounted_at
      exact (accounted.counts _ _ _ slot_at counted_at).add_same fitting length_eq
    · rw [List.getElem?_set_ne same] at otherCounted_at
      refine (accounted.counts _ _ _ other_at otherCounted_at).add_other ?_ same
      intro call member
      exact Slot.event_of_mem_deliver fitting length_eq member

end Splitter

theorem Observer.note_worksInside {action : Action} (inside : action.worksInside = true)
    (observer : Observer) (reply : Reply) : observer.note action reply = observer := by
  cases action with
  | record region module words => rfl
  | recorded module => rfl
  | reset => rfl
  | _ => cases inside

namespace Session

/-- An observer knows the slot of the open cycle, and its journal the statistics. -/
structure Accounted (session : Session) (observer : Observer) : Prop where
  event : observer.event = session.cycle.map Cycle.event
  splitter : session.splitter.Accounted observer.journal

theorem accounted_worksInside {session : Session} {observer : Observer}
    (accounted : session.Accounted observer) {action : Action}
    (inside : action.worksInside = true) :
    (session.step action).1.Accounted (observer.note action (session.step action).2) := by
  rw [Observer.note_worksInside inside]
  obtain ⟨splitter, cycle⟩ := session
  cases cycle with
  | none =>
      rw [step_worksInside_of_closed inside splitter]
      exact accounted
  | some cycle =>
      obtain ⟨later, reply, -, -, step_eq⟩ := step_worksInside inside cycle.regions
      rw [step_eq splitter cycle.event]
      exact ⟨accounted.event, accounted.splitter⟩

theorem accounted_step {patterns : List (List String)} {session : Session}
    {observer : Observer} (consistent : session.Consistent patterns)
    (accounted : session.Accounted observer) (action : Action) :
    (session.step action).1.Accounted (observer.note action (session.step action).2) := by
  -- Only the end of a cycle and the clearing of the statistics change what is counted, and
  -- only they change the journal; all other actions are about the slot of the open cycle.
  cases action with
  | start event =>
      cases count_eq : session.splitter.moduleCount? event with
      | none =>
          simp only [step, Splitter.start, count_eq]
          exact ⟨rfl, accounted.splitter⟩
      | some count =>
          simp only [step, Splitter.start, count_eq]
          exact ⟨rfl, accounted.splitter⟩
  | record region module words => exact accounted_worksInside accounted rfl
  | recorded module => exact accounted_worksInside accounted rfl
  | reset => exact accounted_worksInside accounted rfl
  | finish =>
      cases opened : session.cycle with
      | none =>
          simp only [step, opened]
          exact accounted
      | some cycle =>
          have event_eq := accounted.event
          rw [opened] at event_eq
          rw [step_finish_of_opened opened]
          refine ⟨rfl, ?_⟩
          simp only [Observer.note, event_eq]
          exact Splitter.accounted_finish consistent.splitter (consistent.runs cycle opened)
            accounted.splitter
  | abandon => exact ⟨rfl, accounted.splitter⟩
  | clearTally =>
      exact ⟨rfl, Splitter.accounted_zero (Tally.clear_eq_zero_layout session.splitter.tally)⟩

theorem accounted_run {patterns : List (List String)} {session : Session}
    {observer : Observer} (consistent : session.Consistent patterns)
    (accounted : session.Accounted observer) (actions : List Action) :
    (session.run actions).1.Accounted (observer.watch actions (session.run actions).2) := by
  induction actions generalizing session observer with
  | nil => exact accounted
  | cons action actions induction =>
      exact induction (consistent_step consistent action)
        (accounted_step consistent accounted action)

end Session

namespace Slot

theorem moduleCounts_of_compile {patterns : List (List String)} {slots : List Slot}
    (compiled : patterns.map compile = slots.map .ok) :
    slots.map moduleCount = patterns.map List.length := by
  induction patterns generalizing slots with
  | nil =>
      cases slots with
      | nil => rfl
      | cons slot slots => cases compiled
  | cons slotPatterns patterns induction =>
      cases slots with
      | nil => cases compiled
      | cons slot slots =>
          obtain ⟨here, later⟩ := List.cons.inj compiled
          have counts := congrArg List.length (headers_of_compile here).1
          rw [List.length_map, List.length_map] at counts
          rw [List.map_cons, List.map_cons, induction later, moduleCount, counts]

end Slot

namespace Engine

/-- Whatever the actions of a run, the statistics that it leads to are those of the
journal that an observer of the run has kept: for every slot, every cycle that was
finished and every call of these cycles is counted once, and for every module, every
sub-event that it delivered, and in a slot that is split also every sub-event that was
truncated, of which a cycle has at most one.  There are statistics for exactly the slots
and the modules of the header patterns. -/
theorem run_counts_calls {patterns : List (List String)} {built : Engine}
    (compiled : (build patterns).2 = .ok built) (actions : List Action) :
    ∃ engine replies journal,
      built.run actions = .ok (engine, replies) ∧
      journal = (Observer.fresh.watch actions replies).journal ∧
      engine.tally.layout = patterns.map List.length ∧
      engine.tally.totalSubEvents = journal.calls.countP Call.isDynamic ∧
      ∀ event slotPatterns, patterns[event]? = some slotPatterns →
        ∃ slot counted,
          Slot.compile slotPatterns = .ok slot ∧
          engine.slots[event]? = some slot ∧
          engine.tally.events[event]? = some counted ∧
          journal.Counts event slot counted := by
  have consistent := consistent_of_build compiled
  have fresh : built.session.Accounted .fresh := by
    obtain ⟨splitter, splitter_built, rfl⟩ := splitter_of_build compiled
    rw [session_ofSplitter]
    exact ⟨rfl, Splitter.accounted_zero (Splitter.tally_of_build splitter_built)⟩
  obtain ⟨engine, run_eq, engine_eq⟩ := run_eq_session consistent actions
  have reached : engine.session.Consistent patterns :=
    engine_eq ▸ Session.consistent_run consistent actions
  have accounted := Session.accounted_run consistent fresh actions
  rw [← engine_eq] at accounted
  refine ⟨engine, _, _, run_eq, rfl, ?_, accounted.splitter.total, ?_⟩
  · exact reached.splitter.layout.trans
      (Slot.moduleCounts_of_compile reached.splitter.compiled)
  · intro event slotPatterns slotPatterns_at
    obtain ⟨slot, slot_at, slot_compiled⟩ :=
      Splitter.slot_of_patterns reached.splitter slotPatterns_at
    obtain ⟨counted, counted_at, -⟩ := Splitter.tally_of_slot reached.splitter slot_at
    exact ⟨slot, counted, slot_compiled, slot_at, counted_at,
      accounted.splitter.counts event slot counted slot_at counted_at⟩

/-- One of two slots is split and truncates a sub-event, the other one is not split; one
record and one start are refused, and one cycle is abandoned. -/
theorem run_counts_calls_two_slots :
    ∃ actions built engine replies journal slot counted,
      actions =
        [.start 0, .record .dynamic 0 [9, 1, 15, 2], .record .dynamic 7 [1], .finish,
          .start 5, .start 1, .record .dynamic 0 [3], .finish, .start 0, .abandon] ∧
      (build [["1SSS", ""], [""]]).2 = .ok built ∧
      built.run actions = .ok (engine, replies) ∧
      journal = (Observer.fresh.watch actions replies).journal ∧
      engine.tally.layout = [2, 1] ∧
      engine.tally.totalSubEvents = journal.calls.countP Call.isDynamic ∧
      engine.tally.events[0]? = some counted ∧
      journal.Counts 0 slot counted := by
  have compiled : (build [["1SSS", ""], [""]]).2 = .ok _ := rfl
  obtain ⟨engine, replies, journal, run_eq, journal_eq, layout, total, counts⟩ :=
    run_counts_calls compiled
      [.start 0, .record .dynamic 0 [9, 1, 15, 2], .record .dynamic 7 [1], .finish,
        .start 5, .start 1, .record .dynamic 0 [3], .finish, .start 0, .abandon]
  obtain ⟨slot, counted, -, -, counted_at, slot_counts⟩ := counts 0 ["1SSS", ""] rfl
  exact ⟨_, _, engine, replies, journal, slot, counted, rfl, compiled, run_eq, journal_eq, layout,
    total, counted_at, slot_counts⟩

end Engine

end Readout
