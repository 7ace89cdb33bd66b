import Readout.Proofs.Delivery
import Readout.Session

/-!
# What every session keeps

Whatever the actions of a session, its slots stay those of the header patterns it
was built from, its statistics keep one entry per module, and an open cycle
belongs to a slot and holds regions for exactly the modules of that slot.  So the
end of a cycle always finds its slot, and pairs every module with its header,
its regions and its statistics.
-/

namespace Readout

namespace Slot

theorem map_compile_of_compileHeaders {patterns : List String} {headers : List Header}
    (compiled : compileHeaders patterns = .ok headers) :
    patterns.map Header.compile = headers.map .ok := by
  induction patterns generalizing headers with
  | nil =>
      cases compiled
      rfl
  | cons pattern patterns induction =>
      rw [compileHeaders] at compiled
      split at compiled
      · cases compiled
      · rename_i header header_eq
        split at compiled
        · cases compiled
        · rename_i later later_eq
          cases compiled
          rw [List.map_cons, List.map_cons, header_eq, induction later_eq]

/-- A compiled slot has the header of every pattern, and it is split if one of
them can tell headers from other words. -/
theorem headers_of_compile {patterns : List String} {slot : Slot}
    (compiled : compile patterns = .ok slot) :
    patterns.map Header.compile = slot.headers.map .ok ∧
      slot.splitting = slot.headers.any Header.marksBoundaries := by
  rw [compile] at compiled
  split at compiled
  · cases compiled
  · rename_i headers headers_eq
    cases compiled
    exact ⟨map_compile_of_compileHeaders headers_eq, rfl⟩

end Slot

namespace Splitter

theorem map_compile_of_compileSlots {event : Nat} {patterns : List (List String)}
    {slots : List Slot} (compiled : (compileSlots event patterns).2 = .ok slots) :
    patterns.map Slot.compile = slots.map .ok := by
  induction patterns generalizing event slots with
  | nil =>
      cases compiled
      rfl
  | cons slotPatterns patterns induction =>
      rw [compileSlots] at compiled
      split at compiled
      · cases compiled
      · rename_i slot slot_eq
        cases rest_eq : compileSlots (event + 1) patterns with
        | mk notices later =>
            rw [rest_eq] at compiled
            cases later with
            | error error => cases compiled
            | ok later =>
                cases compiled
                have later_eq := induction (congrArg Prod.snd rest_eq)
                rw [List.map_cons, List.map_cons, slot_eq, later_eq]

/-- The slots are those of the header patterns, and there are as many statistics
as slots and modules. -/
structure Consistent (patterns : List (List String)) (splitter : Splitter) : Prop where
  compiled : patterns.map Slot.compile = splitter.slots.map .ok
  widest : splitter.widest = widestOf splitter.slots
  layout : splitter.tally.layout = splitter.slots.map Slot.moduleCount

/-- A cycle belongs to a slot and has regions for the modules of that slot. -/
def Runs (splitter : Splitter) (cycle : Cycle) : Prop :=
  splitter.moduleCount? cycle.event = some cycle.regions.length

theorem consistent_of_build {patterns : List (List String)} {splitter : Splitter}
    (built : (build patterns).2 = .ok splitter) : splitter.Consistent patterns := by
  rw [build] at built
  split at built
  · rename_i notices slots compiled_eq
    cases built
    constructor
    · exact map_compile_of_compileSlots (congrArg Prod.snd compiled_eq)
    · rfl
    · simp [ofSlots, Tally.layout, Tally.zero, EventTally.zero, Function.comp_def]
  · cases built

section Steps

variable {patterns : List (List String)} {splitter : Splitter}
  (consistent : splitter.Consistent patterns)
include consistent

theorem consistent_clearTally : splitter.clearTally.Consistent patterns := by
  refine ⟨consistent.compiled, consistent.widest, Eq.trans ?_ consistent.layout⟩
  simp [clearTally, Tally.layout, Tally.clear, EventTally.clear, EventTally.zero,
    Function.comp_def]

theorem tally_of_slot {event : Nat} {slot : Slot}
    (slot_at : splitter.slots[event]? = some slot) :
    ∃ counted, splitter.tally.events[event]? = some counted ∧
      counted.modules.length = slot.headers.length := by
  have counted_at := congrArg (fun layout => layout[event]?) consistent.layout
  simp only [Tally.layout, List.getElem?_map, slot_at, Option.map_some] at counted_at
  exact Option.map_eq_some_iff.mp counted_at

/-- A cycle that belongs to a slot finds that slot and its statistics. -/
theorem finish_of_runs {cycle : Cycle} (runs : splitter.Runs cycle) :
    ∃ slot counted delivery,
      splitter.slots[cycle.event]? = some slot ∧
      splitter.tally.events[cycle.event]? = some counted ∧
      cycle.regions.length = slot.headers.length ∧
      counted.modules.length = slot.headers.length ∧
      delivery = slot.deliver cycle.event cycle.regions counted.modules ∧
      splitter.finish cycle =
        ({ splitter with
            tally := ⟨splitter.tally.events.set cycle.event
              { inputEvents := counted.inputEvents + 1
                outputEvents := counted.outputEvents + delivery.brackets
                modules := delivery.tallies }⟩ },
          { calls := delivery.calls
            notices := delivery.notices
            brackets := delivery.brackets }) := by
  obtain ⟨slot, slot_at, count_eq⟩ := Option.map_eq_some_iff.mp runs
  obtain ⟨counted, counted_at, length_eq⟩ := tally_of_slot consistent slot_at
  refine ⟨slot, counted, _, slot_at, counted_at, count_eq.symm, length_eq, rfl, ?_⟩
  simp only [finish, slot_at, counted_at]

theorem consistent_finish {cycle : Cycle} (runs : splitter.Runs cycle) :
    (splitter.finish cycle).1.Consistent patterns := by
  obtain ⟨slot, counted, delivery, slot_at, counted_at, fitting, length_eq, delivery_eq,
    finish_eq⟩ := finish_of_runs consistent runs
  have kept : delivery.tallies.length = counted.modules.length := by
    rw [delivery_eq]
    exact slot.length_tallies_deliver cycle.event fitting length_eq
  obtain ⟨inside, counted_eq⟩ := List.getElem?_eq_some_iff.mp counted_at
  rw [finish_eq]
  refine ⟨consistent.compiled, consistent.widest, Eq.trans ?_ consistent.layout⟩
  apply List.ext_getElem?
  intro event
  by_cases same : cycle.event = event
  · subst same
    simp [Tally.layout, inside, counted_eq, kept]
  · simp [Tally.layout, same]

theorem patterns_of_slot {event : Nat} {slot : Slot}
    (slot_at : splitter.slots[event]? = some slot) :
    ∃ slotPatterns, patterns[event]? = some slotPatterns ∧
      Slot.compile slotPatterns = .ok slot := by
  have slot_eq := congrArg (fun slots => slots[event]?) consistent.compiled
  simp only [List.getElem?_map, slot_at, Option.map_some] at slot_eq
  exact Option.map_eq_some_iff.mp slot_eq

theorem slot_of_patterns {event : Nat} {slotPatterns : List String}
    (slotPatterns_at : patterns[event]? = some slotPatterns) :
    ∃ slot, splitter.slots[event]? = some slot ∧ Slot.compile slotPatterns = .ok slot := by
  have slot_eq := congrArg (fun slots => slots[event]?) consistent.compiled
  simp only [List.getElem?_map, slotPatterns_at, Option.map_some] at slot_eq
  obtain ⟨slot, slot_at, compiled⟩ := Option.map_eq_some_iff.mp slot_eq.symm
  exact ⟨slot, slot_at, compiled.symm⟩

theorem header_of_pattern {event module : Nat} {slotPatterns : List String}
    {pattern : String} {slot : Slot} (slotPatterns_at : patterns[event]? = some slotPatterns)
    (pattern_at : slotPatterns[module]? = some pattern)
    (slot_at : splitter.slots[event]? = some slot) :
    ∃ header, Header.compile pattern = .ok header ∧
      slot.headers[module]? = some header ∧
      slot.splitting = slot.headers.any Header.marksBoundaries := by
  have slot_eq := congrArg (fun slots => slots[event]?) consistent.compiled
  simp only [List.getElem?_map, slotPatterns_at, slot_at, Option.map_some,
    Option.some.injEq] at slot_eq
  obtain ⟨headers_eq, splitting_eq⟩ := Slot.headers_of_compile slot_eq
  have header_eq := congrArg (fun headers => headers[module]?) headers_eq
  simp only [List.getElem?_map, pattern_at, Option.map_some] at header_eq
  obtain ⟨header, header_at, compiled⟩ := Option.map_eq_some_iff.mp header_eq.symm
  exact ⟨header, compiled.symm, header_at, splitting_eq⟩

end Steps

end Splitter

namespace Session

/-- The splitter of a session is consistent, and an open cycle runs on it. -/
structure Consistent (patterns : List (List String)) (session : Session) : Prop where
  splitter : session.splitter.Consistent patterns
  runs : ∀ cycle, session.cycle = some cycle → session.splitter.Runs cycle

theorem Consistent.withoutCycle {patterns : List (List String)} {splitter : Splitter}
    (consistent : splitter.Consistent patterns) :
    Session.Consistent patterns { splitter, cycle := none } := by
  refine ⟨consistent, ?_⟩
  intro cycle opened
  cases opened

theorem consistent_step {patterns : List (List String)} {session : Session}
    (consistent : session.Consistent patterns) (action : Action) :
    (session.step action).1.Consistent patterns := by
  cases action with
  | start event =>
      cases count_eq : session.splitter.moduleCount? event with
      | none =>
          simp only [step, Splitter.start, count_eq]
          exact .withoutCycle consistent.splitter
      | some count =>
          simp only [step, Splitter.start, count_eq]
          refine ⟨consistent.splitter, ?_⟩
          intro cycle opened
          cases opened
          simp [Splitter.Runs, count_eq]
  | record region module words =>
      cases cycle_eq : session.cycle with
      | none => simpa only [step, cycle_eq] using consistent
      | some cycle =>
          cases regions_eq : cycle.regions[module]? with
          | none => simpa only [step, cycle_eq, Cycle.record, regions_eq] using consistent
          | some regions =>
              simp only [step, cycle_eq, Cycle.record, regions_eq]
              refine ⟨consistent.splitter, ?_⟩
              intro recorded opened
              cases opened
              simpa [Splitter.Runs] using consistent.runs cycle cycle_eq
  | recorded module =>
      cases cycle_eq : session.cycle with
      | none => simpa only [step, cycle_eq] using consistent
      | some cycle => simpa only [step, cycle_eq] using consistent
  | reset =>
      cases cycle_eq : session.cycle with
      | none => simpa only [step, cycle_eq] using consistent
      | some cycle =>
          simp only [step, cycle_eq]
          refine ⟨consistent.splitter, ?_⟩
          intro emptied opened
          cases opened
          simpa [Splitter.Runs, Cycle.reset] using consistent.runs cycle cycle_eq
  | finish =>
      cases cycle_eq : session.cycle with
      | none => simpa only [step, cycle_eq] using consistent
      | some cycle =>
          simp only [step, cycle_eq]
          exact .withoutCycle
            (Splitter.consistent_finish consistent.splitter (consistent.runs cycle cycle_eq))
  | abandon => exact .withoutCycle consistent.splitter
  | clearTally => exact .withoutCycle (Splitter.consistent_clearTally consistent.splitter)

theorem consistent_run {patterns : List (List String)} {session : Session}
    (consistent : session.Consistent patterns) (actions : List Action) :
    (session.run actions).1.Consistent patterns := by
  induction actions generalizing session with
  | nil => exact consistent
  | cons action actions induction =>
      exact induction (consistent_step consistent action)

theorem step_finish_of_opened {session : Session} {cycle : Cycle}
    (opened : session.cycle = some cycle) :
    session.step .finish =
      (⟨(session.splitter.finish cycle).1, none⟩,
        .finished (session.splitter.finish cycle).2) := by
  simp only [step, opened]

end Session

end Readout
