import Mathlib.Data.List.Forall2
import Readout.Proofs.Construction
import Readout.Proofs.Roles
import Readout.Proofs.Storage

/-!
# The letters of a pattern do not show

Splitting works with the masks of the header filters and never with their letters.  So a
session without letters does what the session does, and two splitters whose patterns give
every bit the same role cannot be told apart by any run.
-/

namespace Readout

namespace Header

@[simp]
theorem marksBoundaries_bare (header : Header) :
    header.bare.marksBoundaries = header.marksBoundaries := rfl

@[simp]
theorem front_bare (header : Header) (words : List Word) :
    header.bare.front words = header.front words := by
  cases words <;> rfl

@[simp]
theorem starts_bare (header : Header) (words : List Word) :
    header.bare.starts words = header.starts words := by
  cases words <;> rfl

end Header

namespace Lane

def bare (lane : Lane) : Lane :=
  { lane with header := lane.header.bare }

@[simp]
theorem starts_bare (lane : Lane) : lane.bare.starts = lane.starts :=
  lane.header.starts_bare lane.regions.dynamic

@[simp]
theorem calls_bare (event : Nat) (lane : Lane) : lane.bare.calls event = lane.calls event := by
  simp only [calls, bare, Header.front_bare]

@[simp]
theorem notices_bare (event : Nat) (lane : Lane) :
    lane.bare.notices event = lane.notices event := by
  simp only [notices, bare, Header.front_bare, remaining]

theorem advance_bare (lane : Lane) : lane.bare.advance = lane.advance.bare := by
  simp only [advance, bare, Header.front_bare]
  split <;> rfl

end Lane

namespace Lanes

theorem advance_bare (lanes : List Lane) :
    advance (lanes.map Lane.bare) = (advance lanes).map Lane.bare := by
  simp [advance, Function.comp_def, Lane.advance_bare]

theorem split_bare (event : Nat) (lanes : List Lane) :
    split event (lanes.map Lane.bare) = split event lanes := by
  fun_induction split event lanes with
  | case1 lanes starting later induction =>
      have startingToo : (lanes.map Lane.bare).any Lane.starts = true := by
        simpa [Function.comp_def] using starting
      rw [split, dif_pos startingToo, advance_bare, induction]
      simp [bracket, List.flatMap_map, later]
  | case2 lanes ended =>
      have endedToo : ¬ (lanes.map Lane.bare).any Lane.starts = true := by
        simpa [Function.comp_def] using ended
      rw [split, dif_neg endedToo, List.flatMap_map, List.map_map]
      rfl

theorem ofModules_bare (index : Nat) (headers : List Header) (regions : List Regions)
    (tallies : List ModuleTally) :
    ofModules index (headers.map Header.bare) regions tallies =
      (ofModules index headers regions tallies).map Lane.bare := by
  induction headers generalizing index regions tallies with
  | nil => rfl
  | cons header headers induction =>
      match regions, tallies with
      | recorded :: regions, tally :: tallies =>
          exact congrArg (_ :: ·) (induction (index + 1) regions tallies)
      | [], _ => rfl
      | _ :: _, [] => rfl

end Lanes

namespace Slot

def bare (slot : Slot) : Slot :=
  { slot with headers := slot.headers.map Header.bare }

@[simp]
theorem moduleCount_bare (slot : Slot) : slot.bare.moduleCount = slot.moduleCount :=
  List.length_map _

theorem deliver_bare (slot : Slot) (event : Nat) (regions : List Regions)
    (tallies : List ModuleTally) :
    slot.bare.deliver event regions tallies = slot.deliver event regions tallies := by
  simp only [deliver, bare, Lanes.ofModules_bare, Lanes.split_bare]

end Slot

namespace Splitter

def bare (splitter : Splitter) : Splitter :=
  { splitter with slots := splitter.slots.map Slot.bare }

theorem start_bare (splitter : Splitter) (event : Nat) :
    splitter.bare.start event = splitter.start event := by
  simp [start, bare, moduleCount?, Function.comp_def]

theorem finish_bare (splitter : Splitter) (cycle : Cycle) :
    splitter.bare.finish cycle =
      ((splitter.finish cycle).1.bare, (splitter.finish cycle).2) := by
  cases slot_at : splitter.slots[cycle.event]? with
  | none => simp [finish, bare, slot_at]
  | some slot =>
      cases counted_at : splitter.tally.events[cycle.event]? with
      | none => simp [finish, bare, slot_at, counted_at]
      | some counted => simp [finish, bare, slot_at, counted_at, Slot.deliver_bare]

end Splitter

namespace Session

/-- The session with all letters taken from its filters. -/
def bare (session : Session) : Session :=
  { session with splitter := session.splitter.bare }

theorem step_bare (session : Session) (action : Action) :
    session.bare.step action = ((session.step action).1.bare, (session.step action).2) := by
  obtain ⟨splitter, cycle⟩ := session
  cases action with
  | start event =>
      simp only [step, bare, Splitter.start_bare]
      cases splitter.start event <;> rfl
  | record region module words =>
      cases cycle with
      | none => rfl
      | some cycle =>
          simp only [step, bare]
          cases cycle.record region module words <;> rfl
  | recorded module => cases cycle <;> rfl
  | reset => cases cycle <;> rfl
  | finish =>
      cases cycle with
      | none => rfl
      | some cycle => simp only [step, bare, Splitter.finish_bare]
  | abandon => rfl
  | clearTally => rfl

theorem run_bare (session : Session) (actions : List Action) :
    session.bare.run actions = ((session.run actions).1.bare, (session.run actions).2) := by
  induction actions generalizing session with
  | nil => rfl
  | cons action actions induction =>
      simp only [run, step_bare, induction]

/-- Sessions that differ in letters at most reply alike and go on differing in letters
at most. -/
theorem run_of_bare_eq {session other : Session} (alike : session.bare = other.bare)
    (actions : List Action) :
    (session.run actions).2 = (other.run actions).2 ∧
      (session.run actions).1.bare = (other.run actions).1.bare := by
  have runs := congrArg (fun session => session.run actions) alike
  simp only [run_bare, Prod.mk.injEq] at runs
  exact ⟨runs.2, runs.1⟩

end Session

/-- What holds of all first members of related pairs holds of all members of the first
list. -/
private theorem forall_mem_of_forall₂ {α β : Type} (holds : α → Prop)
    {related : α → β → Prop} (first : ∀ item other, related item other → holds item)
    {items : List α} {others : List β} (paired : List.Forall₂ related items others) :
    ∀ item ∈ items, holds item := by
  induction paired with
  | nil => simp
  | cons here _ induction =>
      exact List.forall_mem_cons.mpr ⟨first _ _ here, induction⟩

private theorem map_eq_of_forall₂ {α β : Type} (image : α → β) {related : α → α → Prop}
    (same : ∀ item other, related item other → image item = image other)
    {items others : List α} (paired : List.Forall₂ related items others) :
    items.map image = others.map image := by
  induction paired with
  | nil => rfl
  | cons here _ induction => rw [List.map_cons, List.map_cons, same _ _ here, induction]

namespace Slot

theorem bare_ofPatterns {patterns others : List String}
    (paired : List.Forall₂ Filter.Interchangeable patterns others) :
    (ofPatterns patterns).bare = (ofPatterns others).bare := by
  have headers : (patterns.map Header.ofPattern).map Header.bare =
      (others.map Header.ofPattern).map Header.bare := by
    rw [List.map_map, List.map_map]
    exact map_eq_of_forall₂ (Header.bare ∘ Header.ofPattern)
      (fun _ _ => Header.bare_ofPattern) paired
  have splitting : (patterns.map Header.ofPattern).any Header.marksBoundaries =
      (others.map Header.ofPattern).any Header.marksBoundaries := by
    have marked := congrArg (List.any · Header.marksBoundaries) headers
    simpa only [List.any_map, Function.comp_def, Header.marksBoundaries_bare] using marked
  simp only [bare, ofPatterns, ofHeaders, headers, splitting]

end Slot

namespace Splitter

theorem bare_ofSlots (slots : List Slot) :
    (ofSlots slots).bare = ofSlots (slots.map Slot.bare) := by
  simp [ofSlots, bare, widestOf, Function.comp_def]

theorem bare_ofPatterns {patterns others : List (List String)}
    (paired : List.Forall₂ (List.Forall₂ Filter.Interchangeable) patterns others) :
    (ofPatterns patterns).bare = (ofPatterns others).bare := by
  rw [ofPatterns, ofPatterns, bare_ofSlots, bare_ofSlots, List.map_map, List.map_map]
  exact congrArg ofSlots
    (map_eq_of_forall₂ (Slot.bare ∘ Slot.ofPatterns) (fun _ _ => Slot.bare_ofPatterns) paired)

theorem build_of_interchangeable {patterns others : List (List String)}
    (paired : List.Forall₂ (List.Forall₂ Filter.Interchangeable) patterns others) :
    (build patterns).2 = .ok (ofPatterns patterns) ∧
      (build others).2 = .ok (ofPatterns others) := by
  constructor
  · apply build_of_short
    refine forall_mem_of_forall₂
      (fun slotPatterns => ∀ pattern ∈ slotPatterns, Filter.IsShort pattern) ?_ paired
    intro slotPatterns _ slotPaired
    exact forall_mem_of_forall₂ Filter.IsShort (fun _ _ => Filter.Interchangeable.isShort)
      slotPaired
  · apply build_of_short
    refine forall_mem_of_forall₂
      (fun slotPatterns => ∀ pattern ∈ slotPatterns, Filter.IsShort pattern) ?_ paired.flip
    intro slotPatterns _ slotPaired
    exact forall_mem_of_forall₂ Filter.IsShort
      (fun _ _ => Filter.Interchangeable.isShort_other) slotPaired.flip

end Splitter

namespace Engine

/-- Engines that agree in all that can be seen of them but the descriptions of filters. -/
structure Agree (engine other : Engine) : Prop where
  moduleCount : ∀ event,
    engine.splitter.moduleCount? event = other.splitter.moduleCount? event
  splitting : ∀ event, engine.splitter.splitting? event = other.splitter.splitting? event
  eventCount : engine.splitter.eventCount = other.splitter.eventCount
  widest : engine.splitter.widest = other.splitter.widest
  tally : engine.tally = other.tally
  cycle : engine.cycle = other.cycle

theorem agree_of_bare_eq {engine other : Engine}
    (alike : engine.session.bare = other.session.bare) : engine.Agree other := by
  have slots : engine.slots.map Slot.bare = other.slots.map Slot.bare :=
    congrArg (fun session => session.splitter.slots) alike
  have slot_at (event : Nat) :
      engine.slots[event]?.map Slot.bare = other.slots[event]?.map Slot.bare := by
    rw [← List.getElem?_map, ← List.getElem?_map, slots]
  refine
    { moduleCount := ?_
      splitting := ?_
      eventCount := by simpa [splitter, Splitter.eventCount] using congrArg List.length slots
      widest := congrArg (fun session => session.splitter.widest) alike
      tally := congrArg (fun session => session.splitter.tally) alike
      cycle := congrArg Session.cycle alike }
  · intro event
    have counts := congrArg (Option.map Slot.moduleCount) (slot_at event)
    simpa [splitter, Splitter.moduleCount?, Function.comp_def] using counts
  · intro event
    have flags := congrArg (Option.map Slot.splitting) (slot_at event)
    simpa [splitter, Splitter.splitting?, Slot.bare, Function.comp_def] using flags

/-- Whatever the actions, engines that are built from interchangeable patterns give the
same replies and agree at the end. -/
theorem run_of_interchangeable {patterns others : List (List String)}
    (paired : List.Forall₂ (List.Forall₂ Filter.Interchangeable) patterns others)
    (actions : List Action) :
    ∃ engine other last otherLast replies,
      (build patterns).2 = .ok engine ∧
      (build others).2 = .ok other ∧
      engine.run actions = .ok (last, replies) ∧
      other.run actions = .ok (otherLast, replies) ∧
      last.Agree otherLast := by
  obtain ⟨built, otherBuilt⟩ := Splitter.build_of_interchangeable paired
  have engineBuilt : (build patterns).2 = .ok (ofSplitter (.ofPatterns patterns)) := by
    rw [(build_eq patterns).2, built]
    rfl
  have otherEngineBuilt : (build others).2 = .ok (ofSplitter (.ofPatterns others)) := by
    rw [(build_eq others).2, otherBuilt]
    rfl
  have alike : (ofSplitter (.ofPatterns patterns)).session.bare =
      (ofSplitter (.ofPatterns others)).session.bare := by
    rw [session_ofSplitter, session_ofSplitter]
    exact congrArg Session.ofSplitter (Splitter.bare_ofPatterns paired)
  obtain ⟨replies_eq, last_alike⟩ := Session.run_of_bare_eq alike actions
  obtain ⟨last, run_eq, last_eq⟩ :=
    run_eq_session (consistent_of_build engineBuilt) actions
  obtain ⟨otherLast, otherRun_eq, otherLast_eq⟩ :=
    run_eq_session (consistent_of_build otherEngineBuilt) actions
  rw [← replies_eq] at otherRun_eq
  rw [← last_eq, ← otherLast_eq] at last_alike
  exact ⟨_, _, last, otherLast, _, engineBuilt, otherEngineBuilt, run_eq, otherRun_eq,
    agree_of_bare_eq last_alike⟩

/-- A header gets free bits in front, blanks and size markers of other kinds, a free bit
gets another name, and a slot of its own is widened. -/
theorem run_of_interchangeable_restyled :
    ∃ engine other last otherLast replies,
      (build [["1SSS", "XX"], ["01"]]).2 = .ok engine ∧
      (build [["zz 1sS\u017F", " Y"], ["y01"]]).2 = .ok other ∧
      engine.run [.start 0, .record .dynamic 0 [9, 1, 15, 2], .record .dynamic 1 [3],
          .finish, .start 1, .record .dynamic 0 [1, 5], .finish] =
        .ok (last, replies) ∧
      other.run [.start 0, .record .dynamic 0 [9, 1, 15, 2], .record .dynamic 1 [3],
          .finish, .start 1, .record .dynamic 0 [1, 5], .finish] =
        .ok (otherLast, replies) ∧
      last.Agree otherLast := by
  have header : Filter.Interchangeable "1SSS" "zz 1sS\u017F" :=
    ⟨⟨_, rfl⟩, ⟨_, rfl⟩, .inl (by decide)⟩
  have region : Filter.Interchangeable "XX" " Y" :=
    ⟨⟨_, rfl⟩, ⟨_, rfl⟩, .inl (by decide)⟩
  have widened : Filter.Interchangeable "01" "y01" :=
    ⟨⟨_, rfl⟩, ⟨_, rfl⟩, .inr (.rel _ _ (.widen _ ⟨by decide, by decide⟩))⟩
  exact run_of_interchangeable
    (.cons (.cons header (.cons region .nil)) (.cons (.cons widened .nil) .nil)) _

end Engine

end Readout
