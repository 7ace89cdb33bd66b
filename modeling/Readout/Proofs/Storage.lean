import Readout.Engine
import Readout.Proofs.Sessions

/-!
# Reused storage does not show

As long as its lists fit its slots, an engine has no fault and answers every action
as its session does, whatever earlier cycles left in its storage.
-/

namespace Readout

namespace Header

/-- What words that start a sub-event begin with, said by its length alone. -/
theorem front_of_starts {header : Header} {words : List Word}
    (starting : header.starts words = true) :
    header.front words =
      if header.frontLength words ≤ words.length then
        .subEvent (words.take (header.frontLength words))
          (words.drop (header.frontLength words))
      else .truncated (header.frontLength words) := by
  cases words with
  | nil => cases starting
  | cons word words =>
      have accepted : header.accepts word = true := starting
      rw [front, if_pos accepted]
      rfl

end Header

namespace Lane

theorem advance_of_not_starts {lane : Lane} (ended : lane.starts = false) :
    lane.advance = lane := by
  rw [advance, (Header.starts_eq_false_iff _ _).mp ended]

theorem calls_of_not_starts {lane : Lane} (ended : lane.starts = false) (event : Nat) :
    lane.calls event = [] := by
  rw [calls, (Header.starts_eq_false_iff _ _).mp ended]

theorem notices_of_not_starts {lane : Lane} (ended : lane.starts = false) (event : Nat) :
    lane.notices event = [] := by
  rw [notices, (Header.starts_eq_false_iff _ _).mp ended]

@[simp]
theorem header_advance (lane : Lane) : lane.advance.header = lane.header := by
  unfold advance
  split <;> rfl

end Lane

namespace Lanes

theorem length_ofModules (index : Nat) {headers : List Header} {regions : List Regions}
    {tallies : List ModuleTally} (fitting : regions.length = headers.length)
    (counted : tallies.length = headers.length) :
    (ofModules index headers regions tallies).length = headers.length := by
  have entries := congrArg List.length (map_entry_ofModules index fitting counted)
  rwa [List.length_map, List.length_zip, fitting, Nat.min_self] at entries

theorem map_ofModules (index : Nat) {headers : List Header} {regions : List Regions}
    {tallies : List ModuleTally} (fitting : regions.length = headers.length)
    (counted : tallies.length = headers.length) :
    (ofModules index headers regions tallies).map Lane.header = headers ∧
      (ofModules index headers regions tallies).map Lane.regions = regions ∧
      (ofModules index headers regions tallies).map Lane.tally = tallies := by
  fun_induction ofModules index headers regions tallies with
  | case1 index header headers recorded regions tally tallies induction =>
      obtain ⟨headers_eq, regions_eq, tallies_eq⟩ :=
        induction (by simpa using fitting) (by simpa using counted)
      exact ⟨congrArg (header :: ·) headers_eq, congrArg (recorded :: ·) regions_eq,
        congrArg (tally :: ·) tallies_eq⟩
  | case2 headers index regions tallies exhausted =>
      cases headers with
      | nil =>
          rw [List.eq_nil_of_length_eq_zero fitting, List.eq_nil_of_length_eq_zero counted]
          exact ⟨rfl, rfl, rfl⟩
      | cons header headers =>
          obtain ⟨recorded, regions, rfl⟩ := List.exists_cons_of_length_eq_add_one fitting
          obtain ⟨tally, tallies, rfl⟩ := List.exists_cons_of_length_eq_add_one counted
          exact (exhausted _ _ _ _ _ _ rfl rfl rfl).elim

@[simp]
theorem map_header_advance (lanes : List Lane) :
    (advance lanes).map Lane.header = lanes.map Lane.header := by
  simp [advance, Function.comp_def]

@[simp]
theorem length_advance (lanes : List Lane) : (advance lanes).length = lanes.length :=
  List.length_map _

end Lanes

def Delivery.report (delivery : Delivery) : Report :=
  { calls := delivery.calls
    notices := delivery.notices
    brackets := delivery.brackets }

def EventTally.after (counted : EventTally) (delivery : Delivery) : EventTally :=
  { inputEvents := counted.inputEvents + 1
    outputEvents := counted.outputEvents + delivery.brackets
    modules := delivery.tallies }

theorem Splitter.finish_eq_after {splitter : Splitter} {cycle : Cycle} {slot : Slot}
    {counted : EventTally} (slot_at : splitter.slots[cycle.event]? = some slot)
    (counted_at : splitter.tally.events[cycle.event]? = some counted) :
    splitter.finish cycle =
      ({ splitter with
          tally := ⟨splitter.tally.events.set cycle.event
            (counted.after (slot.deliver cycle.event cycle.regions counted.modules))⟩ },
        (slot.deliver cycle.event cycle.regions counted.modules).report) := by
  simp only [finish, slot_at, counted_at]
  rfl

namespace Engine

theorem takeFront_of_le {count : Nat} {words : List Word} (enough : count ≤ words.length) :
    takeFront count words = .ok (some (words.take count, words.drop count)) := by
  rw [takeFront, if_neg (Nat.not_lt.mpr enough), splitWords, if_pos enough]
  rfl

theorem takeFront_of_lt {count : Nat} {words : List Word} (short : words.length < count) :
    takeFront count words = .ok none := by
  rw [takeFront, if_pos short]

theorem mark_lanes {flags : List Bool} {lanes : List Lane}
    (fitting : flags.length = lanes.length) :
    mark flags (lanes.map Lane.header) (lanes.map Lane.regions) =
      (lanes.map Lane.starts, lanes.any Lane.starts) := by
  induction lanes generalizing flags with
  | nil =>
      rw [List.eq_nil_of_length_eq_zero fitting]
      rfl
  | cons lane lanes induction =>
      obtain ⟨flag, flags, rfl⟩ := List.exists_cons_of_length_eq_add_one fitting
      rw [List.map_cons, List.map_cons, mark, induction (by simpa using fitting)]
      rfl

theorem turn_lane {lane : Lane} (starting : lane.starts = true) (event : Nat) :
    turn event lane.index lane.header lane.regions lane.tally =
      .ok
        { calls := lane.calls event
          notices := lane.notices event
          recorded := lane.advance.regions
          tally := lane.advance.tally } := by
  have front_eq := Header.front_of_starts
    (show lane.header.starts lane.regions.dynamic = true from starting)
  by_cases enough : lane.header.frontLength lane.regions.dynamic ≤ lane.regions.dynamic.length
  · rw [if_pos enough] at front_eq
    rw [turn, takeFront_of_le enough, Lane.calls, Lane.notices, Lane.advance, front_eq]
    rfl
  · rw [if_neg enough] at front_eq
    rw [turn, takeFront_of_lt (Nat.lt_of_not_le enough), Lane.calls, Lane.notices,
      Lane.advance, front_eq]
    rfl

theorem round_lanes {index : Nat} {lanes : List Lane} (numbered : Lanes.Numbered index lanes)
    (event : Nat) :
    round event index (lanes.map Lane.header) (lanes.map Lane.regions)
        (lanes.map Lane.tally) (lanes.map Lane.starts) =
      .ok
        { calls := lanes.flatMap (Lane.calls event)
          notices := lanes.flatMap (Lane.notices event)
          regions := (Lanes.advance lanes).map Lane.regions
          tallies := (Lanes.advance lanes).map Lane.tally } := by
  induction lanes generalizing index with
  | nil => rfl
  | cons lane lanes induction =>
      obtain ⟨rfl, later⟩ := numbered
      simp only [List.map_cons, round]
      rw [induction later]
      cases starting : lane.starts with
      | true =>
          rw [if_pos rfl, turn_lane starting]
          rfl
      | false =>
          simp only [Lanes.advance, List.map_cons, List.flatMap_cons,
            Lane.advance_of_not_starts starting, Lane.calls_of_not_starts starting,
            Lane.notices_of_not_starts starting]
          rfl

theorem sweep_lanes {index : Nat} {lanes : List Lane} (numbered : Lanes.Numbered index lanes)
    (event : Nat) :
    sweep event index (lanes.map Lane.regions) (lanes.map Lane.tally) =
      (lanes.flatMap (Lane.finalNotices event),
        lanes.map fun lane => lane.drop.tally) := by
  induction lanes generalizing index with
  | nil => rfl
  | cons lane lanes induction =>
      obtain ⟨rfl, later⟩ := numbered
      rw [List.map_cons, List.map_cons, sweep, induction later]
      cases dynamic_eq : lane.regions.dynamic with
      | nil => simp [Lane.finalNotices, Lane.drop, Lane.remaining, dynamic_eq]
      | cons word words => simp [Lane.finalNotices, Lane.drop, Lane.remaining, dynamic_eq]

theorem remaining_lanes (flags : List Bool) (lanes : List Lane) (tallies : List ModuleTally) :
    Stage.remaining { flags, regions := lanes.map Lane.regions, tallies } =
      Lanes.remaining lanes := by
  induction lanes with
  | nil => rfl
  | cons lane lanes induction =>
      simp only [Stage.remaining, List.map_cons, List.foldr_cons] at induction ⊢
      rw [induction]
      rfl

/-- Rounds in storage that fits end, and yield what splitting the lanes yields. -/
theorem rounds_lanes {lanes : List Lane} (numbered : Lanes.Numbered 0 lanes) (event : Nat)
    {flags : List Bool} (fitting : flags.length = lanes.length) :
    ∃ flagsLeft regionsLeft, flagsLeft.length = lanes.length ∧
      rounds event (lanes.map Lane.header)
          { flags, regions := lanes.map Lane.regions, tallies := lanes.map Lane.tally } =
        .ok
          { calls := (Lanes.split event lanes).calls
            notices := (Lanes.split event lanes).notices
            brackets := (Lanes.split event lanes).brackets
            stage :=
              { flags := flagsLeft
                regions := regionsLeft
                tallies := (Lanes.split event lanes).tallies } } := by
  -- Every round writes all flags, so nothing is known about the flags between two rounds
  -- but their number.
  fun_induction Lanes.split event lanes generalizing flags with
  | case1 lanes starting later induction =>
      obtain ⟨flagsLeft, regionsLeft, length_eq, later_eq⟩ :=
        induction (Lanes.numbered_advance numbered)
          (show (lanes.map Lane.starts).length = (Lanes.advance lanes).length by simp)
      rw [Lanes.length_advance] at length_eq
      refine ⟨flagsLeft, regionsLeft, length_eq, ?_⟩
      have shorter := Lanes.remaining_advance_lt lanes starting
      rw [rounds, mark_lanes fitting, starting]
      simp only [if_true, round_lanes numbered, bind, Except.bind, remaining_lanes,
        dif_pos shorter]
      rw [Lanes.map_header_advance] at later_eq
      rw [later_eq]
      simp [pure, Except.pure, Lanes.bracket, later]
  | case2 lanes ended =>
      rw [Bool.not_eq_true] at ended
      refine ⟨lanes.map Lane.starts, lanes.map Lane.regions, by simp, ?_⟩
      rw [rounds, mark_lanes fitting, ended]
      simp only [sweep_lanes numbered]
      rfl

theorem whole_eq (event module : Nat) {regions : List Regions} {tallies : List ModuleTally}
    (fitting : regions.length = tallies.length) :
    whole event module regions tallies =
      (Slot.wholeCalls event module regions,
        List.zipWith Slot.countWhole regions tallies) := by
  induction regions generalizing module tallies with
  | nil =>
      rw [List.eq_nil_of_length_eq_zero fitting.symm]
      rfl
  | cons recorded regions induction =>
      obtain ⟨tally, tallies, rfl⟩ := List.exists_cons_of_length_eq_add_one fitting.symm
      rw [whole, induction (module + 1) (by simpa using fitting)]
      rfl

/-- Storage fits a slot if there are regions and statistics for exactly its modules,
and at least as many flags. -/
structure Stage.Fits (stage : Stage) (slot : Slot) : Prop where
  regions : stage.regions.length = slot.headers.length
  tallies : stage.tallies.length = slot.headers.length
  flags : slot.headers.length ≤ stage.flags.length

/-- In storage that fits, a slot delivers what it delivers in fresh storage, and leaves
as many flags behind. -/
theorem deliver_of_fits {slot : Slot} {stage : Stage} (fits : stage.Fits slot)
    (event : Nat) :
    ∃ flagsLeft regionsLeft, flagsLeft.length = stage.flags.length ∧
      deliver slot event stage =
        .ok
          { calls := (slot.deliver event stage.regions stage.tallies).calls
            notices := (slot.deliver event stage.regions stage.tallies).notices
            brackets := (slot.deliver event stage.regions stage.tallies).brackets
            stage :=
              { flags := flagsLeft
                regions := regionsLeft
                tallies := (slot.deliver event stage.regions stage.tallies).tallies } } := by
  obtain ⟨flags, regions, tallies⟩ := stage
  obtain ⟨fitting, counted, flagged⟩ := fits
  simp only at fitting counted flagged ⊢
  cases splitting : slot.splitting with
  | true =>
      obtain ⟨headers_eq, regions_eq, tallies_eq⟩ := Lanes.map_ofModules 0 fitting counted
      have length_eq := Lanes.length_ofModules 0 fitting counted
      have enough : regions.length ≤ flags.length := fitting ▸ flagged
      obtain ⟨flagsLeft, regionsLeft, kept, rounds_eq⟩ :=
        rounds_lanes (Lanes.numbered_ofModules 0 slot.headers regions tallies) event
          (show (flags.take regions.length).length = _ by simp [length_eq, fitting, flagged])
      rw [headers_eq, regions_eq, tallies_eq] at rounds_eq
      refine ⟨flagsLeft ++ flags.drop regions.length, regionsLeft, ?_, ?_⟩
      · rw [List.length_append, List.length_drop, kept, length_eq, ← fitting]
        exact Nat.add_sub_cancel' enough
      · simp only [deliver, splitting, if_true, split, if_pos enough, rounds_eq, Slot.deliver]
        rfl
  | false =>
      refine ⟨flags, regions, rfl, ?_⟩
      simp only [deliver, Slot.deliver, splitting, passThrough, Slot.passThrough,
        whole_eq event 0 (fitting.trans counted.symm)]
      rfl

theorem resize_recycle (count : Nat) (regions : List Regions) :
    resize count (recycle regions) = List.replicate count Regions.empty := by
  simp [resize, recycle]

theorem release_eq (engine : Engine) :
    engine.release = { engine with pool := engine.release.pool, cycle := none } := by
  cases opened : engine.cycle with
  | none =>
      rw [release, opened]
      simp [← opened]
  | some cycle => simp only [release, opened]

theorem session_start (engine : Engine) (event : Nat) :
    ((engine.release.start event).1.session, (engine.release.start event).2) =
      engine.session.step (.start event) := by
  rw [release_eq]
  cases slot_eq : engine.slots[event]? with
  | none =>
      simp [start, Session.step, Splitter.start, Splitter.moduleCount?, session, splitter,
        slot_eq, Session.abandon]
  | some slot =>
      simp [start, Session.step, Splitter.start, Splitter.moduleCount?, session, splitter,
        slot_eq, resize_recycle]

section Steps

variable {patterns : List (List String)} {engine : Engine}
  (consistent : engine.session.Consistent patterns)
include consistent

theorem moduleCount_le_flags {event : Nat} {slot : Slot}
    (slot_at : engine.slots[event]? = some slot) :
    slot.headers.length ≤ engine.flags.length := by
  have widest : engine.flags.length = Splitter.widestOf engine.slots :=
    consistent.splitter.widest
  have bound := (foldl_max_le_iff (engine.slots.map Slot.moduleCount) 0 _).mp (Nat.le_refl _)
  rw [widest]
  exact bound.2 _ (List.mem_map_of_mem (List.mem_of_getElem? slot_at))

theorem fits_of_opened {cycle : Cycle} (opened : engine.cycle = some cycle) :
    ∃ slot counted,
      engine.slots[cycle.event]? = some slot ∧
      engine.tally.events[cycle.event]? = some counted ∧
      Stage.Fits
        { flags := engine.flags, regions := cycle.regions, tallies := counted.modules } slot := by
  obtain ⟨slot, counted, delivery, slot_at, counted_at, fitting, length_eq, -, -⟩ :=
    Splitter.finish_of_runs consistent.splitter (consistent.runs cycle opened)
  exact ⟨slot, counted, slot_at, counted_at, fitting, length_eq,
    moduleCount_le_flags consistent slot_at⟩

/-- The end of an open cycle gives the report of what its slot delivers, and counts it. -/
theorem step_finish_of_opened {cycle : Cycle} (opened : engine.cycle = some cycle) :
    ∃ slot counted ended delivery,
      engine.slots[cycle.event]? = some slot ∧
      engine.tally.events[cycle.event]? = some counted ∧
      Stage.Fits
        { flags := engine.flags, regions := cycle.regions, tallies := counted.modules } slot ∧
      delivery = slot.deliver cycle.event cycle.regions counted.modules ∧
      engine.step .finish = .ok (ended, .finished delivery.report) ∧
      ended.session =
        { splitter :=
            { engine.splitter with
              tally := ⟨engine.tally.events.set cycle.event (counted.after delivery)⟩ }
          cycle := none } := by
  obtain ⟨slot, counted, slot_at, counted_at, fits⟩ := fits_of_opened consistent opened
  obtain ⟨flagsLeft, regionsLeft, kept, deliver_eq⟩ := deliver_of_fits fits cycle.event
  refine ⟨slot, counted, ?_, _, slot_at, counted_at, fits, rfl, ?_, ?_⟩
  · exact
      { engine with
        flags := flagsLeft
        pool := recycle regionsLeft
        tally := ⟨engine.tally.events.set cycle.event
          (counted.after (slot.deliver cycle.event cycle.regions counted.modules))⟩
        cycle := none }
  · simp only [step, opened, finish, slot_at, counted_at, deliver_eq]
    rfl
  · simp [session, splitter, kept]

/-- The end of an open cycle replaces the statistics of its slot. -/
theorem exists_after_of_opened {cycle : Cycle} (opened : engine.cycle = some cycle) :
    ∃ slot counted ended delivery,
      engine.slots[cycle.event]? = some slot ∧
      engine.tally.events[cycle.event]? = some counted ∧
      Stage.Fits
        { flags := engine.flags, regions := cycle.regions, tallies := counted.modules } slot ∧
      delivery = slot.deliver cycle.event cycle.regions counted.modules ∧
      engine.step .finish = .ok (ended, .finished delivery.report) ∧
      ended.tally.events[cycle.event]? = some (counted.after delivery) := by
  obtain ⟨slot, counted, ended, delivery, slot_at, counted_at, fits, delivery_eq, step_eq,
    ended_eq⟩ := step_finish_of_opened consistent opened
  refine ⟨slot, counted, ended, delivery, slot_at, counted_at, fits, delivery_eq, step_eq, ?_⟩
  have tally_eq : ended.tally =
      ⟨engine.tally.events.set cycle.event (counted.after delivery)⟩ :=
    congrArg (fun session => session.splitter.tally) ended_eq
  rw [tally_eq, List.getElem?_set_self (List.getElem?_eq_some_iff.mp counted_at).1]

/-- An engine does what its session does. -/
theorem step_eq_session (action : Action) :
    ∃ next, engine.step action = .ok (next, (engine.session.step action).2) ∧
      next.session = (engine.session.step action).1 := by
  have cycle_eq : engine.session.cycle = engine.cycle := rfl
  cases action with
  | start event =>
      have started := session_start engine event
      refine ⟨(engine.release.start event).1, ?_, congrArg Prod.fst started⟩
      rw [← started]
      rfl
  | record region module words =>
      cases opened : engine.cycle with
      | none => simp [step, Session.step, cycle_eq, opened]
      | some cycle =>
          cases recorded : cycle.record region module words with
          | error error => simp [step, Session.step, cycle_eq, opened, recorded]
          | ok later =>
              simp only [step, Session.step, cycle_eq, opened, recorded]
              exact ⟨_, rfl, rfl⟩
  | recorded module =>
      cases opened : engine.cycle with
      | none => simp [step, Session.step, cycle_eq, opened]
      | some cycle => simp [step, Session.step, cycle_eq, opened]
  | reset =>
      cases opened : engine.cycle with
      | none => simp [step, Session.step, cycle_eq, opened]
      | some cycle =>
          simp only [step, Session.step, cycle_eq, opened]
          exact ⟨_, rfl, rfl⟩
  | finish =>
      cases opened : engine.cycle with
      | none => simp [step, Session.step, cycle_eq, opened]
      | some cycle =>
          obtain ⟨slot, counted, ended, delivery, slot_at, counted_at, -, rfl, step_eq,
            session_eq⟩ := step_finish_of_opened consistent opened
          have splitter_finish := Splitter.finish_eq_after
            (show engine.session.splitter.slots[cycle.event]? = some slot from slot_at)
            counted_at
          rw [Session.step_finish_of_opened (cycle_eq.trans opened), splitter_finish]
          exact ⟨ended, step_eq, session_eq⟩
  | abandon =>
      refine ⟨engine.release, rfl, ?_⟩
      rw [release_eq]
      rfl
  | clearTally =>
      refine ⟨{ engine.release with tally := engine.tally.clear }, rfl, ?_⟩
      rw [release_eq]
      rfl

end Steps

/-- Runs of an engine have no fault, and do what the runs of its session do. -/
theorem run_eq_session {patterns : List (List String)} {engine : Engine}
    (consistent : engine.session.Consistent patterns) (actions : List Action) :
    ∃ last, engine.run actions = .ok (last, (engine.session.run actions).2) ∧
      last.session = (engine.session.run actions).1 := by
  induction actions generalizing engine with
  | nil => exact ⟨engine, rfl, rfl⟩
  | cons action actions induction =>
      obtain ⟨next, step_eq, next_eq⟩ := step_eq_session consistent action
      have kept : next.session.Consistent patterns :=
        next_eq ▸ Session.consistent_step consistent action
      obtain ⟨last, run_eq, last_eq⟩ := induction kept
      rw [next_eq] at run_eq last_eq
      refine ⟨last, ?_, last_eq⟩
      rw [run, step_eq]
      simp only [bind, Except.bind, run_eq]
      rfl

theorem build_eq (patterns : List (List String)) :
    (build patterns).1 = (Splitter.build patterns).1 ∧
      (build patterns).2 = (Splitter.build patterns).2.map ofSplitter :=
  ⟨rfl, rfl⟩

@[simp]
theorem session_ofSplitter (splitter : Splitter) :
    (ofSplitter splitter).session = Session.ofSplitter splitter := by
  simp [ofSplitter, session, Engine.splitter, Session.ofSplitter]

def Reachable (patterns : List (List String)) (engine : Engine) : Prop :=
  ∃ built actions replies, (build patterns).2 = .ok built ∧
    built.run actions = .ok (engine, replies)

theorem splitter_of_build {patterns : List (List String)} {built : Engine}
    (compiled : (build patterns).2 = .ok built) :
    ∃ splitter, (Splitter.build patterns).2 = .ok splitter ∧ built = ofSplitter splitter := by
  rw [(build_eq patterns).2] at compiled
  cases built_eq : (Splitter.build patterns).2 with
  | error error =>
      rw [built_eq] at compiled
      cases compiled
  | ok splitter =>
      rw [built_eq] at compiled
      cases compiled
      exact ⟨splitter, rfl, rfl⟩

theorem consistent_of_build {patterns : List (List String)} {built : Engine}
    (compiled : (build patterns).2 = .ok built) : built.session.Consistent patterns := by
  obtain ⟨splitter, built_eq, rfl⟩ := splitter_of_build compiled
  rw [session_ofSplitter]
  exact .withoutCycle (Splitter.consistent_of_build built_eq)

theorem Reachable.consistent {patterns : List (List String)} {engine : Engine}
    (reachable : Reachable patterns engine) : engine.session.Consistent patterns := by
  obtain ⟨built, actions, replies, compiled, run_eq⟩ := reachable
  obtain ⟨last, last_run, last_eq⟩ := run_eq_session (consistent_of_build compiled) actions
  rw [run_eq] at last_run
  cases last_run
  rw [last_eq]
  exact Session.consistent_run (consistent_of_build compiled) actions

/-- Ending the open cycle gives a report, and takes the statistics of a module from
`before` to `after`. -/
structure Ends (engine ended : Engine) (event module : Nat) (report : Report)
    (before after : ModuleTally) : Prop where
  finished : engine.step .finish = .ok (ended, .finished report)
  before_at : engine.tally.module? event module = some before
  after_at : ended.tally.module? event module = some after

/-- The end of a cycle gives every module of the slot what that module delivers and
counts. -/
theorem exists_ends {patterns : List (List String)} {engine : Engine} {cycle : Cycle}
    (consistent : engine.session.Consistent patterns) (opened : engine.cycle = some cycle)
    {module : Nat} {recorded : Regions}
    (recorded_at : cycle.recorded? module = some recorded) :
    ∃ slot header ended report before,
      engine.slots[cycle.event]? = some slot ∧
      slot.headers[module]? = some header ∧
      engine.Ends ended cycle.event module report before
        (slot.moduleTally header recorded before) ∧
      Call.dynamicWords cycle.event module report.calls =
        slot.moduleWords header recorded := by
  obtain ⟨slot, counted, ended, delivery, slot_at, counted_at, fits, delivery_eq, step_eq,
    events_at⟩ := exists_after_of_opened consistent opened
  have fitting : cycle.regions.length = slot.headers.length := fits.regions
  have length_eq : counted.modules.length = slot.headers.length := fits.tallies
  have inside : module < slot.headers.length := by
    rw [← fitting]
    exact (List.getElem?_eq_some_iff.mp recorded_at).1
  obtain ⟨header, header_at⟩ : ∃ header, slot.headers[module]? = some header :=
    ⟨_, List.getElem?_eq_getElem inside⟩
  obtain ⟨before, before_at⟩ : ∃ before, counted.modules[module]? = some before :=
    ⟨_, List.getElem?_eq_getElem (length_eq ▸ inside)⟩
  obtain ⟨words, after_at⟩ := Slot.deliver_module cycle.event fitting length_eq
    header_at recorded_at before_at
  rw [← delivery_eq] at words after_at
  refine ⟨slot, header, ended, delivery.report, before, slot_at, header_at,
    ⟨step_eq, ?_, ?_⟩, words⟩
  · simp [Tally.module?, counted_at, before_at]
  · simp [Tally.module?, events_at, EventTally.after, after_at]

end Engine

end Readout
