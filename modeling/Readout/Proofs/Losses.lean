import Readout.Proofs.Progress

/-!
# Losses are logged

Words are dropped in two places: in the round in which a sub-event turns out to be
truncated, and behind the last round.  Truncation leaves nothing that could be dropped once
more, so every module logs what it loses in one log event, and logs no other.
-/

namespace Readout

namespace Notice

def isTruncated : Notice → Bool
  | truncated .. => true
  | _ => false

def isUnmatched : Notice → Bool
  | unmatched .. => true
  | _ => false

def module? : Notice → Option Nat
  | truncated _ module _ _ => some module
  | unmatched _ module _ => some module
  | _ => none

def ofModule (module : Nat) (notices : List Notice) : List Notice :=
  notices.filter fun notice => notice.module? = some module

@[simp]
theorem ofModule_append (module : Nat) (front back : List Notice) :
    ofModule module (front ++ back) = ofModule module front ++ ofModule module back :=
  List.filter_append ..

/-- Log events of one kind, at most one for each of so many modules, in the order of the
modules. -/
structure InOrder (kind : Notice → Bool) (count : Nat) (notices : List Notice) : Prop where
  kinds : ∀ notice ∈ notices, kind notice = true
  inside : ∀ notice ∈ notices, ∃ module, notice.module? = some module ∧ module < count
  rising : (notices.filterMap module?).Pairwise (· < ·)

end Notice

/-- What is logged for a module whose statistics change from the first to the second ones. -/
inductive ModuleTally.Logs (event module : Nat) (before after : ModuleTally) :
    List Notice → Prop where
  | nothing :
      after.unconsumedWords = before.unconsumedWords →
      after.truncated = before.truncated →
      Logs event module before after []
  | truncated {length remaining : Nat} :
      1 ≤ remaining →
      remaining < length →
      after.unconsumedWords = before.unconsumedWords + remaining →
      after.truncated = before.truncated + 1 →
      Logs event module before after [.truncated event module length remaining]
  | unmatched {remaining : Nat} :
      1 ≤ remaining →
      after.unconsumedWords = before.unconsumedWords + remaining →
      after.truncated = before.truncated →
      Logs event module before after [.unmatched event module remaining]

namespace Lane

/-- What is logged for a module from here until its slot is split. -/
def losses (event : Nat) (lane : Lane) : List Notice :=
  let left := lane.header.remainder lane.regions.dynamic
  match lane.header.front left with
  | .truncated length => [.truncated event lane.index length left.length]
  | _ => if left.isEmpty then [] else [.unmatched event lane.index left.length]

/-- What a round does not log of the losses is logged later. -/
theorem notices_append_losses (event : Nat) (lane : Lane) :
    lane.notices event ++ lane.advance.losses event = lane.losses event := by
  cases front_eq : lane.header.front lane.regions.dynamic with
  | unmatched => simp [notices, advance, front_eq]
  | truncated length =>
      have nothing : lane.header.front [] = .unmatched := rfl
      simp [notices, advance, losses, drop, remaining, front_eq, nothing,
        Header.remainder_of_truncated front_eq]
  | subEvent taken rest =>
      simp [notices, advance, losses, front_eq, Header.remainder_of_subEvent front_eq]

theorem finalNotices_of_not_starts {lane : Lane} (ended : lane.starts = false) (event : Nat) :
    lane.finalNotices event = lane.losses event := by
  have front_eq := (Header.starts_eq_false_iff _ _).mp ended
  simp [finalNotices, losses, remaining, front_eq, Header.remainder_of_unmatched front_eq]

theorem logs_losses (event : Nat) (lane : Lane) :
    ModuleTally.Logs event lane.index lane.tally lane.settled (lane.losses event) := by
  have grown : lane.settled.unconsumedWords =
      lane.tally.unconsumedWords + (lane.header.remainder lane.regions.dynamic).length := rfl
  have begun : lane.settled.truncated =
      lane.tally.truncated +
        (lane.header.starts (lane.header.remainder lane.regions.dynamic)).toNat := by
    rw [← Header.count_truncated_cuts]
    rfl
  have last : ∀ taken rest,
      lane.header.front (lane.header.remainder lane.regions.dynamic) ≠ .subEvent taken rest :=
    fun _ _ => lane.header.front_remainder_ne_subEvent _
  unfold losses
  -- All three facts are about the remainder, whatever words it holds.
  generalize lane.header.remainder lane.regions.dynamic = left at grown begun last
  cases front_eq : lane.header.front left with
  | unmatched =>
      rw [(Header.starts_eq_false_iff _ _).mpr front_eq] at begun
      simp only [front_eq]
      cases left with
      | nil => exact .nothing grown begun
      | cons word words => exact .unmatched (Nat.succ_pos _) grown begun
  | truncated length =>
      rw [Header.starts_of_truncated front_eq] at begun
      simp only [front_eq]
      exact .truncated (Header.front_truncated_length_pos front_eq)
        (Header.length_lt_of_truncated front_eq) grown begun
  | subEvent taken rest => exact absurd front_eq (last taken rest)

/-- For every lane at most one log event is given; it is of one kind and about the module of
the lane. -/
def LogsOnce (kind : Notice → Bool) (logged : Lane → List Notice) : Prop :=
  ∀ lane, logged lane = [] ∨
    ∃ notice, logged lane = [notice] ∧ kind notice = true ∧ notice.module? = some lane.index

theorem logsOnce_notices (event : Nat) : LogsOnce Notice.isTruncated (notices event) := by
  intro lane
  unfold notices
  split
  · exact .inr ⟨_, rfl, rfl, rfl⟩
  · exact .inl rfl

theorem logsOnce_finalNotices (event : Nat) :
    LogsOnce Notice.isUnmatched (finalNotices event) := by
  intro lane
  unfold finalNotices
  split
  · exact .inl rfl
  · exact .inr ⟨_, rfl, rfl, rfl⟩

section LogsOnce

variable {kind : Notice → Bool} {logged : Lane → List Notice} (once : LogsOnce kind logged)
include once

theorem LogsOnce.of_mem {lane : Lane} {notice : Notice} (member : notice ∈ logged lane) :
    kind notice = true ∧ notice.module? = some lane.index := by
  rcases once lane with none_eq | ⟨only, only_eq, only_kind, module_eq⟩
  · rw [none_eq] at member
    cases member
  · rw [only_eq, List.mem_singleton] at member
    exact member ▸ ⟨only_kind, module_eq⟩

theorem LogsOnce.ofModule_eq (module : Nat) (lane : Lane) :
    Notice.ofModule module (logged lane) = if lane.index = module then logged lane else [] := by
  rcases once lane with none_eq | ⟨only, only_eq, -, module_eq⟩
  · simp [none_eq, Notice.ofModule]
  · simp [only_eq, Notice.ofModule, List.filter_singleton, module_eq]

theorem LogsOnce.ofModule_of_index_ne {module : Nat} {lanes : List Lane}
    (others : ∀ lane ∈ lanes, lane.index ≠ module) :
    Notice.ofModule module (lanes.flatMap logged) = [] := by
  induction lanes with
  | nil => rfl
  | cons lane lanes induction =>
      obtain ⟨other, later⟩ := List.forall_mem_cons.mp others
      rw [List.flatMap_cons, Notice.ofModule_append, once.ofModule_eq, if_neg other,
        induction later, List.append_nil]

end LogsOnce

end Lane

namespace Lanes

theorem Numbered.index_eq {index module : Nat} {lanes : List Lane} {lane : Lane}
    (numbered : Numbered index lanes) (lane_at : lanes[module]? = some lane) :
    lane.index = index + module := by
  induction lanes generalizing index module with
  | nil => simp at lane_at
  | cons first lanes induction =>
      cases module with
      | zero =>
          have first_eq : first = lane := by simpa using lane_at
          exact first_eq ▸ numbered.1
      | succ module =>
          rw [induction numbered.2 (by simpa using lane_at)]
          omega

theorem Numbered.pairwise {index : Nat} {lanes : List Lane} (numbered : Numbered index lanes) :
    lanes.Pairwise fun first second => first.index < second.index := by
  rw [List.pairwise_iff_getElem]
  intro earlier later insideEarlier insideLater before
  rw [numbered.index_eq (List.getElem?_eq_getElem insideEarlier),
    numbered.index_eq (List.getElem?_eq_getElem insideLater)]
  exact Nat.add_lt_add_left before index

section Logged

variable {kind : Notice → Bool} {logged : Lane → List Notice}
  (once : Lane.LogsOnce kind logged) {lanes : List Lane} (numbered : Numbered 0 lanes)
include once numbered

theorem inOrder_of_logged :
    Notice.InOrder kind lanes.length (lanes.flatMap logged) := by
  constructor
  · intro notice member
    obtain ⟨lane, -, found⟩ := List.mem_flatMap.mp member
    exact (once.of_mem found).1
  · intro notice member
    obtain ⟨lane, listed, found⟩ := List.mem_flatMap.mp member
    obtain ⟨module, lane_at⟩ := List.mem_iff_getElem?.mp listed
    refine ⟨module, ?_, (List.getElem?_eq_some_iff.mp lane_at).1⟩
    rw [(once.of_mem found).2, numbered.index_eq lane_at, Nat.zero_add]
  · rw [List.filterMap_flatMap, List.pairwise_flatMap]
    constructor
    · intro lane _
      rcases once lane with none_eq | ⟨only, only_eq, -, module_eq⟩
      · simp [none_eq]
      · simp [only_eq, module_eq]
    · refine numbered.pairwise.imp ?_
      intro first second rising module found later foundLater
      obtain ⟨notice, member, module_eq⟩ := List.mem_filterMap.mp found
      obtain ⟨laterNotice, laterMember, later_eq⟩ := List.mem_filterMap.mp foundLater
      rw [(once.of_mem member).2] at module_eq
      rw [(once.of_mem laterMember).2] at later_eq
      cases module_eq
      cases later_eq
      exact rising

/-- Among what all modules log is what one of them logs, and nothing else about that one. -/
theorem ofModule_logged {module : Nat} {lane : Lane} (lane_at : lanes[module]? = some lane) :
    Notice.ofModule module (lanes.flatMap logged) = logged lane := by
  have here : lane.index = module := (numbered.index_eq lane_at).trans (Nat.zero_add module)
  have rising := numbered.pairwise
  obtain ⟨front, back, rfl⟩ := List.append_of_mem (List.mem_of_getElem? lane_at)
  rw [List.pairwise_append, List.pairwise_cons] at rising
  obtain ⟨-, ⟨above, -⟩, below⟩ := rising
  have before : ∀ other ∈ front, other.index ≠ module := fun other member =>
    here ▸ Nat.ne_of_lt (below other member lane List.mem_cons_self)
  have after : ∀ other ∈ back, other.index ≠ module := fun other member =>
    here ▸ Nat.ne_of_gt (above other member)
  rw [List.flatMap_append, List.flatMap_cons, Notice.ofModule_append, Notice.ofModule_append,
    once.ofModule_of_index_ne before, once.ofModule_of_index_ne after, once.ofModule_eq,
    if_pos here, List.nil_append, List.append_nil]

end Logged

theorem ofModule_split {lanes : List Lane} (numbered : Numbered 0 lanes) {module : Nat}
    {lane : Lane} (lane_at : lanes[module]? = some lane) (event : Nat) :
    Notice.ofModule module (split event lanes).notices = lane.losses event := by
  fun_induction split event lanes generalizing lane with
  | case1 lanes starting later induction =>
      have advanced : (advance lanes)[module]? = some lane.advance := by
        simp [advance, lane_at]
      have logged := ofModule_logged (Lane.logsOnce_notices event) numbered lane_at
      rw [Notice.ofModule_append, logged,
        induction (numbered_advance numbered) advanced, Lane.notices_append_losses]
  | case2 lanes ended =>
      have still : lane.starts = false := by
        rw [Bool.not_eq_true] at ended
        simpa using List.any_eq_false.mp ended lane (List.mem_of_getElem? lane_at)
      have logged := ofModule_logged (Lane.logsOnce_finalNotices event) numbered lane_at
      rw [logged, Lane.finalNotices_of_not_starts still]

end Lanes

namespace Slot

theorem logs_deliver {slot : Slot} (splitting : slot.splitting = true)
    {regions : List Regions} {tallies : List ModuleTally}
    (fitting : regions.length = slot.headers.length)
    (counted : tallies.length = slot.headers.length) (event : Nat) {module : Nat}
    {before : ModuleTally} (before_at : tallies[module]? = some before) :
    ∃ after, (slot.deliver event regions tallies).tallies[module]? = some after ∧
      ModuleTally.Logs event module before after
        (Notice.ofModule module (slot.deliver event regions tallies).notices) := by
  have inside := (List.getElem?_eq_some_iff.mp before_at).1
  obtain ⟨header, header_at⟩ : ∃ header, slot.headers[module]? = some header :=
    ⟨_, List.getElem?_eq_getElem (counted ▸ inside)⟩
  obtain ⟨recorded, recorded_at⟩ : ∃ recorded, regions[module]? = some recorded :=
    ⟨_, List.getElem?_eq_getElem (fitting ▸ counted ▸ inside)⟩
  let lane : Lane := { index := 0 + module, header, regions := recorded, tally := before }
  have lane_at : (Lanes.ofModules 0 slot.headers regions tallies)[module]? = some lane :=
    Lanes.getElem?_ofModules header_at recorded_at before_at 0
  have logged : (slot.deliver event regions tallies).notices =
      (Lanes.split event (Lanes.ofModules 0 slot.headers regions tallies)).notices := by
    rw [deliver, if_pos splitting]
  refine ⟨lane.settled, ?_, ?_⟩
  · exact (deliver_module_of_splitting splitting fitting counted event header_at recorded_at
      before_at).2
  · rw [logged, Lanes.ofModule_split (Lanes.numbered_ofModules 0 _ _ _) lane_at,
      ← Nat.zero_add module]
    exact lane.logs_losses event

theorem notices_deliver_of_whole {slot : Slot} (whole : slot.splitting = false) (event : Nat)
    (regions : List Regions) (tallies : List ModuleTally) :
    (slot.deliver event regions tallies).notices = [] := by
  simp [deliver, whole, passThrough]

end Slot

namespace Session

theorem notices_step_of_ne_finish (session : Session) {action : Action}
    (other : action ≠ .finish) : (session.step action).2.notices = [] := by
  cases action with
  | start event =>
      simp only [step]
      split <;> rfl
  | record region module words =>
      simp only [step]
      split
      · rfl
      · split <;> rfl
  | recorded module =>
      simp only [step]
      split <;> rfl
  | reset =>
      simp only [step]
      split <;> rfl
  | finish => exact absurd rfl other
  | abandon => rfl
  | clearTally => rfl

end Session

namespace Engine

/-- A round in which every module has a flag logs truncated sub-events, in the order of their
modules. -/
theorem inOrder_of_round {event : Nat} {headers : List Header} {stage : Stage}
    {flags : List Bool} {starting : Bool} {next : Round} (paired : stage.Paired headers)
    (mark_eq : mark stage.flags headers stage.regions = (flags, starting))
    (round_eq : round event 0 headers stage.regions stage.tallies flags = .ok next) :
    Notice.InOrder Notice.isTruncated headers.length next.notices := by
  rw [(round_of_mark paired mark_eq round_eq).1,
    ← Lanes.length_ofModules 0 paired.regions paired.tallies]
  exact Lanes.inOrder_of_logged (Lane.logsOnce_notices event)
    (Lanes.numbered_ofModules 0 _ _ _)

theorem inOrder_of_sweep {headers : List Header} {stage : Stage}
    (paired : stage.Paired headers) (event : Nat) :
    Notice.InOrder Notice.isUnmatched headers.length
      (sweep event 0 stage.regions stage.tallies).1 := by
  obtain ⟨-, regions_eq, tallies_eq⟩ := Lanes.map_ofModules 0 paired.regions paired.tallies
  have swept := sweep_lanes
    (Lanes.numbered_ofModules 0 headers stage.regions stage.tallies) event
  rw [regions_eq, tallies_eq] at swept
  rw [swept, ← Lanes.length_ofModules 0 paired.regions paired.tallies]
  exact Lanes.inOrder_of_logged (Lane.logsOnce_finalNotices event)
    (Lanes.numbered_ofModules 0 _ _ _)

/-- What one round logs and leaves behind, all rounds do. -/
theorem Rounds.inOrder {event : Nat} {headers : List Header} {stage last : Stage}
    {trace : List Round} (traced : Rounds event headers stage trace last)
    (paired : stage.Paired headers) :
    (∀ next ∈ trace, Notice.InOrder Notice.isTruncated headers.length next.notices) ∧
      last.Paired headers := by
  induction traced with
  | @ended stage flags mark_eq =>
      have flags_kept := length_mark stage.flags headers stage.regions
      rw [mark_eq] at flags_kept
      exact ⟨fun _ member => absurd member List.not_mem_nil,
        { paired with flags := flags_kept.trans paired.flags }⟩
  | @opened stage last flags next later mark_eq round_eq traced induction =>
      obtain ⟨inOrder, kept⟩ :=
        induction (Leads.paired (.later mark_eq round_eq (.here _)) paired)
      exact ⟨List.forall_mem_cons.mpr ⟨inOrder_of_round paired mark_eq round_eq, inOrder⟩, kept⟩

/-- The losses of a cycle are logged round by round and then behind the last round, and for
every module in step with its statistics. -/
structure LogsLosses (event : Nat) (trace : List Round) (before after : List ModuleTally)
    (notices : List Notice) : Prop where
  rounds : ∀ next ∈ trace, Notice.InOrder Notice.isTruncated before.length next.notices
  swept : ∃ swept, Notice.InOrder Notice.isUnmatched before.length swept ∧
    notices = trace.flatMap Round.notices ++ swept
  modules : ∀ (module : Nat) (earlier : ModuleTally), before[module]? = some earlier →
    ∃ later, after[module]? = some later ∧
      ModuleTally.Logs event module earlier later (Notice.ofModule module notices)

/-- Only the end of a cycle of a slot that is split logs anything. -/
theorem exists_splitting_of_logged {patterns : List (List String)} {engine : Engine}
    (consistent : engine.session.Consistent patterns) (action : Action) :
    ∃ next reply, engine.step action = .ok (next, reply) ∧
      (reply.notices ≠ [] →
        action = .finish ∧
        ∃ cycle slot, engine.cycle = some cycle ∧ engine.slots[cycle.event]? = some slot ∧
          slot.splitting = true) := by
  by_cases finishes : action = .finish
  · subst finishes
    cases opened : engine.cycle with
    | none =>
        refine ⟨engine, .noCycle, by simp [step, opened], ?_⟩
        exact fun logged => absurd rfl logged
    | some cycle =>
        obtain ⟨slot, counted, ended, delivery, slot_at, -, -, delivery_eq, step_eq, -⟩ :=
          step_finish_of_opened consistent opened
        refine ⟨ended, _, step_eq, ?_⟩
        intro logged
        refine ⟨rfl, cycle, slot, rfl, slot_at, ?_⟩
        cases splitting : slot.splitting with
        | true => rfl
        | false =>
            refine absurd ?_ logged
            rw [delivery_eq]
            exact Slot.notices_deliver_of_whole splitting _ _ _
  · obtain ⟨next, step_eq, -⟩ := step_eq_session consistent action
    refine ⟨next, _, step_eq, ?_⟩
    exact fun logged =>
      absurd (Session.notices_step_of_ne_finish engine.session finishes) logged

/-- No action logs anything but the end of a cycle of a slot that is split.  What this one logs
is, for every module that gains words never delivered, one log event with the number of these
words: that of a truncated sub-event if the module gains one, and otherwise that of words
without a header.  The former come first, in the order of the rounds and in each round of the
modules, and the latter follow in the order of the modules. -/
theorem step_logs_losses {patterns : List (List String)} {engine : Engine}
    (reachable : Reachable patterns engine) :
    (∀ action, ∃ next reply, engine.step action = .ok (next, reply) ∧
      (reply.notices ≠ [] →
        action = .finish ∧
        ∃ cycle slot, engine.cycle = some cycle ∧ engine.slots[cycle.event]? = some slot ∧
          slot.splitting = true)) ∧
    ∀ cycle slot, engine.cycle = some cycle → engine.slots[cycle.event]? = some slot →
      slot.splitting = true →
      ∃ counted ended report after trace last,
        engine.tally.events[cycle.event]? = some counted ∧
        engine.step .finish = .ok (ended, .finished report) ∧
        ended.tally.events[cycle.event]? = some after ∧
        counted.modules.length = slot.headers.length ∧
        after.modules.length = slot.headers.length ∧
        Rounds cycle.event slot.headers (engine.firstStage cycle counted) trace last ∧
        report.brackets = trace.length ∧
        LogsLosses cycle.event trace counted.modules after.modules report.notices := by
  refine ⟨exists_splitting_of_logged reachable.consistent, ?_⟩
  intro cycle slot opened slot_at splitting
  obtain ⟨found, counted, ended, delivery, found_at, counted_at, fits, rfl, step_eq, after_at⟩ :=
    exists_after_of_opened reachable.consistent opened
  cases slot_at.symm.trans found_at
  obtain ⟨trace, last, traced, count, logged⟩ := exists_rounds_of_deliver fits splitting
  obtain ⟨inOrder, lastPaired⟩ := traced.inOrder (paired_firstStage fits)
  have modules : counted.modules.length = slot.headers.length := fits.tallies
  have kept := Slot.length_tallies_deliver slot cycle.event fits.regions fits.tallies
  refine ⟨counted, ended, _, _, trace, last, counted_at, step_eq, after_at, modules,
    kept.trans modules, traced, count, ?_⟩
  exact
    { rounds := modules ▸ inOrder
      swept := ⟨_, modules ▸ inOrder_of_sweep lastPaired cycle.event, logged⟩
      modules := fun _ _ earlier_at =>
        Slot.logs_deliver splitting fits.regions fits.tallies cycle.event earlier_at }

/-- The last module is truncated a round before the first one, and the words left behind in
the module between them are logged last. -/
theorem step_logs_losses_three_modules :
    ∃ (engine : Engine) (cycle : Cycle) (slot : Slot) (counted : EventTally) (ended : Engine)
        (report : Report) (after : EventTally) (trace : List Round),
      Reachable [["1SSS", "01", "1SS"]] engine ∧
      engine.cycle = some cycle ∧
      engine.slots[cycle.event]? = some slot ∧
      slot.splitting = true ∧
      engine.step .finish = .ok (ended, .finished report) ∧
      LogsLosses cycle.event trace counted.modules after.modules report.notices ∧
      report.notices = [.truncated 0 2 4 1, .truncated 0 0 8 2, .unmatched 0 1 3] := by
  have reachable : Reachable [["1SSS", "01", "1SS"]] _ :=
    ⟨_, [.start 0, .record .dynamic 0 [9, 1, 15, 2], .record .dynamic 1 [1, 5, 2, 1, 1],
      .record .dynamic 2 [7]], _, rfl, rfl⟩
  obtain ⟨-, ends⟩ := step_logs_losses reachable
  obtain ⟨counted, ended, report, after, trace, last, -, step_eq, -, -, -, -, -, losses⟩ :=
    ends _ _ rfl rfl rfl
  refine ⟨_, _, _, counted, ended, report, after, trace, reachable, rfl, rfl, rfl, step_eq,
    losses, ?_⟩
  have notices_eq := congrArg (Except.map fun answer => answer.2.notices) step_eq
  exact Except.ok.inj (notices_eq.symm.trans (by decide +kernel))

end Engine

end Readout
