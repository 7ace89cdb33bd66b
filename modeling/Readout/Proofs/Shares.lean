import Readout.Proofs.Storage
import Readout.Share

/-!
# The shape of what is delivered

The calls of a finished cycle are brackets of shares.  In a slot that is split the
bracket of a number holds the share of every module that has a sub-event of this number,
so modules only ever drop out, and a bracket without shares can only be the last one, in
which some sub-event is truncated.
-/

namespace Readout

namespace Call

def event : Call → Nat
  | beginEvent event => event
  | leading event _ _ => event
  | dynamic event _ _ => event
  | trailing event _ _ => event
  | endEvent event => event

@[simp]
theorem event_ofRegion (region : Region) (event module : Nat) (words : List Word) :
    (ofRegion region event module words).event = event := by
  cases region <;> rfl

theorem ofRegion_eq_dynamic_iff {region : Region} {event index module : Nat}
    {words dynamicWords : List Word} :
    ofRegion region event index words = dynamic event module dynamicWords ↔
      region = .dynamic ∧ index = module ∧ words = dynamicWords := by
  cases region <;> simp [ofRegion]

theorem forWords_dynamic_of_ne_nil {words : List Word} (nonempty : words ≠ [])
    (event module : Nat) :
    forWords .dynamic event module words = [dynamic event module words] := by
  rw [forWords, if_neg (by simpa using nonempty)]
  rfl

end Call

namespace Share

theorem event_of_mem_bracket {event : Nat} {shares : List Share} {call : Call}
    (member : call ∈ bracket event shares) : call.event = event := by
  simp only [bracket, List.cons_append, List.mem_cons, List.mem_append, List.mem_flatMap,
    List.not_mem_nil, or_false, calls, List.mem_map] at member
  rcases member with rfl | ⟨share, -, part, -, rfl⟩ | rfl
  · rfl
  · exact Call.event_ofRegion _ _ _ _
  · rfl

theorem dynamic_mem_bracket_iff {event module : Nat} {shares : List Share}
    {words : List Word} :
    Call.dynamic event module words ∈ bracket event shares ↔
      ∃ share ∈ shares, share.module = module ∧ (.dynamic, words) ∈ share.parts := by
  simp only [bracket, List.cons_append, List.mem_cons, List.mem_append, List.mem_flatMap,
    List.not_mem_nil, or_false, calls, List.mem_map, Call.ofRegion_eq_dynamic_iff,
    reduceCtorEq, false_or]
  constructor
  · rintro ⟨share, listed, ⟨region, partWords⟩, member, rfl, rfl, rfl⟩
    exact ⟨share, listed, rfl, member⟩
  · rintro ⟨share, listed, rfl, member⟩
    exact ⟨share, listed, _, member, rfl, rfl, rfl⟩

end Share

namespace Header

theorem ne_nil_of_mem_delivered {header : Header} {words subEvent : List Word}
    (member : subEvent ∈ header.delivered words) : subEvent ≠ [] := by
  induction words using front_induction header with
  | unmatched words front_eq =>
      rw [delivered_of_unmatched front_eq] at member
      cases member
  | truncated words length front_eq =>
      rw [delivered_of_truncated front_eq] at member
      cases member
  | subEvent words taken rest front_eq induction =>
      rw [delivered_of_subEvent front_eq] at member
      rcases List.mem_cons.mp member with rfl | later
      · exact front_taken_ne_nil front_eq
      · exact induction later

end Header

namespace Cutting

/-- The shares of step `number` of the modules from an index on. -/
def sharesFrom (number : Nat) : (module : Nat) → List (Header × Regions) → List Share
  | _, [] => []
  | module, (header, recorded) :: modules =>
      (header.delivered recorded.dynamic)[number]?.toList.map (Share.around module recorded) ++
        sharesFrom number (module + 1) modules

theorem moduleCalls_eq_shares (event number module : Nat) (header : Header)
    (recorded : Regions) :
    moduleCalls event number module header recorded =
      ((header.delivered recorded.dynamic)[number]?.toList.map
        (Share.around module recorded)).flatMap (Share.calls event) := by
  unfold moduleCalls
  cases step_eq : (header.cuts recorded.dynamic)[number]? with
  | none => simp [Header.getElem?_delivered, step_eq]
  | some step =>
      cases step with
      | truncated => simp [Header.getElem?_delivered, step_eq, Cut.delivered?]
      | subEvent words =>
          have words_at : (header.delivered recorded.dynamic)[number]? = some words := by
            rw [Header.getElem?_delivered, step_eq]
            rfl
          have nonempty := Header.ne_nil_of_mem_delivered (List.mem_of_getElem? words_at)
          simp [words_at, Share.calls_around, Call.forWords_dynamic_of_ne_nil nonempty]

theorem callsFrom_eq_shares (event number module : Nat)
    (modules : List (Header × Regions)) :
    callsFrom event number module modules =
      (sharesFrom number module modules).flatMap (Share.calls event) := by
  induction modules generalizing module with
  | nil => rfl
  | cons entry modules induction =>
      rw [callsFrom, sharesFrom, List.flatMap_append, ← moduleCalls_eq_shares, induction]

theorem brackets_eq_shares (event : Nat) (modules : List (Header × Regions)) :
    brackets event modules =
      ((List.range (stepCount modules)).map fun number => sharesFrom number 0 modules).map
        (Share.bracket event) := by
  rw [List.map_map]
  apply List.map_congr_left
  intro number _
  rw [bracket, callsFrom_eq_shares]
  rfl

theorem mem_sharesFrom_iff {share : Share} {number index : Nat}
    {modules : List (Header × Regions)} :
    share ∈ sharesFrom number index modules ↔
      ∃ module header recorded words, modules[module]? = some (header, recorded) ∧
        (header.delivered recorded.dynamic)[number]? = some words ∧
        share = Share.around (index + module) recorded words := by
  induction modules generalizing index with
  | nil => simp [sharesFrom]
  | cons entry modules induction =>
      rw [sharesFrom, List.mem_append, induction]
      constructor
      · rintro (here | ⟨module, header, recorded, words, entry_at, words_at, rfl⟩)
        · obtain ⟨words, words_at, rfl⟩ := List.mem_map.mp here
          exact ⟨0, entry.1, entry.2, words, rfl, Option.mem_toList.mp words_at, rfl⟩
        · refine ⟨module + 1, header, recorded, words, entry_at, words_at, ?_⟩
          rw [Nat.add_assoc, Nat.add_comm 1]
      · rintro ⟨module, header, recorded, words, entry_at, words_at, rfl⟩
        cases module with
        | zero =>
            cases entry_at
            exact .inl (List.mem_map_of_mem (Option.mem_toList.mpr words_at))
        | succ module =>
            refine .inr ⟨module, header, recorded, words, entry_at, words_at, ?_⟩
            rw [Nat.add_assoc, Nat.add_comm 1]

theorem pairwise_sharesFrom (number index : Nat) (modules : List (Header × Regions)) :
    (sharesFrom number index modules).Pairwise
      fun first second => first.module < second.module := by
  induction modules generalizing index with
  | nil => exact .nil
  | cons entry modules induction =>
      rw [sharesFrom, List.pairwise_append]
      refine ⟨?_, induction (index + 1), ?_⟩
      · cases (entry.1.delivered entry.2.dynamic)[number]? <;> simp
      · intro first here second later
        obtain ⟨words, -, rfl⟩ := List.mem_map.mp here
        obtain ⟨module, -, -, -, -, -, rfl⟩ := mem_sharesFrom_iff.mp later
        simp only [Share.module_around]
        omega

theorem dynamic_mem_shares_iff {event module number : Nat} {words : List Word}
    {modules : List (Header × Regions)} :
    Call.dynamic event module words ∈ Share.bracket event (sharesFrom number 0 modules) ↔
      ∃ header recorded, modules[module]? = some (header, recorded) ∧
        (header.delivered recorded.dynamic)[number]? = some words := by
  rw [Share.dynamic_mem_bracket_iff]
  constructor
  · rintro ⟨share, listed, rfl, member⟩
    obtain ⟨module, header, recorded, subEvent, entry_at, words_at, rfl⟩ :=
      mem_sharesFrom_iff.mp listed
    have words_eq : words = subEvent := (Share.mem_parts_around member).2.2.1 rfl
    rw [Share.module_around, Nat.zero_add, words_eq]
    exact ⟨header, recorded, entry_at, words_at⟩
  · rintro ⟨header, recorded, entry_at, words_at⟩
    refine ⟨Share.around module recorded words, ?_, rfl, ?_⟩
    · exact mem_sharesFrom_iff.mpr
        ⟨module, header, recorded, words, entry_at, words_at, by rw [Nat.zero_add]⟩
    · have nonempty := Header.ne_nil_of_mem_delivered (List.mem_of_getElem? words_at)
      simp [Share.around, nonempty]

end Cutting

namespace Header

/-- A step without a sub-event is truncated, and is the last one. -/
theorem cuts_of_no_subEvent {header : Header} {words : List Word} {number : Nat}
    (none_delivered : (header.delivered words)[number]? = none) :
    (header.cuts words).length ≤ number + 1 ∧
      (number < (header.cuts words).length → (header.cuts words)[number]? = some .truncated) := by
  have delivered_le := List.getElem?_eq_none_iff.mp none_delivered
  constructor
  · have last := Bool.toNat_le (header.starts (header.remainder words))
    rw [length_cuts]
    omega
  · intro inside
    have step_at := List.getElem?_eq_getElem inside
    rw [getElem?_delivered, step_at, Option.bind_some] at none_delivered
    rw [step_at]
    cases step_eq : (header.cuts words)[number] with
    | truncated => rfl
    | subEvent taken =>
        rw [step_eq] at none_delivered
        cases none_delivered

theorem count_truncated_of_step {header : Header} {words : List Word} {number : Nat}
    (step_at : (header.cuts words)[number]? = some .truncated) :
    (header.cuts words).count .truncated = 1 := by
  have positive : 0 < (header.cuts words).count .truncated :=
    List.count_pos_iff.mpr (List.mem_of_getElem? step_at)
  have last := Bool.toNat_le (header.starts (header.remainder words))
  rw [count_truncated_cuts] at positive ⊢
  omega

end Header

namespace Slot

theorem wholeCalls_eq_shares (event module : Nat) (regions : List Regions) :
    wholeCalls event module regions =
      ((regions.zipIdx module).map fun entry =>
        Share.around entry.2 entry.1 entry.1.dynamic).flatMap (Share.calls event) := by
  induction regions generalizing module with
  | nil => rfl
  | cons recorded regions induction =>
      rw [wholeCalls, induction, List.zipIdx_cons, List.map_cons, List.flatMap_cons,
        Share.calls_around, List.append_assoc, List.append_assoc]

def shares (slot : Slot) (regions : List Regions) : List (List Share) :=
  if slot.splitting then
    (List.range (Cutting.stepCount (slot.headers.zip regions))).map fun number =>
      Cutting.sharesFrom number 0 (slot.headers.zip regions)
  else
    [regions.zipIdx.map fun entry => Share.around entry.2 entry.1 entry.1.dynamic]

theorem deliver_eq_shares {slot : Slot} {regions : List Regions} {tallies : List ModuleTally}
    (fitting : regions.length = slot.headers.length)
    (counted : tallies.length = slot.headers.length) (event : Nat) :
    (slot.deliver event regions tallies).calls =
        ((slot.shares regions).map (Share.bracket event)).flatten ∧
      (slot.deliver event regions tallies).brackets = (slot.shares regions).length := by
  cases splitting : slot.splitting with
  | true =>
      obtain ⟨calls, brackets, -⟩ := deliver_of_splitting splitting fitting counted event
      rw [calls, brackets, Cutting.brackets_eq_shares, shares, if_pos splitting]
      simp
  | false =>
      simp [deliver, splitting, passThrough, shares, wholeCalls_eq_shares, Share.bracket]

theorem event_of_mem_deliver {slot : Slot} {regions : List Regions}
    {tallies : List ModuleTally} (fitting : regions.length = slot.headers.length)
    (counted : tallies.length = slot.headers.length) {event : Nat} {call : Call}
    (member : call ∈ (slot.deliver event regions tallies).calls) : call.event = event := by
  rw [(deliver_eq_shares fitting counted event).1] at member
  obtain ⟨bracket, listed, inside⟩ := List.mem_flatten.mp member
  obtain ⟨shares, -, rfl⟩ := List.mem_map.mp listed
  exact Share.event_of_mem_bracket inside

end Slot

/-- The brackets that a cycle of a slot delivers, as lists of shares. -/
structure Cycle.Delivers (cycle : Cycle) (slot : Slot) (brackets : List (List Share)) :
    Prop where
  /-- In a bracket every module comes at most once, in the order of the modules. -/
  ordered : ∀ shares ∈ brackets,
    shares.Pairwise fun first second => first.module < second.module
  /-- Nothing is delivered without words, and fixed words are the recorded ones. -/
  parts : ∀ shares ∈ brackets, ∀ share ∈ shares, ∃ recorded,
    cycle.recorded? share.module = some recorded ∧
      ∀ part ∈ share.parts, part.2 ≠ [] ∧
        (part.1 = .leading → part.2 = recorded.leading) ∧
        (part.1 = .trailing → part.2 = recorded.trailing)
  /-- A share in a split slot is dynamic words between the fixed words. -/
  split : slot.splitting = true → ∀ shares ∈ brackets, ∀ share ∈ shares,
    ∃ recorded words, cycle.recorded? share.module = some recorded ∧ words ≠ [] ∧
      share = Share.around share.module recorded words
  /-- In a split slot, what delivers dynamic words delivers some in all earlier brackets. -/
  shrinking : slot.splitting = true →
    ∀ (earlier later : Nat) (first second : List Share) (module : Nat) (words : List Word),
      earlier ≤ later → brackets[earlier]? = some first → brackets[later]? = some second →
      Call.dynamic cycle.event module words ∈ Share.bracket cycle.event second →
      ∃ words, Call.dynamic cycle.event module words ∈ Share.bracket cycle.event first
  /-- In a split slot a bracket without dynamic words is the last one, and a module has a
  truncated sub-event in it. -/
  last : slot.splitting = true →
    ∀ (number : Nat) (shares : List Share), brackets[number]? = some shares →
      (∀ module words,
        Call.dynamic cycle.event module words ∉ Share.bracket cycle.event shares) →
      number + 1 = brackets.length ∧
        ∃ module header recorded, slot.headers[module]? = some header ∧
          cycle.recorded? module = some recorded ∧
          (header.cuts recorded.dynamic)[number]? = some .truncated
  /-- A slot that is not split delivers everything recorded in one bracket. -/
  whole : slot.splitting = false →
    brackets =
      [cycle.regions.zipIdx.map fun entry => Share.around entry.2 entry.1 entry.1.dynamic]

namespace Cutting

section Brackets

variable {modules : List (Header × Regions)} {number : Nat}

/-- Words that a module delivers after some bracket are preceded by words in it. -/
theorem shares_shrink {event module later : Nat} {words : List Word}
    (ordered : number ≤ later)
    (member : Call.dynamic event module words ∈
      Share.bracket event (sharesFrom later 0 modules)) :
    ∃ words, Call.dynamic event module words ∈
      Share.bracket event (sharesFrom number 0 modules) := by
  obtain ⟨header, recorded, entry_at, words_at⟩ := dynamic_mem_shares_iff.mp member
  have inside : later < (header.delivered recorded.dynamic).length :=
    (List.getElem?_eq_some_iff.mp words_at).1
  exact ⟨_, dynamic_mem_shares_iff.mpr ⟨header, recorded, entry_at,
    List.getElem?_eq_getElem (Nat.lt_of_le_of_lt ordered inside)⟩⟩

/-- A bracket in which nothing dynamic is delivered is the last one, and a module has a
truncated sub-event in it. -/
theorem last_of_no_dynamic {event : Nat} (inside : number < stepCount modules)
    (nothing : ∀ module words, Call.dynamic event module words ∉
      Share.bracket event (sharesFrom number 0 modules)) :
    number + 1 = stepCount modules ∧
      ∃ (module : Nat) (header : Header) (recorded : Regions),
        modules[module]? = some (header, recorded) ∧
          (header.cuts recorded.dynamic)[number]? = some .truncated := by
  have none_delivered : ∀ entry ∈ modules,
      (entry.1.delivered entry.2.dynamic)[number]? = none := by
    intro entry member
    obtain ⟨module, entry_at⟩ := List.mem_iff_getElem?.mp member
    rw [Option.eq_none_iff_forall_ne_some]
    intro words words_at
    exact nothing module words
      (dynamic_mem_shares_iff.mpr ⟨entry.1, entry.2, entry_at, words_at⟩)
  have bounded : stepCount modules ≤ number + 1 :=
    (stepCount_le_iff modules _).mpr fun entry member =>
      (Header.cuts_of_no_subEvent (none_delivered entry member)).1
  refine ⟨Nat.le_antisymm inside bounded, ?_⟩
  obtain ⟨entry, member, long⟩ := (lt_stepCount_iff modules number).mp inside
  obtain ⟨module, entry_at⟩ := List.mem_iff_getElem?.mp member
  exact ⟨module, entry.1, entry.2, entry_at,
    (Header.cuts_of_no_subEvent (none_delivered entry member)).2 long⟩

end Brackets

end Cutting

namespace Slot

section Splitting

variable {slot : Slot} (splitting : slot.splitting = true) {regions : List Regions}
include splitting

theorem length_shares_of_splitting :
    (slot.shares regions).length = Cutting.stepCount (slot.headers.zip regions) := by
  rw [shares, if_pos splitting, List.length_map, List.length_range]

theorem shares_of_splitting {number : Nat} {shares : List Share}
    (shares_at : (slot.shares regions)[number]? = some shares) :
    number < Cutting.stepCount (slot.headers.zip regions) ∧
      shares = Cutting.sharesFrom number 0 (slot.headers.zip regions) := by
  rw [Slot.shares, if_pos splitting, List.getElem?_map] at shares_at
  obtain ⟨index, index_at, rfl⟩ := Option.map_eq_some_iff.mp shares_at
  obtain ⟨inside, index_eq⟩ := List.getElem?_eq_some_iff.mp index_at
  rw [List.getElem_range] at index_eq
  subst index_eq
  exact ⟨by simpa using inside, rfl⟩

theorem share_of_splitting {shares : List Share} (listed : shares ∈ slot.shares regions)
    {share : Share} (member : share ∈ shares) :
    ∃ recorded words, regions[share.module]? = some recorded ∧ words ≠ [] ∧
      share = Share.around share.module recorded words := by
  obtain ⟨number, shares_at⟩ := List.mem_iff_getElem?.mp listed
  obtain ⟨-, rfl⟩ := shares_of_splitting splitting shares_at
  obtain ⟨module, header, recorded, words, entry_at, words_at, rfl⟩ :=
    Cutting.mem_sharesFrom_iff.mp member
  obtain ⟨-, recorded_at⟩ := List.getElem?_zip_eq_some.mp entry_at
  refine ⟨recorded, words, ?_, ?_, rfl⟩
  · simpa using recorded_at
  · exact Header.ne_nil_of_mem_delivered (List.mem_of_getElem? words_at)

theorem delivers_of_splitting (event : Nat) :
    Cycle.Delivers { event, regions } slot (slot.shares regions) := by
  constructor
  case ordered =>
    intro shares listed
    obtain ⟨number, shares_at⟩ := List.mem_iff_getElem?.mp listed
    obtain ⟨-, rfl⟩ := shares_of_splitting splitting shares_at
    exact Cutting.pairwise_sharesFrom number 0 _
  case parts =>
    intro shares listed share member
    obtain ⟨recorded, words, recorded_at, -, share_eq⟩ :=
      share_of_splitting splitting listed member
    refine ⟨recorded, recorded_at, ?_⟩
    intro part listedPart
    rw [share_eq] at listedPart
    obtain ⟨nonempty, leading, -, trailing⟩ := Share.mem_parts_around listedPart
    exact ⟨nonempty, leading, trailing⟩
  case split =>
    intro _ shares listed share member
    exact share_of_splitting splitting listed member
  case shrinking =>
    intro _ earlier later first second module words ordered first_at second_at member
    obtain ⟨-, rfl⟩ := shares_of_splitting splitting first_at
    obtain ⟨-, rfl⟩ := shares_of_splitting splitting second_at
    exact Cutting.shares_shrink ordered member
  case last =>
    intro _ number shares shares_at nothing
    obtain ⟨inside, rfl⟩ := shares_of_splitting splitting shares_at
    obtain ⟨count_eq, module, header, recorded, entry_at, step_at⟩ :=
      Cutting.last_of_no_dynamic inside nothing
    obtain ⟨header_at, recorded_at⟩ := List.getElem?_zip_eq_some.mp entry_at
    rw [length_shares_of_splitting splitting]
    exact ⟨count_eq, module, header, recorded, header_at, recorded_at, step_at⟩
  case whole =>
    intro whole
    rw [splitting] at whole
    cases whole

end Splitting

theorem delivers_of_whole {slot : Slot} (whole : slot.splitting = false) (event : Nat)
    (regions : List Regions) :
    Cycle.Delivers { event, regions } slot (slot.shares regions) := by
  have shares_eq : slot.shares regions =
      [regions.zipIdx.map fun entry => Share.around entry.2 entry.1 entry.1.dynamic] := by
    rw [shares, if_neg (by simp [whole])]
  have notSplit : ¬ slot.splitting = true := by simp [whole]
  constructor
  case ordered =>
    intro shares listed
    rw [shares_eq, List.mem_singleton] at listed
    subst listed
    have indices : ((regions.zipIdx).map Prod.snd).Pairwise (· < ·) := by
      rw [List.zipIdx_map_snd]
      exact List.pairwise_lt_range' 1
    exact List.pairwise_map.mpr (List.pairwise_map.mp indices)
  case parts =>
    intro shares listed share member
    rw [shares_eq, List.mem_singleton] at listed
    subst listed
    obtain ⟨⟨recorded, module⟩, entry_mem, rfl⟩ := List.mem_map.mp member
    refine ⟨recorded, List.mem_zipIdx_iff_getElem?.mp entry_mem, ?_⟩
    intro part listedPart
    obtain ⟨nonempty, leading, -, trailing⟩ := Share.mem_parts_around listedPart
    exact ⟨nonempty, leading, trailing⟩
  case split => exact fun splitting => absurd splitting notSplit
  case shrinking => exact fun splitting => absurd splitting notSplit
  case last => exact fun splitting => absurd splitting notSplit
  case whole => exact fun _ => shares_eq

theorem delivers_shares (slot : Slot) (cycle : Cycle) :
    cycle.Delivers slot (slot.shares cycle.regions) := by
  cases splitting : slot.splitting with
  | true => exact delivers_of_splitting splitting cycle.event
  | false => exact delivers_of_whole splitting cycle.event cycle.regions

end Slot

namespace Engine

/-- The end of a cycle reports brackets of shares of its own slot, as many as it says, and
counts every truncated sub-event in the statistics of its module. -/
theorem finish_delivers_shares {patterns : List (List String)} {engine : Engine}
    {cycle : Cycle} (reachable : Reachable patterns engine)
    (opened : engine.cycle = some cycle) :
    ∃ slot ended report brackets,
      engine.slots[cycle.event]? = some slot ∧
      engine.step .finish = .ok (ended, .finished report) ∧
      report.calls = (brackets.map (Share.bracket cycle.event)).flatten ∧
      report.brackets = brackets.length ∧
      (∀ call ∈ report.calls, call.event = cycle.event) ∧
      cycle.Delivers slot brackets ∧
      ∀ (module number : Nat) (header : Header) (recorded : Regions),
        slot.splitting = true →
        slot.headers[module]? = some header → cycle.recorded? module = some recorded →
        (header.cuts recorded.dynamic)[number]? = some .truncated →
        ∃ before after,
          engine.tally.module? cycle.event module = some before ∧
          ended.tally.module? cycle.event module = some after ∧
          after.truncated = before.truncated + 1 := by
  obtain ⟨slot, counted, ended, delivery, slot_at, counted_at, fits, delivery_eq, step_eq,
    ended_eq⟩ := step_finish_of_opened reachable.consistent opened
  obtain ⟨calls, brackets⟩ := Slot.deliver_eq_shares fits.regions fits.tallies cycle.event
  refine ⟨slot, ended, delivery.report, slot.shares cycle.regions, slot_at, step_eq, ?_, ?_, ?_,
    slot.delivers_shares cycle, ?_⟩
  · rw [delivery_eq]
    exact calls
  · rw [delivery_eq]
    exact brackets
  · intro call member
    rw [delivery_eq] at member
    exact Slot.event_of_mem_deliver fits.regions fits.tallies member
  · intro module number header recorded splitting header_at recorded_at step_at
    have tally_eq : ended.tally =
        ⟨engine.tally.events.set cycle.event (counted.after delivery)⟩ :=
      congrArg (fun session => session.splitter.tally) ended_eq
    have inside : module < counted.modules.length :=
      fits.tallies ▸ (List.getElem?_eq_some_iff.mp header_at).1
    have before_at := List.getElem?_eq_getElem inside
    have after_at := (Slot.deliver_module cycle.event fits.regions fits.tallies header_at
      recorded_at before_at).2
    have placed : cycle.event < engine.tally.events.length :=
      (List.getElem?_eq_some_iff.mp counted_at).1
    refine ⟨counted.modules[module],
      slot.moduleTally header recorded counted.modules[module], ?_, ?_, ?_⟩
    · rw [Tally.module?, counted_at]
      exact before_at
    · rw [Tally.module?, tally_eq, List.getElem?_set_self placed, delivery_eq]
      exact after_at
    · rw [Slot.moduleTally, if_pos splitting, Header.settle,
        Header.count_truncated_of_step step_at]

/-- Of three modules one ends with a truncated sub-event, one delivers its region as
a whole and one stops at a word that is no header. -/
theorem finish_delivers_shares_three_modules :
    ∃ engine cycle slot ended report brackets,
      Reachable [["1SSS", "", "01"]] engine ∧
      engine.cycle = some cycle ∧
      engine.step .finish = .ok (ended, .finished report) ∧
      report.calls = (brackets.map (Share.bracket cycle.event)).flatten ∧
      report.brackets = brackets.length ∧
      cycle.Delivers slot brackets := by
  have reachable : Reachable [["1SSS", "", "01"]] _ :=
    ⟨_, [.start 0, .record .leading 0 [5], .record .dynamic 0 [9, 1, 15, 2],
      .record .dynamic 1 [7, 7], .record .dynamic 2 [1, 1, 1, 0]], _, rfl, rfl⟩
  obtain ⟨slot, ended, report, brackets, -, step_eq, calls, count, -, delivers, -⟩ :=
    finish_delivers_shares reachable rfl
  exact ⟨_, _, slot, ended, report, brackets, reachable, rfl, step_eq, calls, count, delivers⟩

end Engine

end Readout
