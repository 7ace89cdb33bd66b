import Readout.Proofs.Delivery
import Readout.Session

/-!
# What a slot delivers does not depend on its place

The index of a slot only labels what the slot delivers, and the statistics that a
cycle finds only add to what the cycle counts.
-/

namespace Readout

namespace Call

/-- The same call for the slot that lies a distance further on. -/
def shift (distance : Nat) : Call → Call
  | beginEvent event => beginEvent (distance + event)
  | leading event module words => leading (distance + event) module words
  | dynamic event module words => dynamic (distance + event) module words
  | trailing event module words => trailing (distance + event) module words
  | endEvent event => endEvent (distance + event)

theorem shift_zero : shift 0 = id := by
  funext call
  cases call <;> simp [shift]

@[simp]
theorem forWords_shift (distance event module : Nat) (region : Region) (words : List Word) :
    forWords region (distance + event) module words =
      (forWords region event module words).map (shift distance) := by
  unfold forWords
  split
  · rfl
  · cases region <;> rfl

end Call

namespace Notice

/-- The same log event for the slot that lies a distance further on. -/
def shift (distance : Nat) : Notice → Notice
  | compiled event modules splitting patterns =>
      compiled (distance + event) modules splitting patterns
  | ready events widest splittingEvents => ready events widest splittingEvents
  | truncated event module length remaining =>
      truncated (distance + event) module length remaining
  | unmatched event module remaining => unmatched (distance + event) module remaining

theorem shift_zero : shift 0 = id := by
  funext notice
  cases notice <;> simp [shift]

end Notice

namespace Delivery

def shift (distance : Nat) (delivery : Delivery) : Delivery :=
  { delivery with
    calls := delivery.calls.map (Call.shift distance)
    notices := delivery.notices.map (Notice.shift distance) }

end Delivery

namespace ModuleTally

def add (tally gained : ModuleTally) : ModuleTally :=
  { headerMatches := tally.headerMatches + gained.headerMatches
    subEvents := tally.subEvents + gained.subEvents
    truncated := tally.truncated + gained.truncated
    unconsumedWords := tally.unconsumedWords + gained.unconsumedWords }

end ModuleTally

namespace Lane

theorem calls_shift (distance event : Nat) :
    calls (distance + event) = fun lane => (lane.calls event).map (Call.shift distance) := by
  funext lane
  unfold calls
  split
  · simp [Call.shift]
  · rfl

theorem notices_shift (distance event : Nat) :
    notices (distance + event) =
      fun lane => (lane.notices event).map (Notice.shift distance) := by
  funext lane
  unfold notices
  split <;> rfl

theorem finalNotices_shift (distance event : Nat) :
    finalNotices (distance + event) =
      fun lane => (lane.finalNotices event).map (Notice.shift distance) := by
  funext lane
  unfold finalNotices
  split <;> rfl

/-- The lane without its statistics. -/
def plain (lane : Lane) : Lane :=
  { lane with tally := ModuleTally.zero }

@[simp]
theorem starts_plain (lane : Lane) : lane.plain.starts = lane.starts := rfl

theorem plain_advance (lane : Lane) : lane.advance.plain = lane.plain.advance.plain := by
  cases front_eq : lane.header.front lane.regions.dynamic with
  | unmatched => simp [advance, plain, front_eq]
  | truncated length => simp [advance, plain, drop, front_eq]
  | subEvent taken rest => simp [advance, plain, front_eq]

end Lane

namespace Lanes

theorem bracket_shift (distance event : Nat) (lanes : List Lane) :
    bracket (distance + event) lanes =
      (bracket event lanes).map (Call.shift distance) := by
  simp [bracket, Call.shift, List.map_flatMap, Lane.calls_shift]

theorem split_shift (distance event : Nat) (lanes : List Lane) :
    split (distance + event) lanes = (split event lanes).shift distance := by
  fun_induction split event lanes with
  | case1 lanes starting later induction =>
      rw [split, dif_pos starting, induction]
      simp [Delivery.shift, bracket_shift, List.map_flatMap, Lane.notices_shift, later]
  | case2 lanes ended =>
      rw [split, dif_neg ended]
      simp [Delivery.shift, List.map_flatMap, Lane.finalNotices_shift]

/-- Lanes that differ in nothing but their statistics. -/
def Alike (lanes others : List Lane) : Prop :=
  lanes.map Lane.plain = others.map Lane.plain

theorem Alike.advance {lanes others : List Lane} (alike : Alike lanes others) :
    Alike (advance lanes) (Lanes.advance others) := by
  have advanced := congrArg (List.map fun lane : Lane => lane.advance.plain) alike
  simpa [Alike, Lanes.advance, Function.comp_def, ← Lane.plain_advance] using advanced

theorem Alike.any_starts {lanes others : List Lane} (alike : Alike lanes others) :
    lanes.any Lane.starts = others.any Lane.starts := by
  have starting := congrArg (List.any · Lane.starts) alike
  simpa [Function.comp_def] using starting

theorem Alike.flatMap {lanes others : List Lane} (alike : Alike lanes others)
    {α : Type} (yield : Lane → List α) (uncounted : ∀ lane, yield lane.plain = yield lane) :
    lanes.flatMap yield = others.flatMap yield := by
  have yielded := congrArg (List.flatMap yield) alike
  simpa [List.flatMap_map, uncounted] using yielded

/-- Statistics do not change what is delivered. -/
theorem split_of_alike (event : Nat) {lanes others : List Lane}
    (alike : Alike lanes others) :
    (split event lanes).calls = (split event others).calls ∧
      (split event lanes).notices = (split event others).notices ∧
      (split event lanes).brackets = (split event others).brackets := by
  -- Lanes that are alike stay alike in every round, and so run the same number of rounds.
  fun_induction split event lanes generalizing others with
  | case1 lanes starting later =>
      rename_i induction
      obtain ⟨calls, notices, brackets⟩ := induction alike.advance
      have startingToo := alike.any_starts.symm.trans starting
      rw [split, dif_pos startingToo]
      refine ⟨?_, ?_, congrArg (· + 1) brackets⟩
      · simp only [bracket, alike.flatMap (Lane.calls event) (fun lane => rfl)]
        rw [← calls]
      · simp only [alike.flatMap (Lane.notices event) (fun lane => rfl)]
        rw [← notices]
  | case2 lanes ended =>
      have endedToo : ¬ others.any Lane.starts = true := by
        rw [← alike.any_starts]
        exact ended
      rw [split, dif_neg endedToo]
      exact ⟨rfl, alike.flatMap _ fun lane => rfl, rfl⟩

theorem alike_ofModules (index : Nat) {headers : List Header} {regions : List Regions}
    {tallies others : List ModuleTally} (counted : tallies.length = others.length) :
    Alike (ofModules index headers regions tallies) (ofModules index headers regions others) := by
  induction tallies generalizing index headers regions others with
  | nil =>
      rw [List.eq_nil_of_length_eq_zero counted.symm]
      rfl
  | cons tally tallies induction =>
      obtain ⟨other, others, rfl⟩ := List.exists_cons_of_length_eq_add_one counted.symm
      match headers, regions with
      | header :: headers, recorded :: regions =>
          exact congrArg (_ :: ·) (induction (index + 1) (by simpa using counted))
      | [], _ => rfl
      | _ :: _, [] => rfl

end Lanes

namespace Slot

theorem wholeCalls_shift (distance event module : Nat) (regions : List Regions) :
    wholeCalls (distance + event) module regions =
      (wholeCalls event module regions).map (Call.shift distance) := by
  induction regions generalizing module with
  | nil => rfl
  | cons recorded regions induction => simp [wholeCalls, induction]

theorem deliver_shift (slot : Slot) (distance event : Nat) (regions : List Regions)
    (tallies : List ModuleTally) :
    slot.deliver (distance + event) regions tallies =
      (slot.deliver event regions tallies).shift distance := by
  unfold deliver
  split
  · exact Lanes.split_shift distance event _
  · simp [passThrough, Delivery.shift, wholeCalls_shift, Call.shift]

theorem moduleTally_eq_add (slot : Slot) (header : Header) (recorded : Regions)
    (tally : ModuleTally) :
    slot.moduleTally header recorded tally =
      tally.add (slot.moduleTally header recorded ModuleTally.zero) := by
  unfold moduleTally
  split
  · simp [Header.settle, ModuleTally.add, ModuleTally.zero]
  · unfold countWhole
    split <;> simp [ModuleTally.add, ModuleTally.zero]

theorem deliver_uncounted (slot : Slot) (event : Nat) (regions : List Regions)
    {tallies others : List ModuleTally} (counted : tallies.length = others.length) :
    (slot.deliver event regions tallies).calls = (slot.deliver event regions others).calls ∧
      (slot.deliver event regions tallies).notices =
        (slot.deliver event regions others).notices ∧
      (slot.deliver event regions tallies).brackets =
        (slot.deliver event regions others).brackets := by
  unfold deliver
  split
  · exact Lanes.split_of_alike event (Lanes.alike_ofModules 0 counted)
  · exact ⟨rfl, rfl, rfl⟩

def zeros (slot : Slot) : List ModuleTally :=
  List.replicate slot.headers.length ModuleTally.zero

@[simp]
theorem length_zeros (slot : Slot) : slot.zeros.length = slot.headers.length :=
  List.length_replicate

theorem tallies_deliver_eq_add {slot : Slot} {regions : List Regions}
    {tallies : List ModuleTally} (fitting : regions.length = slot.headers.length)
    (counted : tallies.length = slot.headers.length) (event : Nat) :
    (slot.deliver event regions tallies).tallies =
      List.zipWith ModuleTally.add tallies (slot.deliver event regions slot.zeros).tallies := by
  apply List.ext_getElem?
  intro module
  by_cases inside : module < slot.headers.length
  · have header_at := List.getElem?_eq_getElem inside
    have recorded_at := List.getElem?_eq_getElem (fitting ▸ inside : module < regions.length)
    have tally_at := List.getElem?_eq_getElem (counted ▸ inside : module < tallies.length)
    have zero_at : slot.zeros[module]? = some ModuleTally.zero := by simp [zeros, inside]
    rw [(deliver_module event fitting counted header_at recorded_at tally_at).2,
      List.getElem?_zipWith, tally_at,
      (deliver_module event fitting slot.length_zeros header_at recorded_at zero_at).2]
    exact congrArg some (slot.moduleTally_eq_add _ _ _)
  · have outside := Nat.le_of_not_lt inside
    rw [List.getElem?_eq_none, List.getElem?_eq_none]
    · rw [List.length_zipWith, counted]
      exact Nat.le_trans (Nat.min_le_left _ _) outside
    · rw [length_tallies_deliver slot event fitting counted, counted]
      exact outside

end Slot

end Readout
