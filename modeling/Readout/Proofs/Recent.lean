import Mathlib.Data.Nat.ModEq
import Readout.Readers

/-!
# The most recent samples

A history stores a sample in the slot of its number, and the sample stays there until a
sample is pushed whose number is larger by the capacity.  Numbers that are less than the
capacity apart have different slots.  So the samples that a history should retain are the
ones it can still find under their numbers.
-/

namespace Readout

namespace History

/-- A history finds the last of the samples that have been pushed under their numbers. -/
structure Stores (history : History) (capacity : Nat) (pushed : List Binary64) : Prop where
  capacity_eq : history.capacity = capacity
  written_eq : history.written = pushed.length
  sample_eq : ∀ number sample, pushed.length ≤ number + capacity →
    pushed[number]? = some sample → history.sample number = sample

theorem stores_ofCapacity (requested : Nat) :
    (ofCapacity requested).Stores (max requested 1) [] where
  capacity_eq := Array.size_replicate
  written_eq := rfl
  sample_eq number sample _ found := by cases found

theorem capacity_push (history : History) (sample : Binary64) :
    (history.push sample).capacity = history.capacity :=
  Array.size_set (history.slot history.written).isLt

theorem getElem?_slot (history : History) (number : Nat) :
    history.samples[number % history.capacity]? = some (history.sample number) :=
  Array.getElem?_eq_getElem (history.slot number).isLt

/-- A pushed sample is found under every number with its slot, and all other samples stay. -/
theorem sample_push (history : History) (sample : Binary64) (number : Nat) :
    (history.push sample).sample number =
      if history.written % history.capacity = number % history.capacity then sample
      else history.sample number := by
  have found := getElem?_slot (history.push sample) number
  have stored : (history.push sample).samples[number % history.capacity]? =
      if history.written % history.capacity = number % history.capacity then some sample
      else some (history.sample number) := by
    rw [← getElem?_slot history number]
    exact Array.getElem?_set (history.slot history.written).isLt
  rw [capacity_push, stored, ← apply_ite some] at found
  exact (Option.some.inj found).symm

theorem mod_ne_mod_of_lt {number later capacity : Nat} (before : number < later)
    (near : later < number + capacity) : later % capacity ≠ number % capacity := by
  intro same
  have divides : capacity ∣ later - number :=
    (Nat.modEq_iff_dvd' (Nat.le_of_lt before)).mp same.symm
  have large : capacity ≤ later - number :=
    Nat.le_of_dvd (Nat.sub_pos_of_lt before) divides
  omega

namespace Stores

variable {history : History} {capacity : Nat} {pushed : List Binary64}

theorem push (stores : history.Stores capacity pushed) (sample : Binary64) :
    (history.push sample).Stores capacity (pushed ++ [sample]) where
  capacity_eq := (capacity_push history sample).trans stores.capacity_eq
  written_eq := by
    rw [List.length_append, ← stores.written_eq]
    rfl
  sample_eq number found recent found_at := by
    rw [List.length_append, List.length_singleton] at recent
    rw [sample_push, stores.capacity_eq, stores.written_eq]
    rcases Nat.lt_or_ge number pushed.length with old | new
    · have apart : pushed.length % capacity ≠ number % capacity :=
        mod_ne_mod_of_lt old (by omega)
      rw [List.getElem?_append_left old] at found_at
      rw [if_neg apart]
      exact stores.sample_eq number found (by omega) found_at
    · have inside : number < pushed.length + 1 := by
        simpa using (List.getElem?_eq_some_iff.mp found_at).1
      have newest : number = pushed.length := by omega
      subst newest
      rw [List.getElem?_concat_length] at found_at
      rw [if_pos rfl]
      exact Option.some.inj found_at

theorem pushes (stores : history.Stores capacity pushed) (samples : List Binary64) :
    (samples.foldl History.push history).Stores capacity (pushed ++ samples) := by
  induction samples generalizing history pushed with
  | nil => simpa using stores
  | cons sample samples induction => simpa using induction (stores.push sample)

theorem size_eq (stores : history.Stores capacity pushed) :
    history.size = min pushed.length capacity := by
  rw [size, stores.written_eq, stores.capacity_eq]

theorem toList_eq (stores : history.Stores capacity pushed) :
    history.toList = pushed.drop (pushed.length - capacity) := by
  have start : pushed.length - min pushed.length capacity = pushed.length - capacity := by
    omega
  rw [toList, stores.size_eq, stores.written_eq, start]
  apply List.ext_getElem
  · rw [List.length_map, List.length_range', List.length_drop]
    omega
  · intro index _ inside
    rw [List.getElem_map, List.getElem_range', List.getElem_drop, Nat.one_mul]
    refine stores.sample_eq _ _ (by omega) (List.getElem?_eq_getElem _)

theorem last?_eq (stores : history.Stores capacity pushed) (positive : 0 < capacity) :
    history.last? = pushed.getLast? := by
  rw [last?, stores.written_eq, List.getLast?_eq_getElem?]
  split
  case isTrue empty => rw [List.getElem?_eq_none (by omega)]
  case isFalse nonempty =>
    have inside : pushed.length - 1 < pushed.length := by omega
    rw [List.getElem?_eq_getElem inside]
    exact congrArg some
      (stores.sample_eq _ _ (by omega) (List.getElem?_eq_getElem inside))

theorem shows (stores : history.Stores capacity pushed) (positive : 0 < capacity) :
    history.Shows capacity pushed := by
  have empty_iff : history.toList = [] ↔ pushed.length = 0 := by
    rw [stores.toList_eq, List.drop_eq_nil_iff]
    omega
  have length : history.toList.length = min pushed.length capacity := by
    rw [stores.toList_eq, List.length_drop]
    omega
  refine
    { toList_eq := stores.toList_eq
      length_toList := length
      size_eq := stores.size_eq.trans length.symm
      isEmpty_iff := ?_
      last?_eq := ?_
      written_eq := stores.written_eq
      capacity_eq := stores.capacity_eq
      max?_eq_none_iff := ?_ }
  · rw [isEmpty, stores.size_eq, beq_iff_eq]
    omega
  · rw [stores.last?_eq positive, stores.toList_eq, List.getLast?_drop]
    split
    case isTrue beyond =>
      have none : pushed = [] := List.length_eq_zero_iff.mp (by omega)
      rw [none]
      rfl
    case isFalse => rfl
  · rw [← empty_iff, max?]
    split <;> simp_all

end Stores

end History

namespace Display

theorem reader?_eq_some_iff (display : Display) (reader : Nat) :
    display.reader? reader = some display.history ↔ reader < display.readers := by
  rw [reader?]
  split <;> simp_all

theorem step_stores {display : Display} {capacity : Nat} {earlier : List Binary64}
    (stores : display.history.Stores capacity earlier) (action : Action) :
    ∃ next reply,
      display.step action = (next, reply) ∧
      next.history.Stores capacity (earlier ++ action.samples) ∧
      ∀ reader, reader < next.readers ↔ reader < display.readers ∨ some reader = reply := by
  have unchanged : display.history.Stores capacity (earlier ++ []) := by
    simpa using stores
  have opened (reader : Nat) : reader < display.readers + 1 ↔
      reader < display.readers ∨ some reader = some display.readers := by
    rw [Option.some.injEq]
    omega
  cases action with
  | push samples => exact ⟨_, _, rfl, stores.pushes samples, by simp [push]⟩
  | openReader => exact ⟨_, _, rfl, unchanged, opened⟩
  | copyReader original =>
      rw [step]
      cases display.reader? original with
      | none => exact ⟨_, _, rfl, unchanged, by simp⟩
      | some history => exact ⟨_, _, rfl, unchanged, opened⟩

theorem run_stores {display : Display} {capacity : Nat} {earlier : List Binary64}
    (stores : display.history.Stores capacity earlier) (actions : List Action) :
    ∃ last replies,
      display.run actions = (last, replies) ∧
      last.history.Stores capacity (earlier ++ Action.pushed actions) ∧
      ∀ reader, reader < last.readers ↔ reader < display.readers ∨ some reader ∈ replies := by
  induction actions generalizing display earlier with
  | nil => exact ⟨_, _, rfl, by simpa [Action.pushed] using stores, by simp⟩
  | cons action actions induction =>
      obtain ⟨next, reply, step_eq, nextStores, opened⟩ := step_stores stores action
      obtain ⟨last, replies, run_eq, lastStores, others⟩ := induction nextStores
      refine ⟨last, reply :: replies, ?_, ?_, ?_⟩
      · rw [run, step_eq]
        dsimp only
        rw [run_eq]
      · simpa [Action.pushed] using lastStores
      · intro reader
        rw [others, opened, List.mem_cons, or_assoc]

/-- A run from a new display leaves one history, for the first reader and for all that have
been opened. -/
theorem exists_history_of_run (requested : Nat) (actions : List Action) :
    ∃ last replies,
      (ofCapacity requested).run actions = (last, replies) ∧
      last.history.Stores (max requested 1) (Action.pushed actions) ∧
      ∀ reader, last.reader? reader = some last.history ↔
        reader = 0 ∨ some reader ∈ replies := by
  have initial : (ofCapacity requested).history.Stores (max requested 1) [] :=
    History.stores_ofCapacity requested
  obtain ⟨last, replies, run_eq, stores, readers⟩ := run_stores initial actions
  refine ⟨last, replies, run_eq, stores, ?_⟩
  intro reader
  have first : reader < (ofCapacity requested).readers ↔ reader = 0 := Nat.lt_one_iff
  rw [reader?_eq_some_iff, readers, first]

/-- Whenever a reader has been opened, it shows the samples that have most recently been
pushed, as many as there is room for. -/
theorem run_shows_recent (requested : Nat) (actions : List Action) :
    ∃ last replies history,
      (ofCapacity requested).run actions = (last, replies) ∧
      history.Shows (max requested 1) (Action.pushed actions) ∧
      ∀ reader, last.reader? reader = some history ↔ reader = 0 ∨ some reader ∈ replies := by
  obtain ⟨last, replies, run_eq, stores, readers⟩ := exists_history_of_run requested actions
  have positive : 0 < max requested 1 := by omega
  exact ⟨last, replies, last.history, run_eq, stores.shows positive, readers⟩

example : ((ofCapacity 0).run [.openReader, .push [.zero], .copyReader 1]).2 =
    [some 1, none, some 2] := rfl

end Display

end Readout
