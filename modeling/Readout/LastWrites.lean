import Readout.Session

/-!
# Last writes

While a cycle is open, the regions of its modules are recorded in any order and any
number of times, and all of them may be reset in between.  What a region should hold in
the end can be read from the last action backwards: the words of the first recording of
that region that is met before a reset.
-/

namespace Readout

namespace Region

def all : List Region :=
  [leading, dynamic, trailing]

@[simp]
theorem mem_all (region : Region) : region ∈ all := by
  cases region <;> decide

end Region

namespace Action

/-- The words that an action records for a region of a module. -/
def writes? (region : Region) (module : Nat) : Action → Option (List Word)
  | record written index words =>
      if written = region ∧ index = module then some words else none
  | _ => none

/-- The words of the last recording of a region of a module that no reset follows. -/
def lastWrite? (region : Region) (module : Nat) (actions : List Action) :
    Option (List Word) :=
  (actions.reverse.takeWhile fun action => action ≠ .reset).findSome?
    (writes? region module)

/-- One recording for every region of the first `count` modules that has last words. -/
def lastWrites (count : Nat) (actions : List Action) : List Action :=
  (List.range count).flatMap fun module =>
    Region.all.filterMap fun region =>
      (lastWrite? region module actions).map (record region module)

theorem writes?_eq_some_iff {region : Region} {module : Nat} {action : Action}
    {words : List Word} :
    writes? region module action = some words ↔ action = record region module words := by
  cases action with
  | record written index recorded =>
      simp only [writes?, Option.ite_none_right_eq_some, Option.some.injEq,
        Action.record.injEq, and_assoc]
  | _ => simp [writes?]

@[simp]
theorem lastWrite?_nil (region : Region) (module : Nat) : lastWrite? region module [] = none :=
  rfl

@[simp]
theorem lastWrite?_concat_reset (region : Region) (module : Nat) (actions : List Action) :
    lastWrite? region module (actions ++ [reset]) = none := by
  simp [lastWrite?]

@[simp]
theorem lastWrite?_concat_record (region written : Region) (module index : Nat)
    (actions : List Action) (words : List Word) :
    lastWrite? region module (actions ++ [record written index words]) =
      if written = region ∧ index = module then some words
      else lastWrite? region module actions := by
  rw [lastWrite?, List.reverse_append, List.reverse_singleton, List.singleton_append,
    List.takeWhile_cons_of_pos (by simp), List.findSome?_cons, writes?]
  by_cases same : written = region ∧ index = module
  · simp only [if_pos same]
  · simp only [if_neg same, lastWrite?]

@[simp]
theorem lastWrite?_concat_recorded (region : Region) (module index : Nat)
    (actions : List Action) :
    lastWrite? region module (actions ++ [recorded index]) =
      lastWrite? region module actions := by
  rw [lastWrite?, List.reverse_append, List.reverse_singleton, List.singleton_append,
    List.takeWhile_cons_of_pos (by simp), List.findSome?_cons]
  rfl

theorem mem_lastWrites_iff {count : Nat} {actions : List Action} {action : Action} :
    action ∈ lastWrites count actions ↔
      ∃ region module words, action = record region module words ∧ module < count ∧
        lastWrite? region module actions = some words := by
  simp only [lastWrites, List.mem_flatMap, List.mem_range, List.mem_filterMap, Region.mem_all,
    true_and, Option.map_eq_some_iff]
  constructor
  · rintro ⟨module, inside, region, words, last, rfl⟩
    exact ⟨region, module, words, rfl, inside, last⟩
  · rintro ⟨region, module, words, rfl, inside, last⟩
    exact ⟨module, inside, region, words, last, rfl⟩

end Action

end Readout
