import Readout.Slot

/-!
# Shares of a bracket

A bracket begins its event, gives modules their shares one after the other, and ends
its event.  The share of a module is what the module delivers there, region by region
in readout order.
-/

namespace Readout

/-- What a module delivers in a bracket. -/
structure Share where
  module : Nat
  parts : List (Region × List Word)
deriving DecidableEq

namespace Share

/-- The share of a module that delivers dynamic words between its fixed words; a region
without words has no part in it. -/
def around (module : Nat) (recorded : Regions) (words : List Word) : Share :=
  { module
    parts :=
      [(.leading, recorded.leading), (.dynamic, words), (.trailing, recorded.trailing)].filter
        fun part => !part.2.isEmpty }

def calls (event : Nat) (share : Share) : List Call :=
  share.parts.map fun part => Call.ofRegion part.1 event share.module part.2

def bracket (event : Nat) (shares : List Share) : List Call :=
  Call.beginEvent event :: shares.flatMap (calls event) ++ [Call.endEvent event]

@[simp]
theorem module_around (module : Nat) (recorded : Regions) (words : List Word) :
    (around module recorded words).module = module := rfl

theorem calls_around (event module : Nat) (recorded : Regions) (words : List Word) :
    (around module recorded words).calls event =
      Call.forWords .leading event module recorded.leading ++
        (Call.forWords .dynamic event module words ++
          Call.forWords .trailing event module recorded.trailing) := by
  have part : ∀ region : Region, ∀ words : List Word,
      ([(region, words)].filter fun part => !part.2.isEmpty).map
          (fun part => Call.ofRegion part.1 event module part.2) =
        Call.forWords region event module words := by
    intro region words
    cases words <;> rfl
  rw [← part, ← part, ← part, ← List.map_append, ← List.map_append, ← List.filter_append,
    ← List.filter_append]
  rfl

/-- The parts of a share around dynamic words hold words, and those of the fixed regions
are recorded. -/
theorem mem_parts_around {module : Nat} {recorded : Regions} {words : List Word}
    {part : Region × List Word} (member : part ∈ (around module recorded words).parts) :
    part.2 ≠ [] ∧ (part.1 = .leading → part.2 = recorded.leading) ∧
      (part.1 = .dynamic → part.2 = words) ∧
      (part.1 = .trailing → part.2 = recorded.trailing) := by
  obtain ⟨listed, nonempty⟩ := List.mem_filter.mp member
  refine ⟨by simpa using nonempty, ?_⟩
  simp only [List.mem_cons, List.not_mem_nil, or_false] at listed
  rcases listed with rfl | rfl | rfl <;> simp

end Share

end Readout
