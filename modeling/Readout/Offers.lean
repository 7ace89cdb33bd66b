import Readout.Collector

/-!
# Offers to a collector

Words are offered to a collector one after the other, and now and then the collector is
reset.  `Collector.assignment` says which words its parts end up with, part by part and
without following the collector from offer to offer.
-/

namespace Readout

/-- A word with the position at which it was found, if that is known. -/
structure Offer where
  word : Word
  position : Option Nat
deriving DecidableEq

def Filter.takes (filter : Filter) (offer : Offer) : Bool :=
  filter.matchesAt offer.word offer.position

namespace Collector

inductive Action where
  | offer (offer : Offer)
  | reset
deriving DecidableEq

/-- An offer is answered with whether the collector is complete after it. -/
def step (collector : Collector) : Action → Collector × Option Bool
  | .offer offer =>
      let next := collector.offer offer.word offer.position
      (next, some next.isComplete)
  | .reset => (collector.reset, none)

def run (collector : Collector) : List Action → Collector × List (Option Bool)
  | [] => (collector, [])
  | action :: actions =>
      let (next, reply) := collector.step action
      let (last, replies) := next.run actions
      (last, reply :: replies)

namespace Action

/-- The offers since the last reset, when some offers have been made before an action. -/
def note (offers : List Offer) : Action → List Offer
  | offer made => offers ++ [made]
  | reset => []

def sinceReset (actions : List Action) : List Offer :=
  actions.foldl note []

end Action

/-- The words of parts with the given filters.  The first part has the first offer that
its filter takes, and with this very offer left out the other parts have theirs. -/
def assignment : List Filter → List Offer → List (Option Word)
  | [], _ => []
  | filter :: filters, offers =>
      (offers.find? filter.takes).map Offer.word ::
        assignment filters (offers.eraseP filter.takes)

/-- No offer is taken by two filters at different places of a list. -/
def NoneShared (filters : List Filter) (offers : List Offer) : Prop :=
  filters.Pairwise fun filter other =>
    ∀ offer ∈ offers, ¬ (filter.takes offer = true ∧ other.takes offer = true)

instance (filters : List Filter) (offers : List Offer) :
    Decidable (NoneShared filters offers) :=
  inferInstanceAs (Decidable (List.Pairwise _ _))

/-- Whether there are parts and each of them has a word. -/
def covers (filters : List Filter) (offers : List Offer) : Bool :=
  !filters.isEmpty && (assignment filters offers).all Option.isSome

end Collector

end Readout
