import Readout.Offers

/-!
# What a collector keeps

A collector gives every offer to the first part that wants it.  Seen from one part, this
means that the part gets the offers that no earlier part keeps, and keeps the first one
that its filter takes.  So the state of a collector is a function of its filters and the
offers since the last reset.
-/

namespace Readout

namespace Collector

/-- The parts with the given filters that hold what is assigned to them. -/
def partsAfter (filters : List Filter) (offers : List Offer) : List Part :=
  List.zipWith Part.mk filters (assignment filters offers)

/-- The collector with the given filters after offers to empty parts. -/
def after (filters : List Filter) (offers : List Offer) : Collector :=
  ⟨partsAfter filters offers⟩

theorem map_word_partsAfter (filters : List Filter) (offers : List Offer) :
    (partsAfter filters offers).map Part.word = assignment filters offers := by
  induction filters generalizing offers with
  | nil => rfl
  | cons filter filters induction => exact congrArg (_ :: ·) (induction _)

theorem map_filter_partsAfter (filters : List Filter) (offers : List Offer) :
    (partsAfter filters offers).map Part.filter = filters := by
  induction filters generalizing offers with
  | nil => rfl
  | cons filter filters induction => exact congrArg (filter :: ·) (induction _)

theorem partsAfter_nil (filters : List Filter) :
    partsAfter filters [] = filters.map fun filter => ⟨filter, none⟩ := by
  induction filters with
  | nil => rfl
  | cons filter filters induction => exact congrArg (_ :: ·) induction

theorem keepFirst_of_word (offer : Offer) (filter : Filter) (word : Word)
    (parts : List Part) :
    keepFirst offer.word offer.position (⟨filter, some word⟩ :: parts) =
      ⟨filter, some word⟩ :: keepFirst offer.word offer.position parts := rfl

theorem keepFirst_of_takes {offer : Offer} {filter : Filter}
    (takes : filter.takes offer = true) (parts : List Part) :
    keepFirst offer.word offer.position (⟨filter, none⟩ :: parts) =
      ⟨filter, some offer.word⟩ :: parts := by
  have accepts : Part.accepts ⟨filter, none⟩ offer.word offer.position = true := takes
  rw [keepFirst, if_pos accepts]

theorem keepFirst_of_not_takes {offer : Offer} {filter : Filter}
    (refused : filter.takes offer = false) (parts : List Part) :
    keepFirst offer.word offer.position (⟨filter, none⟩ :: parts) =
      ⟨filter, none⟩ :: keepFirst offer.word offer.position parts := by
  have refuses : Part.accepts ⟨filter, none⟩ offer.word offer.position = false := refused
  rw [keepFirst, refuses]
  rfl

/-- One more offer leads from what is assigned before it to what is assigned with it. -/
theorem keepFirst_partsAfter (filters : List Filter) (offers : List Offer) (offer : Offer) :
    keepFirst offer.word offer.position (partsAfter filters offers) =
      partsAfter filters (offers ++ [offer]) := by
  induction filters generalizing offers with
  | nil => rfl
  | cons filter filters induction =>
      have parts (offers : List Offer) : partsAfter (filter :: filters) offers =
          ⟨filter, (offers.find? filter.takes).map Offer.word⟩ ::
            partsAfter filters (offers.eraseP filter.takes) := rfl
      rw [parts, parts, List.find?_append, List.eraseP_append]
      cases held : offers.find? filter.takes with
      | some kept =>
          have taken : offers.any filter.takes = true :=
            List.any_eq_true.mpr ⟨kept, List.mem_of_find?_eq_some held, List.find?_some held⟩
          rw [if_pos taken, Option.map_some, keepFirst_of_word, induction]
          rfl
      | none =>
          have untaken : ¬ offers.any filter.takes = true := by
            simpa using List.find?_eq_none.mp held
          rw [if_neg untaken, List.eraseP_of_forall_not (List.find?_eq_none.mp held)]
          cases takes : filter.takes offer with
          | true =>
              rw [Option.map_none, keepFirst_of_takes takes]
              simp [takes]
          | false =>
              rw [Option.map_none, keepFirst_of_not_takes takes, induction]
              simp [takes]

theorem isComplete_after (filters : List Filter) (offers : List Offer) :
    (after filters offers).isComplete = covers filters offers := by
  have empty : (partsAfter filters offers).isEmpty = filters.isEmpty := by
    simpa only [List.isEmpty_map] using
      congrArg List.isEmpty (map_filter_partsAfter filters offers)
  rw [isComplete, covers, ← empty, ← map_word_partsAfter, List.all_map]
  rfl

theorem reset_after (filters : List Filter) (offers : List Offer) :
    (after filters offers).reset = after filters [] := by
  have emptied : (partsAfter filters offers).map (fun part => { part with word := none }) =
      ((partsAfter filters offers).map Part.filter).map fun filter => ⟨filter, none⟩ := by
    rw [List.map_map]
    rfl
  rw [map_filter_partsAfter, ← partsAfter_nil] at emptied
  exact congrArg Collector.mk emptied

theorem step_after (filters : List Filter) (offers : List Offer) (action : Action) :
    (after filters offers).step action =
      (after filters (action.note offers),
        match action with
        | .offer offer => some (covers filters (offers ++ [offer]))
        | .reset => none) := by
  cases action with
  | offer offer =>
      have next : (after filters offers).offer offer.word offer.position =
          after filters (offers ++ [offer]) :=
        congrArg Collector.mk (keepFirst_partsAfter filters offers offer)
      rw [step, next, isComplete_after]
      rfl
  | reset =>
      rw [step, reset_after]
      rfl

theorem run_after (filters : List Filter) (offers : List Offer) (actions : List Action) :
    ((after filters offers).run actions).1 =
      after filters (actions.foldl Action.note offers) := by
  induction actions generalizing offers with
  | nil => rfl
  | cons action actions induction =>
      rw [run, step_after]
      exact induction (action.note offers)

theorem replies_after (filters : List Filter) (offers : List Offer) {actions : List Action}
    {index : Nat} {offer : Offer} (offer_at : actions[index]? = some (.offer offer)) :
    ((after filters offers).run actions).2[index]? =
      some (some (covers filters ((actions.take (index + 1)).foldl Action.note offers))) := by
  induction actions generalizing offers index with
  | nil => cases offer_at
  | cons action actions induction =>
      rw [run, step_after]
      cases index with
      | zero =>
          cases offer_at
          rfl
      | succ index => exact induction (action.note offers) offer_at

theorem ofFilters_eq_after {filters : List Filter} {collector : Collector}
    (built : ofFilters filters = .ok collector) : collector = after filters [] := by
  rw [ofFilters] at built
  split at built
  · cases built
    rw [after, partsAfter_nil]
  · cases built

theorem keepFirst_of_full {parts : List Part}
    (full : ∀ part ∈ parts, part.word.isSome = true) (word : Word) (position : Option Nat) :
    keepFirst word position parts = parts := by
  induction parts with
  | nil => rfl
  | cons part parts induction =>
      obtain ⟨here, others⟩ := List.forall_mem_cons.mp full
      have refuses : part.accepts word position = false := by
        simp [Part.accepts, Option.isNone_eq_false_iff.mpr here]
      rw [keepFirst, refuses, induction others]
      rfl

theorem run_offers_of_isComplete {collector : Collector}
    (complete : collector.isComplete = true) (offers : List Offer) :
    collector.run (offers.map .offer) = (collector, offers.map fun _ => some true) := by
  induction offers with
  | nil => rfl
  | cons offer offers induction =>
      have full : ∀ part ∈ collector.parts, part.word.isSome = true := by
        rw [isComplete, Bool.and_eq_true] at complete
        exact List.all_eq_true.mp complete.2
      have unchanged : collector.offer offer.word offer.position = collector :=
        congrArg Collector.mk (keepFirst_of_full full offer.word offer.position)
      have stays : collector.step (.offer offer) = (collector, some true) := by
        rw [step, unchanged, complete]
      simp only [List.map_cons, run, stays, induction]

/-- An item that is left out because of one test is not missed by a test that no item
passes together with it. -/
theorem find?_eraseP_of_disjoint {offers : List Offer} {first second : Offer → Bool}
    (disjoint : ∀ offer ∈ offers, ¬ (first offer = true ∧ second offer = true)) :
    (offers.eraseP first).find? second = offers.find? second := by
  induction offers with
  | nil => rfl
  | cons offer offers induction =>
      obtain ⟨here, others⟩ := List.forall_mem_cons.mp disjoint
      cases erased : first offer with
      | true =>
          have missed : second offer = false := by
            simpa [erased] using here
          rw [List.eraseP_cons_of_pos erased, List.find?_cons, missed]
      | false =>
          rw [List.eraseP_cons_of_neg (by simp [erased]), List.find?_cons, List.find?_cons,
            induction others]

theorem assignment_of_noneShared {filters : List Filter} {offers : List Offer}
    (noneShared : NoneShared filters offers) :
    assignment filters offers =
      filters.map fun filter => (offers.find? filter.takes).map Offer.word := by
  induction filters generalizing offers with
  | nil => rfl
  | cons filter filters induction =>
      obtain ⟨here, others⟩ := List.pairwise_cons.mp noneShared
      have remaining : NoneShared filters (offers.eraseP filter.takes) := by
        refine List.Pairwise.imp ?_ others
        intro first second apart offer member
        exact apart offer (List.mem_of_mem_eraseP member)
      rw [assignment, induction remaining, List.map_cons]
      congr 1
      apply List.map_congr_left
      intro other member
      rw [find?_eraseP_of_disjoint (here other member)]

/-- Without shared offers, what the parts hold depends only on the offers that each
filter takes, in their order. -/
theorem after_eq_of_same_taken {filters : List Filter} {offers others : List Offer}
    (noneShared : NoneShared filters offers)
    (same : ∀ filter ∈ filters, others.filter filter.takes = offers.filter filter.takes) :
    after filters others = after filters offers := by
  have othersNoneShared : NoneShared filters others := by
    refine List.Pairwise.imp_of_mem ?_ noneShared
    intro first second firstMember _ apart offer member taken
    have found : offer ∈ others.filter first.takes :=
      List.mem_filter.mpr ⟨member, taken.1⟩
    rw [same first firstMember] at found
    exact apart offer (List.mem_filter.mp found).1 taken
  have words : assignment filters others = assignment filters offers := by
    rw [assignment_of_noneShared othersNoneShared, assignment_of_noneShared noneShared]
    apply List.map_congr_left
    intro filter member
    rw [← List.head?_filter, ← List.head?_filter, same filter member]
  rw [after, after, partsAfter, partsAfter, words]

/-- After every run the parts of a collector hold what is assigned to them by the offers
since the last reset.  All offers of the run have been answered with whether the offers
up to there cover the filters; a value can be read exactly if they do, and then further
offers change nothing.  If no offer is taken by two filters, the order of offers that
different filters take does not matter. -/
theorem run_holds_assignment {filters : List Filter} {collector : Collector}
    (built : ofFilters filters = .ok collector) (actions : List Action) :
    ∃ last replies,
      collector.run actions = (last, replies) ∧
      last.filters = filters ∧
      last.words = assignment filters (Action.sinceReset actions) ∧
      last.isComplete = covers filters (Action.sinceReset actions) ∧
      (∀ index offer, actions[index]? = some (.offer offer) →
        replies[index]? =
          some (some (covers filters (Action.sinceReset (actions.take (index + 1)))))) ∧
      (∀ fields, (last.extract fields).isSome = last.isComplete) ∧
      (last.isComplete = true → ∀ offers : List Offer,
        last.run (offers.map .offer) = (last, offers.map fun _ => some true)) ∧
      (NoneShared filters (Action.sinceReset actions) → ∀ others,
        (∀ filter ∈ filters,
          (Action.sinceReset others).filter filter.takes =
            (Action.sinceReset actions).filter filter.takes) →
        (collector.run others).1 = last) := by
  cases ofFilters_eq_after built
  have last_eq (actions : List Action) : ((after filters []).run actions).1 =
      after filters (Action.sinceReset actions) := run_after filters [] actions
  refine ⟨_, _, rfl, ?_, ?_, ?_, ?_, ?_, ?_, ?_⟩
  · rw [last_eq]
    exact map_filter_partsAfter filters _
  · rw [last_eq]
    exact map_word_partsAfter filters _
  · rw [last_eq]
    exact isComplete_after filters _
  · intro index offer offer_at
    exact replies_after filters [] offer_at
  · intro fields
    rw [extract]
    split <;> simp_all
  · exact run_offers_of_isComplete
  · intro noneShared others same
    rw [last_eq, last_eq]
    exact after_eq_of_same_taken noneShared same

/-- The second word comes first after a reset, and another run brings it last. -/
theorem run_holds_assignment_interleaved :
    ∃ low high collector last,
      Filter.compile "10D" none = .ok low ∧
      Filter.compile "11D" none = .ok high ∧
      ofFilters [low, high] = .ok collector ∧
      (collector.run [.offer ⟨6, none⟩, .reset, .offer ⟨7, none⟩, .offer ⟨1, none⟩,
        .offer ⟨4, none⟩, .offer ⟨5, none⟩]).1 = last ∧
      last.words = [some 4, some 7] ∧
      last.isComplete = true ∧
      (collector.run [.offer ⟨4, none⟩, .offer ⟨5, none⟩, .offer ⟨7, none⟩]).1 = last := by
  have built : ofFilters [Filter.ofLetters ['D', '0', '1'] none,
      Filter.ofLetters ['D', '1', '1'] none] = .ok ⟨[
        ⟨Filter.ofLetters ['D', '0', '1'] none, none⟩,
        ⟨Filter.ofLetters ['D', '1', '1'] none, none⟩]⟩ := rfl
  obtain ⟨last, replies, run_eq, -, words, complete, -, -, -, others⟩ :=
    run_holds_assignment built [.offer ⟨6, none⟩, .reset, .offer ⟨7, none⟩,
      .offer ⟨1, none⟩, .offer ⟨4, none⟩, .offer ⟨5, none⟩]
  refine ⟨_, _, _, last, rfl, rfl, built, congrArg Prod.fst run_eq, words.trans ?_,
    complete.trans ?_, others ?_ _ ?_⟩
  · decide
  · decide
  · decide
  · decide

end Collector

end Readout
