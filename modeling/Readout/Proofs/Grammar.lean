import Readout.Proofs.Patterns
import Readout.Proofs.Storage
import Readout.SubEvent

/-!
# The grammar of a dynamic region

A dynamic region is read as complete sub-events followed by words that begin with
none.  There is exactly one such reading of any words, because a sub-event is
determined by its first word, and it is the one that splitting finds.
-/

namespace Readout

namespace Header

/-- Words are complete sub-events and a rest that begins with none. -/
structure Reads (header : Header) (words : List Word) (subEvents : List (List Word))
    (rest : List Word) : Prop where
  joined : words = subEvents.flatten ++ rest
  complete : ∀ subEvent ∈ subEvents, header.IsSubEvent subEvent
  ended : ∀ front, front <+: rest → ¬ header.IsSubEvent front

section Boundaries

variable {header : Header} (boundaries : header.marksBoundaries = true)
include boundaries

theorem accepts_of_boundaries (word : Word) :
    header.accepts word = header.filter.matchesWord word := by
  simp [accepts, boundaries]

theorem starts_of_boundaries (words : List Word) :
    header.starts words = words.head?.any header.filter.matchesWord := by
  cases words with
  | nil => rfl
  | cons word words => exact accepts_of_boundaries boundaries word

theorem front_eq_subEvent_iff {words taken rest : List Word} :
    header.front words = .subEvent taken rest ↔
      header.IsSubEvent taken ∧ words = taken ++ rest := by
  have fixed : header.filter.alwaysMatches = false := by
    simpa [marksBoundaries] using boundaries
  constructor
  · intro front_eq
    refine ⟨?_, (front_append front_eq).symm⟩
    cases words with
    | nil => cases front_eq
    | cons word words =>
        simp only [front_cons, fixed, Bool.false_eq_true, if_false] at front_eq
        split at front_eq
        · rename_i matched
          split at front_eq
          · rename_i fits
            cases front_eq
            exact ⟨matched, by rw [List.length_take, Nat.min_eq_left fits]⟩
          · cases front_eq
        · cases front_eq
  · rintro ⟨valid, rfl⟩
    cases taken with
    | nil => exact (header.not_isSubEvent_nil valid).elim
    | cons word payload =>
        obtain ⟨matched, length_eq⟩ := valid
        rw [List.cons_append, front_cons, if_neg (by simp [fixed]), if_pos matched,
          ← length_eq, if_pos (by simp), List.take_left, List.drop_left]

omit boundaries in
theorem Reads.cons {taken words rest : List Word} {subEvents : List (List Word)}
    (valid : header.IsSubEvent taken) (reads : header.Reads words subEvents rest) :
    header.Reads (taken ++ words) (taken :: subEvents) rest := by
  refine ⟨?_, ?_, reads.ended⟩
  · rw [reads.joined, List.flatten_cons, List.append_assoc]
  · intro subEvent member
    rcases List.mem_cons.mp member with first | later
    · exact first ▸ valid
    · exact reads.complete subEvent later

theorem reads_nil {words : List Word}
    (other : ∀ taken rest, header.front words ≠ .subEvent taken rest) :
    header.Reads words [] words := by
  refine ⟨rfl, ?_, ?_⟩
  · intro subEvent member
    cases member
  · rintro front ⟨rest, rfl⟩ valid
    exact other front rest ((front_eq_subEvent_iff boundaries).mpr ⟨valid, rfl⟩)

theorem reads_delivered (words : List Word) :
    header.Reads words (header.delivered words) (header.remainder words) := by
  induction words using front_induction header with
  | unmatched words front_eq =>
      rw [delivered_of_unmatched front_eq, remainder_of_unmatched front_eq]
      exact reads_nil boundaries (by simp [front_eq])
  | truncated words length front_eq =>
      rw [delivered_of_truncated front_eq, remainder_of_truncated front_eq]
      exact reads_nil boundaries (by simp [front_eq])
  | subEvent words taken rest front_eq induction =>
      obtain ⟨valid, words_eq⟩ := (front_eq_subEvent_iff boundaries).mp front_eq
      rw [delivered_of_subEvent front_eq, remainder_of_subEvent front_eq, words_eq]
      exact induction.cons valid

theorem Reads.eq_delivered {words rest : List Word} {subEvents : List (List Word)}
    (reads : header.Reads words subEvents rest) :
    subEvents = header.delivered words ∧ rest = header.remainder words := by
  induction subEvents generalizing words with
  | nil =>
      have words_eq : words = rest := by simpa using reads.joined
      subst words_eq
      have whole : header.delivered words = [] ∧ header.remainder words = words := by
        cases front_eq : header.front words with
        | unmatched =>
            exact ⟨delivered_of_unmatched front_eq, remainder_of_unmatched front_eq⟩
        | truncated length =>
            exact ⟨delivered_of_truncated front_eq, remainder_of_truncated front_eq⟩
        | subEvent taken later =>
            obtain ⟨valid, words_eq⟩ := (front_eq_subEvent_iff boundaries).mp front_eq
            exact (reads.ended taken ⟨later, words_eq.symm⟩ valid).elim
      exact ⟨whole.1.symm, whole.2.symm⟩
  | cons first subEvents induction =>
      have words_eq : words = first ++ (subEvents.flatten ++ rest) := by
        rw [reads.joined, List.flatten_cons, List.append_assoc]
      have valid := reads.complete first List.mem_cons_self
      have front_eq := (front_eq_subEvent_iff boundaries).mpr ⟨valid, words_eq⟩
      have later : header.Reads (subEvents.flatten ++ rest) subEvents rest :=
        ⟨rfl, fun subEvent member => reads.complete subEvent (List.mem_cons_of_mem _ member),
          reads.ended⟩
      obtain ⟨subEvents_eq, rest_eq⟩ := induction later
      rw [delivered_of_subEvent front_eq, remainder_of_subEvent front_eq, ← subEvents_eq,
        ← rest_eq]
      exact ⟨rfl, rfl⟩

end Boundaries

end Header

namespace Engine

/-- A module whose pattern fixes a bit delivers its sub-events and settles its
statistics at the end of every cycle of its slot. -/
theorem exists_ends_of_digit {patterns : List (List String)} {engine : Engine}
    {cycle : Cycle} {slotPatterns : List String} {pattern : String} {module : Nat}
    (consistent : engine.session.Consistent patterns) (opened : engine.cycle = some cycle)
    (slotPatterns_at : patterns[cycle.event]? = some slotPatterns)
    (pattern_at : slotPatterns[module]? = some pattern)
    (fixed : '0' ∈ pattern.toList ∨ '1' ∈ pattern.toList) :
    ∃ header recorded ended report before,
      Header.compile pattern = .ok header ∧
      header.marksBoundaries = true ∧
      cycle.recorded? module = some recorded ∧
      engine.Ends ended cycle.event module report before
        (header.settle recorded.dynamic before) ∧
      Call.dynamicWords cycle.event module report.calls =
        header.delivered recorded.dynamic := by
  obtain ⟨slot, counted, slot_at, -, fits⟩ := fits_of_opened consistent opened
  obtain ⟨header, compiled, header_at, splitting_eq⟩ :=
    Splitter.header_of_pattern consistent.splitter slotPatterns_at pattern_at slot_at
  have boundaries := Header.marksBoundaries_of_digit compiled fixed
  have splitting : slot.splitting = true := by
    rw [splitting_eq, List.any_eq_true]
    exact ⟨header, List.mem_of_getElem? header_at, boundaries⟩
  have inside : module < cycle.regions.length :=
    fits.regions ▸ (List.getElem?_eq_some_iff.mp header_at).1
  have recorded_at : cycle.recorded? module = some cycle.regions[module] :=
    List.getElem?_eq_getElem inside
  obtain ⟨sameSlot, sameHeader, ended, report, before, sameSlot_at, sameHeader_at, ends,
    words⟩ := exists_ends consistent opened recorded_at
  cases slot_at.symm.trans sameSlot_at
  cases header_at.symm.trans sameHeader_at
  rw [Slot.moduleTally, if_pos splitting] at ends
  rw [Slot.moduleWords, if_pos splitting] at words
  exact ⟨header, _, ended, report, before, compiled, boundaries, recorded_at, ends, words⟩

/-- The dynamic words of a module whose pattern fixes a bit have exactly one reading
by the grammar.  The calls deliver its sub-events, and the statistics count these and
the header that the rest may still begin with. -/
theorem finish_delivers_reading {patterns : List (List String)} {engine : Engine}
    {cycle : Cycle} {slotPatterns : List String} {pattern : String} {module : Nat}
    (reachable : Reachable patterns engine) (opened : engine.cycle = some cycle)
    (slotPatterns_at : patterns[cycle.event]? = some slotPatterns)
    (pattern_at : slotPatterns[module]? = some pattern)
    (fixed : '0' ∈ pattern.toList ∨ '1' ∈ pattern.toList) :
    ∃ header recorded ended report before after subEvents rest,
      Header.compile pattern = .ok header ∧
      cycle.recorded? module = some recorded ∧
      engine.Ends ended cycle.event module report before after ∧
      header.Reads recorded.dynamic subEvents rest ∧
      (∀ others otherRest, header.Reads recorded.dynamic others otherRest →
        others = subEvents ∧ otherRest = rest) ∧
      Call.dynamicWords cycle.event module report.calls = subEvents ∧
      after.truncated =
        before.truncated + (rest.head?.any header.filter.matchesWord).toNat ∧
      after.headerMatches =
        before.headerMatches +
          (subEvents.length + (rest.head?.any header.filter.matchesWord).toNat) := by
  obtain ⟨header, recorded, ended, report, before, compiled, boundaries, recorded_at, ends,
    words⟩ :=
    exists_ends_of_digit reachable.consistent opened slotPatterns_at pattern_at fixed
  refine ⟨header, recorded, ended, report, before, _, header.delivered recorded.dynamic,
    header.remainder recorded.dynamic, compiled, recorded_at, ends,
    Header.reads_delivered boundaries _, ?_, words, ?_, ?_⟩
  · intro others otherRest reads
    exact reads.eq_delivered boundaries
  · rw [← Header.starts_of_boundaries boundaries, Header.settle,
      Header.count_truncated_cuts]
  · rw [← Header.starts_of_boundaries boundaries, Header.settle, Header.length_cuts]

/-- A payload word that looks like a header, a sub-event of one word and a rest that
begins with a header whose size field is at its largest. -/
theorem finish_delivers_reading_large_size :
    ∃ built engine replies cycle header recorded ended report before after subEvents rest,
      (build [["1SSS"]]).2 = .ok built ∧
      built.run [.start 0, .record .dynamic 0 [10, 15, 3, 8, 15, 0]] = .ok (engine, replies) ∧
      engine.cycle = some cycle ∧
      [["1SSS"]][cycle.event]? = some ["1SSS"] ∧
      ("1SSS".toList.contains '0' || "1SSS".toList.contains '1') = true ∧
      Header.compile "1SSS" = .ok header ∧
      cycle.recorded? 0 = some recorded ∧
      engine.Ends ended cycle.event 0 report before after ∧
      header.Reads recorded.dynamic subEvents rest ∧
      Call.dynamicWords cycle.event 0 report.calls = subEvents ∧
      after.truncated =
        before.truncated + (rest.head?.any header.filter.matchesWord).toNat := by
  have reachable : Reachable [["1SSS"]] _ :=
    ⟨_, [.start 0, .record .dynamic 0 [10, 15, 3, 8, 15, 0]], _, rfl, rfl⟩
  obtain ⟨header, recorded, ended, report, before, after, subEvents, rest, compiled,
    recorded_at, ends, reads, -, words, truncated, -⟩ :=
    finish_delivers_reading reachable rfl rfl
      (show ["1SSS"][0]? = some "1SSS" from rfl) (.inr (by decide))
  exact ⟨_, _, _, _, header, recorded, ended, report, before, after, subEvents, rest, rfl, rfl,
    rfl, rfl, by decide, compiled, recorded_at, ends, reads, words, truncated⟩

end Engine

end Readout
