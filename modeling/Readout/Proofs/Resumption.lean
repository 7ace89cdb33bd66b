import Mathlib.Data.List.DropRight
import Readout.Proofs.Grammar
import Readout.Proofs.Storage

/-!
# Going on behind a boundary

A buffer may end anywhere: behind a sub-event, inside one, or behind words that begin with
no header.  Whoever keeps the words that were not delivered and puts them in front of the
next buffer gets the sub-events of both buffers in one.
-/

namespace Readout

namespace Header

theorem remainder_suffix (header : Header) (words : List Word) :
    header.remainder words <:+ words :=
  ⟨(header.delivered words).flatten, header.delivered_append_remainder words⟩

theorem rtake_length_remainder (header : Header) (words : List Word) :
    words.rtake (header.remainder words).length = header.remainder words :=
  (List.suffix_iff_eq_drop.mp (header.remainder_suffix words)).symm

section Boundaries

variable {header : Header} (boundaries : header.marksBoundaries = true)
include boundaries

theorem front_append_of_subEvent {words taken rest : List Word}
    (front_eq : header.front words = .subEvent taken rest) (more : List Word) :
    header.front (words ++ more) = .subEvent taken (rest ++ more) := by
  obtain ⟨valid, words_eq⟩ := (front_eq_subEvent_iff boundaries).mp front_eq
  rw [front_eq_subEvent_iff boundaries, words_eq, List.append_assoc]
  exact ⟨valid, rfl⟩

/-- What words deliver is delivered again with more words behind them, and cutting goes on
at their remainder. -/
theorem delivered_append (words more : List Word) :
    header.delivered (words ++ more) =
        header.delivered words ++ header.delivered (header.remainder words ++ more) ∧
      header.remainder (words ++ more) =
        header.remainder (header.remainder words ++ more) := by
  induction words using front_induction header with
  | unmatched words front_eq =>
      rw [delivered_of_unmatched front_eq, remainder_of_unmatched front_eq]
      exact ⟨rfl, rfl⟩
  | truncated words length front_eq =>
      rw [delivered_of_truncated front_eq, remainder_of_truncated front_eq]
      exact ⟨rfl, rfl⟩
  | subEvent words taken rest front_eq induction =>
      have front_eq' := front_append_of_subEvent boundaries front_eq more
      rw [delivered_of_subEvent front_eq', delivered_of_subEvent front_eq,
        remainder_of_subEvent front_eq', remainder_of_subEvent front_eq, List.cons_append]
      exact ⟨congrArg (taken :: ·) induction.1, induction.2⟩

end Boundaries

end Header

namespace Engine

/-- The open cycle is that of an event slot in which a module has a pattern, and holds
dynamic words for this module. -/
def Feeds (engine : Engine) (event module : Nat) (pattern : String) (words : List Word) :
    Prop :=
  ∃ patterns slotPatterns cycle recorded,
    Reachable patterns engine ∧
    engine.cycle = some cycle ∧
    cycle.event = event ∧
    patterns[event]? = some slotPatterns ∧
    slotPatterns[module]? = some pattern ∧
    cycle.recorded? module = some recorded ∧
    recorded.dynamic = words

/-- Ending the open cycle delivers sub-events for a module and counts `left` more of its
words as unconsumed. -/
def Yields (engine : Engine) (event module : Nat) (subEvents : List (List Word)) (left : Nat) :
    Prop :=
  ∃ ended report before after,
    engine.step .finish = .ok (ended, .finished report) ∧
    Call.dynamicWords event module report.calls = subEvents ∧
    engine.tally.module? event module = some before ∧
    ended.tally.module? event module = some after ∧
    after.unconsumedWords = before.unconsumedWords + left

theorem Yields.unique {engine : Engine} {event module left otherLeft : Nat}
    {subEvents others : List (List Word)} (yields : engine.Yields event module subEvents left)
    (otherYields : engine.Yields event module others otherLeft) :
    subEvents = others ∧ left = otherLeft := by
  obtain ⟨ended, report, before, after, step_eq, rfl, before_at, after_at, gain⟩ := yields
  obtain ⟨_, _, _, _, otherStep_eq, rfl, otherBefore_at, otherAfter_at, otherGain⟩ := otherYields
  cases step_eq.symm.trans otherStep_eq
  cases before_at.symm.trans otherBefore_at
  cases after_at.symm.trans otherAfter_at
  exact ⟨rfl, Nat.add_left_cancel (gain.symm.trans otherGain)⟩

theorem yields_of_feeds {engine : Engine} {event module : Nat} {pattern : String}
    {words : List Word} (fixed : '0' ∈ pattern.toList ∨ '1' ∈ pattern.toList)
    (feeds : engine.Feeds event module pattern words) :
    ∃ header, Header.compile pattern = .ok header ∧ header.marksBoundaries = true ∧
      engine.Yields event module (header.delivered words) (header.remainder words).length := by
  obtain ⟨patterns, slotPatterns, cycle, recorded, reachable, opened, rfl, slotPatterns_at,
    pattern_at, recorded_at, rfl⟩ := feeds
  obtain ⟨header, sameRecorded, ended, report, before, compiled, boundaries, sameRecorded_at,
    ends, words_eq⟩ :=
    exists_ends_of_digit reachable.consistent opened slotPatterns_at pattern_at fixed
  cases recorded_at.symm.trans sameRecorded_at
  exact ⟨header, compiled, boundaries, ended, report, before, _, ends.finished, words_eq,
    ends.before_at, ends.after_at, rfl⟩

/-- A module that is fed two lists of words at once delivers what it delivers for the first
one alone, followed by what it delivers for the words left over with the second one behind
them; and both ways the same words are left over in the end. -/
theorem finish_resumes {pattern : String} {first whole : Engine}
    {firstEvent firstModule wholeEvent wholeModule : Nat} {words more : List Word}
    (fixed : '0' ∈ pattern.toList ∨ '1' ∈ pattern.toList)
    (firstFeeds : first.Feeds firstEvent firstModule pattern words)
    (wholeFeeds : whole.Feeds wholeEvent wholeModule pattern (words ++ more)) :
    ∃ delivered left all lost,
      first.Yields firstEvent firstModule delivered left ∧
      left ≤ words.length ∧
      whole.Yields wholeEvent wholeModule all lost ∧
      delivered <+: all ∧
      ∀ second secondEvent secondModule,
        Feeds second secondEvent secondModule pattern (words.rtake left ++ more) →
        ∃ later,
          second.Yields secondEvent secondModule later lost ∧
          all = delivered ++ later ∧
          (words ++ more).rtake lost = (words.rtake left ++ more).rtake lost := by
  obtain ⟨header, compiled, boundaries, firstYields⟩ := yields_of_feeds fixed firstFeeds
  obtain ⟨sameHeader, sameCompiled, -, wholeYields⟩ := yields_of_feeds fixed wholeFeeds
  cases compiled.symm.trans sameCompiled
  obtain ⟨delivered_eq, remainder_eq⟩ := Header.delivered_append boundaries words more
  refine ⟨_, _, _, _, firstYields, (header.remainder_suffix words).length_le, wholeYields,
    ⟨_, delivered_eq.symm⟩, ?_⟩
  rw [header.rtake_length_remainder words]
  intro second secondEvent secondModule secondFeeds
  obtain ⟨otherHeader, otherCompiled, -, secondYields⟩ := yields_of_feeds fixed secondFeeds
  cases compiled.symm.trans otherCompiled
  refine ⟨_, remainder_eq ▸ secondYields, delivered_eq, ?_⟩
  rw [header.rtake_length_remainder, remainder_eq, header.rtake_length_remainder]

/-- The boundary lies inside the second sub-event. -/
theorem finish_resumes_inside_sub_event :
    ∃ first second whole : Engine,
      ('0' ∈ "1SSS".toList ∨ '1' ∈ "1SSS".toList) ∧
      first.Feeds 0 0 "1SSS" [10, 1, 2, 11, 4] ∧
      second.Feeds 0 0 "1SSS" [11, 4, 5, 6, 8, 0] ∧
      whole.Feeds 0 0 "1SSS" [10, 1, 2, 11, 4, 5, 6, 8, 0] ∧
      first.Yields 0 0 [[10, 1, 2]] 2 ∧
      second.Yields 0 0 [[11, 4, 5, 6], [8]] 1 ∧
      whole.Yields 0 0 [[10, 1, 2], [11, 4, 5, 6], [8]] 1 := by
  have fixed : '0' ∈ "1SSS".toList ∨ '1' ∈ "1SSS".toList := .inr (by decide)
  have feeds : ∀ words, ∃ engine : Engine, engine.Feeds 0 0 "1SSS" words := fun words =>
    ⟨_, [["1SSS"]], _, _, _, ⟨_, [.start 0, .record .dynamic 0 words], _, rfl, rfl⟩, rfl, rfl,
      rfl, rfl, rfl, rfl⟩
  obtain ⟨first, firstFeeds⟩ := feeds [10, 1, 2, 11, 4]
  obtain ⟨second, secondFeeds⟩ := feeds [11, 4, 5, 6, 8, 0]
  obtain ⟨whole, wholeFeeds⟩ := feeds ([10, 1, 2, 11, 4] ++ [5, 6, 8, 0])
  obtain ⟨delivered, left, all, lost, firstYields, -, wholeYields, -, resumes⟩ :=
    finish_resumes fixed firstFeeds wholeFeeds
  obtain ⟨header, compiled, -, firstCuts⟩ := yields_of_feeds fixed firstFeeds
  obtain ⟨sameHeader, sameCompiled, -, secondCuts⟩ := yields_of_feeds fixed secondFeeds
  cases compiled
  cases sameCompiled
  have left_eq : left = 2 := (firstYields.unique firstCuts).2.trans (by decide +kernel)
  have delivered_eq : delivered = [[10, 1, 2]] :=
    (firstYields.unique firstCuts).1.trans (by decide +kernel)
  subst left_eq delivered_eq
  obtain ⟨later, secondYields, rfl, -⟩ := resumes second 0 0 secondFeeds
  have later_eq : later = [[11, 4, 5, 6], [8]] :=
    (secondYields.unique secondCuts).1.trans (by decide +kernel)
  have lost_eq : lost = 1 := (secondYields.unique secondCuts).2.trans (by decide +kernel)
  subst later_eq lost_eq
  exact ⟨first, second, whole, fixed, firstFeeds, secondFeeds, wholeFeeds, firstYields,
    secondYields, wholeYields⟩

end Engine

end Readout
