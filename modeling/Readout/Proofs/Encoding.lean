import Readout.Proofs.Grammar

/-!
# Writing sub-events and splitting them again

A written header matches its filter and its size field reads back the length that
was put into it, whatever noise fills the free bits.  So a written buffer is read as
the sub-events it was written from.  A buffer that is cut off anywhere is read as
those that end before the cut.
-/

namespace Readout

/-- The sub-events that end within the first `count` words of a buffer. -/
def endingWithin : (count : Nat) → List (List Word) → List (List Word)
  | _, [] => []
  | count, subEvent :: later =>
      if subEvent.length ≤ count then
        subEvent :: endingWithin (count - subEvent.length) later
      else []

/-- The words behind them among the first `count` words. -/
def brokenTail : (count : Nat) → List (List Word) → List Word
  | _, [] => []
  | count, subEvent :: later =>
      if subEvent.length ≤ count then brokenTail (count - subEvent.length) later
      else subEvent.take count

/-- The first `count` words of a buffer end inside a sub-event. -/
def EndsInside (count : Nat) (subEvents : List (List Word)) : Prop :=
  ∃ before subEvent after,
    subEvents = before ++ subEvent :: after ∧
      before.flatten.length < count ∧
      count < before.flatten.length + subEvent.length

theorem take_flatten_eq_endingWithin (count : Nat) (subEvents : List (List Word)) :
    subEvents.flatten.take count =
      (endingWithin count subEvents).flatten ++ brokenTail count subEvents := by
  induction subEvents generalizing count with
  | nil => simp [endingWithin, brokenTail]
  | cons subEvent later induction =>
      rw [endingWithin, brokenTail, List.flatten_cons, List.take_append]
      by_cases ending : subEvent.length ≤ count
      · rw [if_pos ending, if_pos ending, List.take_of_length_le ending, induction,
          List.flatten_cons, List.append_assoc]
      · have none_later : count - subEvent.length = 0 := by omega
        rw [if_neg ending, if_neg ending, none_later]
        simp

theorem endsInside_cons_of_le {count : Nat} {subEvent : List Word}
    {later : List (List Word)} (ending : subEvent.length ≤ count) :
    EndsInside count (subEvent :: later) ↔
      EndsInside (count - subEvent.length) later := by
  constructor
  · rintro ⟨before, broken, after, subEvents_eq, above, below⟩
    cases before with
    | nil =>
        cases subEvents_eq
        simp only [List.flatten_nil, List.length_nil] at below
        omega
    | cons first before =>
        cases subEvents_eq
        simp only [List.flatten_cons, List.length_append] at above below
        exact ⟨before, broken, after, rfl, by omega, by omega⟩
  · rintro ⟨before, broken, after, rfl, above, below⟩
    refine ⟨subEvent :: before, broken, after, rfl, ?_, ?_⟩
    · rw [List.flatten_cons, List.length_append]
      omega
    · rw [List.flatten_cons, List.length_append]
      omega

theorem endsInside_cons_of_lt {count : Nat} {subEvent : List Word}
    {later : List (List Word)} (broken : count < subEvent.length) :
    EndsInside count (subEvent :: later) ↔ 0 < count := by
  constructor
  · rintro ⟨before, -, -, -, above, -⟩
    exact Nat.lt_of_le_of_lt (Nat.zero_le _) above
  · intro positive
    exact ⟨[], subEvent, later, rfl, positive, by simpa using broken⟩

theorem endsInside_iff (count : Nat) (subEvents : List (List Word)) :
    EndsInside count subEvents ↔ brokenTail count subEvents ≠ [] := by
  induction subEvents generalizing count with
  | nil =>
      constructor
      · rintro ⟨before, subEvent, after, subEvents_eq, -, -⟩
        simp at subEvents_eq
      · intro nonempty
        exact (nonempty rfl).elim
  | cons subEvent later induction =>
      rw [brokenTail]
      by_cases ending : subEvent.length ≤ count
      · rw [if_pos ending, endsInside_cons_of_le ending, induction]
      · have broken := Nat.lt_of_not_le ending
        rw [if_neg ending, endsInside_cons_of_lt broken, ← List.length_pos_iff,
          List.length_take, Nat.min_eq_left (Nat.le_of_lt broken)]

theorem endingWithin_of_le {count : Nat} {subEvents : List (List Word)}
    (whole : subEvents.flatten.length ≤ count) :
    endingWithin count subEvents = subEvents ∧ brokenTail count subEvents = [] := by
  induction subEvents generalizing count with
  | nil => exact ⟨rfl, rfl⟩
  | cons subEvent later induction =>
      rw [List.flatten_cons, List.length_append] at whole
      have ending : subEvent.length ≤ count := by omega
      have whole_later : later.flatten.length ≤ count - subEvent.length := by omega
      obtain ⟨kept, tail_eq⟩ := induction whole_later
      rw [endingWithin, brokenTail, if_pos ending, if_pos ending, kept]
      exact ⟨rfl, tail_eq⟩

namespace Header

/-- A sub-event that begins another one is that other one. -/
theorem IsSubEvent.eq_of_prefix {header : Header} {front whole : List Word}
    (front_valid : header.IsSubEvent front) (whole_valid : header.IsSubEvent whole)
    (begins : front <+: whole) : front = whole := by
  cases front with
  | nil => exact (header.not_isSubEvent_nil front_valid).elim
  | cons word payload =>
      cases whole with
      | nil => exact (header.not_isSubEvent_nil whole_valid).elim
      | cons other otherPayload =>
          obtain ⟨rfl, payload_begins⟩ := List.cons_prefix_cons.mp begins
          have same := front_valid.2.trans whole_valid.2.symm
          rw [payload_begins.eq_of_length same]

/-- The first words of a buffer of complete sub-events are read as those that end
there, with the broken one as the rest. -/
theorem reads_take {header : Header} {subEvents : List (List Word)}
    (valid : ∀ subEvent ∈ subEvents, header.IsSubEvent subEvent) (count : Nat) :
    header.Reads (subEvents.flatten.take count) (endingWithin count subEvents)
      (brokenTail count subEvents) := by
  induction subEvents generalizing count with
  | nil =>
      refine ⟨by simp [endingWithin, brokenTail], by simp [endingWithin], ?_⟩
      intro front begins front_valid
      rw [List.prefix_nil.mp begins] at front_valid
      exact header.not_isSubEvent_nil front_valid
  | cons subEvent later induction =>
      have first_valid := valid subEvent List.mem_cons_self
      have later_valid : ∀ other ∈ later, header.IsSubEvent other :=
        fun other member => valid other (List.mem_cons_of_mem _ member)
      rw [take_flatten_eq_endingWithin, endingWithin, brokenTail]
      by_cases ending : subEvent.length ≤ count
      · have rest := induction later_valid (count - subEvent.length)
        rw [take_flatten_eq_endingWithin] at rest
        rw [if_pos ending, if_pos ending, List.flatten_cons, List.append_assoc]
        exact rest.cons first_valid
      · rw [if_neg ending, if_neg ending]
        refine ⟨rfl, by simp, ?_⟩
        intro front begins front_valid
        have inside := begins.trans (List.take_prefix count subEvent)
        have same := front_valid.eq_of_prefix first_valid inside
        have shorter := begins.length_le
        rw [same, List.length_take] at shorter
        omega

/-- What is left of a broken sub-event begins with its header. -/
theorem any_head?_brokenTail {header : Header} {subEvents : List (List Word)}
    (valid : ∀ subEvent ∈ subEvents, header.IsSubEvent subEvent) {count : Nat}
    (broken : EndsInside count subEvents) :
    (brokenTail count subEvents).head?.any header.filter.matchesWord = true := by
  induction subEvents generalizing count with
  | nil => exact ((endsInside_iff count []).mp broken rfl).elim
  | cons subEvent later induction =>
      have later_valid : ∀ other ∈ later, header.IsSubEvent other :=
        fun other member => valid other (List.mem_cons_of_mem _ member)
      rw [brokenTail]
      by_cases ending : subEvent.length ≤ count
      · rw [if_pos ending]
        exact induction later_valid ((endsInside_cons_of_le ending).mp broken)
      · have positive := (endsInside_cons_of_lt (Nat.lt_of_not_le ending)).mp broken
        rw [if_neg ending, List.head?_take, if_neg (Nat.ne_of_gt positive)]
        cases subEvent with
        | nil => exact (ending (Nat.zero_le _)).elim
        | cons word payload => exact (valid _ List.mem_cons_self).1

section Encoding

variable {pattern : String} {header : Header} (compiled : compile pattern = .ok header)
include compiled

theorem matchesWord_of_fixed {word : Word}
    (fixed : ∀ position, Word.bit header.filter.fixedMask position = true →
      Word.bit word position = Word.bit header.filter.fixedValue position) :
    header.filter.matchesWord word = true := by
  obtain ⟨letters, -, filter_eq, -⟩ := masks_of_compile compiled
  have masked : word &&& header.filter.fixedMask = header.filter.fixedValue := by
    apply Word.eq_of_bit_eq
    intro position _
    rw [Word.bit_and]
    cases set : Word.bit header.filter.fixedMask position with
    | true => rw [fixed position set, Bool.and_true]
    | false =>
        cases value : Word.bit header.filter.fixedValue position with
        | true =>
            rw [bit_fixedMask_of_fixedValue compiled value] at set
            cases set
        | false => rw [Bool.and_false]
  rw [filter_eq] at masked ⊢
  rw [Filter.matchesWord_ofLetters]
  exact beq_iff_eq.mpr masked

omit compiled in
theorem bit_encodeHeader (header : Header) (noise : Word) (length : Nat) {position : Nat}
    (inside : position < Word.size) :
    Word.bit (header.encodeHeader noise length) position =
      (Word.bit header.filter.fixedValue position ||
        (Word.bit header.size.mask position &&
          Word.bit (UInt32.ofNat length) (Word.rank header.size.mask position)) ||
        (Word.bit noise position &&
          !(Word.bit header.filter.fixedMask position ||
            Word.bit header.size.mask position))) := by
  rw [encodeHeader, freeMask, Word.bit_or, Word.bit_or, Word.bit_and,
    Word.bit_complement _ inside, Word.bit_or, Word.bit_deposit_rank _ _ inside]

theorem matchesWord_encodeHeader (noise : Word) (length : Nat) :
    header.filter.matchesWord (header.encodeHeader noise length) = true := by
  apply matchesWord_of_fixed compiled
  intro position fixed
  have free : Word.bit header.size.mask position = false := by
    cases sized : Word.bit header.size.mask position with
    | true =>
        rw [bit_fixedMask_of_size compiled sized] at fixed
        cases fixed
    | false => rfl
  rw [bit_encodeHeader header noise length (Word.inside_of_bit fixed), fixed, free]
  simp

theorem extract_encodeHeader (noise : Word) {length : Nat}
    (short : length < 2 ^ header.size.width) :
    (header.size.extract (header.encodeHeader noise length)).toNat = length := by
  have width_eq : header.size.width = Word.popcount header.size.mask := by
    rw [size_eq_ofMask compiled]
    rfl
  rw [width_eq] at short
  have bounded : length < 2 ^ 32 :=
    Nat.lt_of_lt_of_le short (Nat.pow_le_pow_right (by decide) (Word.popcount_le _))
  have number_eq : (UInt32.ofNat length).toNat = length :=
    UInt32.toNat_ofNat_of_lt' bounded
  -- On the size field neither the fixed bits nor the noise show.
  have same : ∀ position, Word.bit header.size.mask position = true →
      Word.bit (header.encodeHeader noise length) position =
        Word.bit (Word.deposit (UInt32.ofNat length) header.size.mask) position := by
    intro position sized
    have inside := Word.inside_of_bit sized
    have free := bit_fixedMask_of_size compiled sized
    have unset : Word.bit header.filter.fixedValue position = false := by
      cases value : Word.bit header.filter.fixedValue position with
      | true =>
          rw [bit_fixedMask_of_fixedValue compiled value] at free
          cases free
      | false => rfl
    rw [bit_encodeHeader header noise length inside, Word.bit_deposit_rank _ _ inside,
      unset, sized]
    simp
  rw [size_eq_ofMask compiled, Field.extract_ofMask, Word.gather_congr same,
    Word.gather_deposit (by rwa [number_eq]), number_eq]

theorem isSubEvent_of_mem_encodeAll {entries : List (Word × List Word)}
    (short : ∀ entry ∈ entries, entry.2.length < 2 ^ header.size.width) :
    ∀ subEvent ∈ header.encodeAll entries, header.IsSubEvent subEvent := by
  intro subEvent member
  obtain ⟨entry, entry_member, rfl⟩ := List.mem_map.mp member
  refine ⟨matchesWord_encodeHeader compiled entry.1 entry.2.length, ?_⟩
  exact (extract_encodeHeader compiled entry.1 (short entry entry_member)).symm

end Encoding

end Header

namespace Engine

/-- The beginning of a written buffer is split into the sub-events that end there.
Only a sub-event that is cut off counts as truncated, and only its words are left. -/
theorem finish_delivers_encoded {patterns : List (List String)} {engine : Engine}
    {cycle : Cycle} {slotPatterns : List String} {pattern : String} {module : Nat}
    {header : Header} {recorded : Regions} {entries : List (Word × List Word)}
    {count : Nat} (reachable : Reachable patterns engine)
    (opened : engine.cycle = some cycle)
    (slotPatterns_at : patterns[cycle.event]? = some slotPatterns)
    (pattern_at : slotPatterns[module]? = some pattern)
    (fixed : '0' ∈ pattern.toList ∨ '1' ∈ pattern.toList)
    (compiled : Header.compile pattern = .ok header)
    (short : ∀ entry ∈ entries, entry.2.length < 2 ^ header.size.width)
    (recorded_at : cycle.recorded? module = some recorded)
    (dynamic_eq : recorded.dynamic = (header.encodeAll entries).flatten.take count) :
    ∃ ended report before after,
      engine.Ends ended cycle.event module report before after ∧
      Call.dynamicWords cycle.event module report.calls =
        endingWithin count (header.encodeAll entries) ∧
      (EndsInside count (header.encodeAll entries) →
        after.truncated = before.truncated + 1) ∧
      (¬ EndsInside count (header.encodeAll entries) →
        after.truncated = before.truncated) ∧
      after.unconsumedWords + (endingWithin count (header.encodeAll entries)).flatten.length =
        before.unconsumedWords + recorded.dynamic.length ∧
      ((header.encodeAll entries).flatten.length ≤ count →
        Call.dynamicWords cycle.event module report.calls = header.encodeAll entries ∧
        after.truncated = before.truncated ∧
        after.unconsumedWords = before.unconsumedWords) := by
  obtain ⟨sameHeader, sameRecorded, ended, report, before, sameCompiled, boundaries,
    sameRecorded_at, ends, words⟩ :=
    exists_ends_of_digit reachable.consistent opened slotPatterns_at pattern_at fixed
  cases compiled.symm.trans sameCompiled
  cases recorded_at.symm.trans sameRecorded_at
  have valid := Header.isSubEvent_of_mem_encodeAll compiled short
  have reads := Header.reads_take valid count
  rw [← dynamic_eq] at reads
  obtain ⟨delivered_eq, remainder_eq⟩ := reads.eq_delivered boundaries
  have truncated_eq : (header.settle recorded.dynamic before).truncated =
      before.truncated +
        ((brokenTail count (header.encodeAll entries)).head?.any
          header.filter.matchesWord).toNat := by
    rw [remainder_eq, ← Header.starts_of_boundaries boundaries, Header.settle,
      Header.count_truncated_cuts]
  have unconsumed_eq : (header.settle recorded.dynamic before).unconsumedWords =
      before.unconsumedWords +
        (brokenTail count (header.encodeAll entries)).length := by
    rw [remainder_eq]
    rfl
  refine ⟨ended, report, before, _, ends, words.trans delivered_eq.symm, ?_, ?_, ?_, ?_⟩
  · intro broken
    rw [truncated_eq, Header.any_head?_brokenTail valid broken]
    rfl
  · intro unbroken
    have tail_eq : brokenTail count (header.encodeAll entries) = [] := by
      rwa [endsInside_iff, ne_eq, Decidable.not_not] at unbroken
    rw [truncated_eq, tail_eq]
    rfl
  · rw [unconsumed_eq, dynamic_eq, take_flatten_eq_endingWithin, List.length_append]
    omega
  · intro whole
    obtain ⟨kept, tail_eq⟩ := endingWithin_of_le whole
    refine ⟨?_, ?_, ?_⟩
    · rw [words, ← delivered_eq, kept]
    · rw [truncated_eq, tail_eq]
      rfl
    · rw [unconsumed_eq, tail_eq]
      rfl

/-- A scattered size field, noise in the free bits and payload words that match the
filter, cut off inside the last of three sub-events. -/
theorem finish_delivers_encoded_cut_off :
    ∃ built engine replies cycle header recorded ended report before after,
      (build [["", "S1S0S"]]).2 = .ok built ∧
      built.run [.start 0, .record .dynamic 1 [4294967276, 1, 2, 8, 237, 9]] =
        .ok (engine, replies) ∧
      engine.cycle = some cycle ∧
      Header.compile "S1S0S" = .ok header ∧
      cycle.recorded? 1 = some recorded ∧
      recorded.dynamic =
        (header.encodeAll [(4294967295, [1, 2]), (0, []), (240, [9, 13, 29])]).flatten.take
          6 ∧
      engine.Ends ended cycle.event 1 report before after ∧
      Call.dynamicWords cycle.event 1 report.calls = [[4294967276, 1, 2], [8]] ∧
      after.truncated = before.truncated + 1 ∧
      after.unconsumedWords = before.unconsumedWords + 2 := by
  have reachable : Reachable [["", "S1S0S"]] _ :=
    ⟨_, [.start 0, .record .dynamic 1 [4294967276, 1, 2, 8, 237, 9]], _, rfl, rfl⟩
  obtain ⟨ended, report, before, after, ends, words, truncated, -, unconsumed, -⟩ :=
    finish_delivers_encoded reachable rfl rfl
      (show ["", "S1S0S"][1]? = some "S1S0S" from rfl) (.inr (by decide)) rfl
      (show ∀ entry ∈ ([(4294967295, [1, 2]), (0, []), (240, [9, 13, 29])] :
        List (Word × List Word)), entry.2.length < 2 ^ 3 by decide)
      (show Cycle.recorded? _ 1 = some _ from rfl) (show _ = List.take 6 _ from rfl)
  have broken := truncated ((endsInside_iff _ _).mpr (by decide))
  exact ⟨_, _, _, _, _, _, ended, report, before, after, rfl, rfl, rfl, rfl, rfl, rfl, ends, words,
    broken,
    Nat.add_right_cancel (unconsumed.trans (Nat.add_assoc _ 2 4).symm)⟩

end Engine

end Readout
