import Mathlib.Data.List.TakeWhile
import Readout.Proofs.Canonical
import Readout.Proofs.Faults

/-!
# Building from any patterns

A splitter is asked for by a nested list of header patterns, one list for each event slot.
It is built as a whole or not at all: the first pattern in reading order that is too long
ends the construction, after every slot in front of it has been logged.  A splitter that is
built has a slot for every list, a filter for every pattern and statistics that start at
zero, and the log ends with the totals.
-/

namespace Readout

namespace Slot

/-- Whether some pattern of a slot has a digit. -/
def FixesBit (slotPatterns : List String) : Prop :=
  ∃ pattern ∈ slotPatterns, '0' ∈ pattern.toList ∨ '1' ∈ pattern.toList

instance (slotPatterns : List String) : Decidable (FixesBit slotPatterns) :=
  inferInstanceAs (Decidable (∃ pattern ∈ slotPatterns, _ ∨ _))

def firstLong? (slotPatterns : List String) : Option String :=
  slotPatterns.find? fun pattern => ¬ Filter.IsShort pattern

/-- What is logged for a slot with the given patterns. -/
def noticeOf (event : Nat) (slotPatterns : List String) : Notice :=
  .compiled event slotPatterns.length (decide (FixesBit slotPatterns))
    (slotPatterns.map Filter.canonical)

end Slot

namespace Splitter

/-- The first pattern that is too long, slot by slot and module by module. -/
def firstLong? (patterns : List (List String)) : Option String :=
  Slot.firstLong? patterns.flatten

def slotsInFront (patterns : List (List String)) : List (List String) :=
  patterns.takeWhile fun slotPatterns => ∀ pattern ∈ slotPatterns, Filter.IsShort pattern

def widestOfPatterns (patterns : List (List String)) : Nat :=
  (patterns.map List.length).max?.getD 0

/-- A splitter that is built shows a slot for every list of patterns and a filter for every
pattern, nothing beyond them, and statistics at zero. -/
structure Mirrors (splitter : Splitter) (patterns : List (List String)) : Prop where
  eventCount_eq : splitter.eventCount = patterns.length
  moduleCount?_eq : ∀ event, splitter.moduleCount? event = patterns[event]?.map List.length
  filter?_eq : ∀ event module, (splitter.filter? event module).map Except.ok =
    (patterns[event]?.bind fun slotPatterns => slotPatterns[module]?).map fun pattern =>
      Filter.compile pattern none
  widest_eq : splitter.widest = widestOfPatterns patterns
  splitting?_eq : ∀ event, splitter.splitting? event =
    patterns[event]?.map fun slotPatterns => decide (Slot.FixesBit slotPatterns)
  tally_eq : splitter.tally = Tally.zero (patterns.map List.length)

end Splitter

namespace Filter

def tooLong (pattern : String) : FilterError :=
  .patternTooLong pattern (described pattern).length maxBits

theorem any_isFixed_iff (pattern : String) :
    pattern.toList.any isFixed = true ↔ '0' ∈ pattern.toList ∨ '1' ∈ pattern.toList := by
  rw [List.any_eq_true]
  simp only [isFixed_iff]
  constructor
  · rintro ⟨digit, listed, rfl | rfl⟩
    · exact .inl listed
    · exact .inr listed
  · rintro (listed | listed)
    · exact ⟨_, listed, .inl rfl⟩
    · exact ⟨_, listed, .inr rfl⟩

theorem pattern_ofPattern (pattern : String) (position : Option Nat) :
    (ofPattern pattern position).pattern = canonical pattern := by
  rw [Filter.pattern, ofPattern, ofLetters, List.reverse_reverse]
  rfl

end Filter

namespace Slot

theorem firstLong?_eq_none_iff (slotPatterns : List String) :
    firstLong? slotPatterns = none ↔ ∀ pattern ∈ slotPatterns, Filter.IsShort pattern := by
  simp [firstLong?]

/-- The headers in front of a pattern that is too long are compiled in vain. -/
theorem compile_of_long {slotPatterns : List String} {long : String}
    (found : firstLong? slotPatterns = some long) :
    compile slotPatterns = .error (Filter.tooLong long) := by
  have headers_eq : compileHeaders slotPatterns = .error (Filter.tooLong long) := by
    induction slotPatterns with
    | nil => cases found
    | cons pattern slotPatterns induction =>
        rw [compileHeaders]
        by_cases short : Filter.IsShort pattern
        · rw [firstLong?, List.find?_cons_of_neg (by simpa using short)] at found
          rw [Header.compile_of_short short, induction found]
        · rw [firstLong?, List.find?_cons_of_pos (by simpa using short)] at found
          cases found
          rw [Header.compile, Filter.compile_of_not_short short]
          rfl
  rw [compile, headers_eq]

section Short

variable {slotPatterns : List String}
  (short : ∀ pattern ∈ slotPatterns, Filter.IsShort pattern)
include short

theorem splitting_ofPatterns_of_short :
    (ofPatterns slotPatterns).splitting = decide (FixesBit slotPatterns) := by
  rw [ofPatterns, ofHeaders, List.any_map, Bool.eq_iff_iff, List.any_eq_true, decide_eq_true_iff]
  apply exists_congr
  intro pattern
  apply and_congr_right
  intro member
  have boundaries := Header.marksBoundaries_ofPattern (short pattern member)
  rw [Function.comp_apply, boundaries, Filter.any_isFixed_iff]

theorem notice_ofPatterns (event : Nat) :
    (ofPatterns slotPatterns).notice event = noticeOf event slotPatterns := by
  rw [notice, noticeOf, splitting_ofPatterns_of_short short]
  simp [moduleCount, ofPatterns, ofHeaders, Header.ofPattern, Filter.pattern_ofPattern]

end Short

end Slot

namespace Splitter

theorem compileSlots_eq (event : Nat) (patterns : List (List String)) :
    compileSlots event patterns =
      (((slotsInFront patterns).zipIdx event).map fun entry => Slot.noticeOf entry.2 entry.1,
        match firstLong? patterns with
        | some long => .error (Filter.tooLong long)
        | none => .ok (patterns.map Slot.ofPatterns)) := by
  induction patterns generalizing event with
  | nil => rfl
  | cons slotPatterns patterns induction =>
      have first_eq : firstLong? (slotPatterns :: patterns) =
          (Slot.firstLong? slotPatterns).or (firstLong? patterns) := by
        rw [firstLong?, List.flatten_cons, Slot.firstLong?, List.find?_append]
        rfl
      rw [compileSlots, first_eq]
      cases found : Slot.firstLong? slotPatterns with
      | some long =>
          have here : ¬ ∀ pattern ∈ slotPatterns, Filter.IsShort pattern := by
            rw [← Slot.firstLong?_eq_none_iff, found]
            exact Option.some_ne_none long
          rw [Slot.compile_of_long found, slotsInFront,
            List.takeWhile_cons_of_neg (by simpa using here)]
          rfl
      | none =>
          have short := (Slot.firstLong?_eq_none_iff slotPatterns).mp found
          rw [Slot.compile_of_short short, slotsInFront,
            List.takeWhile_cons_of_pos (by simpa using short), List.zipIdx_cons, List.map_cons,
            ← Slot.notice_ofPatterns short, Option.none_or]
          simp only [induction (event + 1)]
          cases firstLong? patterns <;> rfl

theorem map_moduleCount_ofPatterns (patterns : List (List String)) :
    (patterns.map Slot.ofPatterns).map Slot.moduleCount = patterns.map List.length := by
  simp [Slot.moduleCount, Slot.ofPatterns, Slot.ofHeaders, Function.comp_def]

theorem widest_ofPatterns (patterns : List (List String)) :
    (ofPatterns patterns).widest = widestOfPatterns patterns := by
  show widestOf (patterns.map Slot.ofPatterns) = _
  rw [widestOf_eq_max?, map_moduleCount_ofPatterns, widestOfPatterns]

section Short

variable {patterns : List (List String)}
  (short : ∀ slotPatterns ∈ patterns, ∀ pattern ∈ slotPatterns, Filter.IsShort pattern)
include short

theorem mirrors_ofPatterns : (ofPatterns patterns).Mirrors patterns := by
  have slot_at (event : Nat) : (ofPatterns patterns).slots[event]? =
      patterns[event]?.map Slot.ofPatterns :=
    List.getElem?_map
  constructor
  case eventCount_eq =>
    show (patterns.map Slot.ofPatterns).length = _
    rw [List.length_map]
  case moduleCount?_eq =>
    intro event
    rw [moduleCount?, slot_at, Option.map_map]
    congr 1
    funext slotPatterns
    simp [Slot.moduleCount, Slot.ofPatterns, Slot.ofHeaders]
  case filter?_eq =>
    intro event module
    rw [filter?, slot_at]
    cases listed : patterns[event]? with
    | none => rfl
    | some slotPatterns =>
        have here := short slotPatterns (List.mem_of_getElem? listed)
        cases pattern_at : slotPatterns[module]? with
        | none => simp [Slot.ofPatterns, Slot.ofHeaders, pattern_at]
        | some pattern =>
            have compiled := Filter.compile_of_short
              (here pattern (List.mem_of_getElem? pattern_at)) none
            simp [Slot.ofPatterns, Slot.ofHeaders, pattern_at, compiled, Header.ofPattern]
  case widest_eq => exact widest_ofPatterns patterns
  case splitting?_eq =>
    intro event
    rw [splitting?, slot_at, Option.map_map]
    cases listed : patterns[event]? with
    | none => rfl
    | some slotPatterns =>
        have here := short slotPatterns (List.mem_of_getElem? listed)
        exact congrArg some (Slot.splitting_ofPatterns_of_short here)
  case tally_eq =>
    show Tally.zero ((patterns.map Slot.ofPatterns).map Slot.moduleCount) = _
    rw [map_moduleCount_ofPatterns]

theorem readyNotice_ofPatterns :
    (ofPatterns patterns).readyNotice =
      .ready patterns.length (widestOfPatterns patterns) (patterns.countP (Slot.FixesBit ·)) := by
  have splitting : (patterns.map Slot.ofPatterns).countP (fun slot => slot.splitting) =
      patterns.countP (Slot.FixesBit ·) := by
    rw [List.countP_map]
    apply List.countP_congr
    intro slotPatterns member
    rw [Function.comp_apply, Slot.splitting_ofPatterns_of_short (short slotPatterns member)]
  rw [readyNotice, widest_ofPatterns, ← splitting]
  show Notice.ready (patterns.map Slot.ofPatterns).length _ _ = _
  rw [List.length_map]
  rfl

end Short

theorem build_of_long {patterns : List (List String)} {long : String}
    (found : firstLong? patterns = some long) :
    build patterns =
      ((slotsInFront patterns).zipIdx.map fun entry => Slot.noticeOf entry.2 entry.1,
        .error (Filter.tooLong long)) := by
  rw [build, compileSlots_eq, found]

theorem build_of_no_long {patterns : List (List String)}
    (none_long : firstLong? patterns = none) :
    build patterns =
      (((slotsInFront patterns).zipIdx.map fun entry => Slot.noticeOf entry.2 entry.1) ++
        [(ofPatterns patterns).readyNotice], .ok (ofPatterns patterns)) := by
  rw [build, compileSlots_eq, none_long]
  rfl

theorem short_of_firstLong? {patterns : List (List String)}
    (none_long : firstLong? patterns = none) :
    ∀ slotPatterns ∈ patterns, ∀ pattern ∈ slotPatterns, Filter.IsShort pattern := by
  intro slotPatterns slot_member pattern member
  exact (Slot.firstLong?_eq_none_iff _).mp none_long pattern
    (List.mem_flatten_of_mem slot_member member)

theorem build_of_short {patterns : List (List String)}
    (short : ∀ slotPatterns ∈ patterns, ∀ pattern ∈ slotPatterns, Filter.IsShort pattern) :
    (build patterns).2 = .ok (ofPatterns patterns) := by
  have none_long : firstLong? patterns = none := by
    apply (Slot.firstLong?_eq_none_iff _).mpr
    intro pattern member
    obtain ⟨slotPatterns, slot_member, here⟩ := List.mem_flatten.mp member
    exact short slotPatterns slot_member pattern here
  rw [build_of_no_long none_long]

theorem slotsInFront_of_short {patterns : List (List String)}
    (short : ∀ slotPatterns ∈ patterns, ∀ pattern ∈ slotPatterns, Filter.IsShort pattern) :
    slotsInFront patterns = patterns := by
  rw [slotsInFront, List.takeWhile_eq_self_iff]
  intro slotPatterns member
  exact decide_eq_true (short slotPatterns member)

end Splitter

namespace Engine

/-- Building fails exactly if some pattern is too long, and then with the error of the first
one in reading order.  A slot in front of it is logged with the number of its modules,
whether it is split, and its canonical patterns.  Without a pattern that is too long this is
every slot, the totals are logged last, and the engine shows what the patterns ask for. -/
theorem build_mirrors_patterns (patterns : List (List String)) :
    ((∃ error, (build patterns).2 = .error error) ↔
      ∃ slotPatterns ∈ patterns, ∃ pattern ∈ slotPatterns, ¬ Filter.IsShort pattern) ∧
    ∃ log : List Notice,
      log = ((Splitter.slotsInFront patterns).zipIdx.map fun entry =>
        Slot.noticeOf entry.2 entry.1) ∧
      (∀ notice ∈ log, notice.level = .debug) ∧
      match Splitter.firstLong? patterns with
      | some long => build patterns = (log, .error (Filter.tooLong long))
      | none =>
          ∃ totals engine,
            build patterns = (log ++ [totals], .ok engine) ∧
            totals = .ready patterns.length (Splitter.widestOfPatterns patterns)
              (patterns.countP (Slot.FixesBit ·)) ∧
            totals.level = .info ∧
            Splitter.slotsInFront patterns = patterns ∧
            engine.splitter.Mirrors patterns := by
  have debug : ∀ notice ∈ (Splitter.slotsInFront patterns).zipIdx.map fun entry =>
      Slot.noticeOf entry.2 entry.1, notice.level = .debug := by
    intro notice member
    obtain ⟨entry, -, rfl⟩ := List.mem_map.mp member
    rfl
  cases found : Splitter.firstLong? patterns with
  | some long =>
      have built : build patterns = ((Splitter.slotsInFront patterns).zipIdx.map fun entry =>
          Slot.noticeOf entry.2 entry.1, .error (Filter.tooLong long)) := by
        rw [build, Splitter.build_of_long found]
        rfl
      refine ⟨⟨fun _ => ?_, fun _ => ⟨_, congrArg Prod.snd built⟩⟩, _, rfl, debug, built⟩
      obtain ⟨slotPatterns, slot_member, member⟩ :=
        List.mem_flatten.mp (List.mem_of_find?_eq_some found)
      exact ⟨slotPatterns, slot_member, long, member, by simpa using List.find?_some found⟩
  | none =>
      have short := Splitter.short_of_firstLong? found
      have built : build patterns = (((Splitter.slotsInFront patterns).zipIdx.map fun entry =>
          Slot.noticeOf entry.2 entry.1) ++ [(Splitter.ofPatterns patterns).readyNotice],
          .ok (ofSplitter (Splitter.ofPatterns patterns))) := by
        rw [build, Splitter.build_of_no_long found]
        rfl
      have shown : (ofSplitter (Splitter.ofPatterns patterns)).splitter =
          Splitter.ofPatterns patterns :=
        congrArg Session.splitter (session_ofSplitter (Splitter.ofPatterns patterns))
      constructor
      · constructor
        · rintro ⟨error, failed⟩
          rw [built] at failed
          cases failed
        · rintro ⟨slotPatterns, slot_member, pattern, member, long⟩
          exact absurd (short slotPatterns slot_member pattern member) long
      · refine ⟨_, rfl, debug, _, _, built, Splitter.readyNotice_ofPatterns short, rfl,
          Splitter.slotsInFront_of_short short, ?_⟩
        rw [shown]
        exact Splitter.mirrors_ofPatterns short

/-- The second slot has a pattern of 33 bits, so only the first one is logged. -/
example :
    build [["1s s", ""], ["0", "1111 1111 1111 1111 1111 1111 1111 1111 X"]] =
      ([.compiled 0 2 true ["1SS", ""]],
        .error (.patternTooLong "1111 1111 1111 1111 1111 1111 1111 1111 X" 33 32)) := by
  rfl

end Engine

end Readout
