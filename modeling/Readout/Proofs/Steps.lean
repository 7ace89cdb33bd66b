import Readout.Cutting

/-!
# The steps of one module

`Header.front` says what the remaining words begin with, `Header.cuts` lists all
the steps from there on.  The equations below read the steps, the sub-events and
the remainder off the front, and `front_induction` is the induction that goes
with them.
-/

namespace Readout

namespace Header

/-- What words begin with, said by the filter and the size field alone. -/
theorem front_cons (header : Header) (word : Word) (words : List Word) :
    header.front (word :: words) =
      if header.filter.alwaysMatches then .subEvent (word :: words) []
      else if header.filter.matchesWord word then
        if (header.size.extract word).toNat ≤ words.length then
          .subEvent (word :: words.take (header.size.extract word).toNat)
            (words.drop (header.size.extract word).toNat)
        else .truncated ((header.size.extract word).toNat + 1)
      else .unmatched := by
  by_cases always : header.filter.alwaysMatches = true
  · simp [front, accepts, subEventLength, marksBoundaries, always]
  · by_cases matched : header.filter.matchesWord word = true
    · simp [front, accepts, subEventLength, marksBoundaries, always, matched]
    · simp [front, accepts, marksBoundaries, always, matched]

/-- Words are used up one sub-event at a time until none is left in front. -/
@[elab_as_elim]
theorem front_induction {motive : List Word → Prop} (header : Header)
    (unmatched : ∀ words, header.front words = .unmatched → motive words)
    (truncated : ∀ words length, header.front words = .truncated length → motive words)
    (subEvent : ∀ words taken rest, header.front words = .subEvent taken rest →
      motive rest → motive words)
    (words : List Word) : motive words := by
  induction bound : words.length using Nat.strongRecOn generalizing words with
  | _ bound induction =>
      cases front_eq : header.front words with
      | unmatched => exact unmatched words front_eq
      | truncated length => exact truncated words length front_eq
      | subEvent taken rest =>
          have shorter := front_rest_length_lt front_eq
          rw [bound] at shorter
          exact subEvent words taken rest front_eq (induction _ shorter rest rfl)

@[simp]
theorem cuts_nil (header : Header) : header.cuts [] = [] := by
  rw [cuts]

/-- The first step is what the words begin with; only behind a sub-event are
there further ones. -/
theorem cuts_eq_front (header : Header) (words : List Word) :
    header.cuts words =
      match header.front words with
      | .unmatched => []
      | .truncated _ => [.truncated]
      | .subEvent taken rest => .subEvent taken :: header.cuts rest := by
  cases words with
  | nil => rw [cuts, front]
  | cons word words =>
      rw [cuts, front_cons]
      by_cases always : header.filter.alwaysMatches = true
      · simp [always]
      · by_cases matched : header.filter.matchesWord word = true
        · by_cases fits : (header.size.extract word).toNat ≤ words.length
          · simp [always, matched, fits]
          · simp [always, matched, fits]
        · simp [always, matched]

theorem starts_eq_false_iff_cuts (header : Header) (words : List Word) :
    header.starts words = false ↔ header.cuts words = [] := by
  rw [starts_eq_false_iff, cuts_eq_front]
  cases header.front words <;> simp

section Unmatched

variable {header : Header} {words : List Word}
  (front_eq : header.front words = .unmatched)
include front_eq

theorem cuts_of_unmatched : header.cuts words = [] := by
  rw [cuts_eq_front, front_eq]

theorem delivered_of_unmatched : header.delivered words = [] := by
  rw [delivered, cuts_of_unmatched front_eq, List.filterMap_nil]

theorem remainder_of_unmatched : header.remainder words = words := by
  simp [remainder, delivered_of_unmatched front_eq]

end Unmatched

section Truncated

variable {header : Header} {words : List Word} {length : Nat}
  (front_eq : header.front words = .truncated length)
include front_eq

theorem cuts_of_truncated : header.cuts words = [.truncated] := by
  rw [cuts_eq_front, front_eq]

theorem delivered_of_truncated : header.delivered words = [] := by
  rw [delivered, cuts_of_truncated front_eq]
  rfl

theorem remainder_of_truncated : header.remainder words = words := by
  simp [remainder, delivered_of_truncated front_eq]

theorem starts_of_truncated : header.starts words = true := by
  rw [← Bool.not_eq_false, starts_eq_false_iff, front_eq]
  exact Front.noConfusion

theorem length_lt_of_truncated : words.length < length := by
  cases words with
  | nil => cases front_eq
  | cons word words =>
      simp only [front] at front_eq
      split at front_eq
      · split at front_eq
        · cases front_eq
        · rename_i short
          cases front_eq
          exact Nat.lt_of_not_le short
      · cases front_eq

end Truncated

section SubEvent

variable {header : Header} {words taken rest : List Word}
  (front_eq : header.front words = .subEvent taken rest)
include front_eq

theorem cuts_of_subEvent : header.cuts words = .subEvent taken :: header.cuts rest := by
  rw [cuts_eq_front, front_eq]

theorem delivered_of_subEvent :
    header.delivered words = taken :: header.delivered rest := by
  rw [delivered, cuts_of_subEvent front_eq]
  rfl

theorem remainder_of_subEvent : header.remainder words = header.remainder rest := by
  rw [remainder, delivered_of_subEvent front_eq, ← front_append front_eq]
  simp [remainder, List.drop_append]

end SubEvent

@[simp]
theorem delivered_nil (header : Header) : header.delivered [] = [] :=
  delivered_of_unmatched rfl

@[simp]
theorem remainder_nil (header : Header) : header.remainder [] = [] :=
  remainder_of_unmatched rfl

theorem delivered_append_remainder (header : Header) (words : List Word) :
    (header.delivered words).flatten ++ header.remainder words = words := by
  induction words using front_induction header with
  | unmatched words front_eq =>
      simp [delivered_of_unmatched front_eq, remainder_of_unmatched front_eq]
  | truncated words length front_eq =>
      simp [delivered_of_truncated front_eq, remainder_of_truncated front_eq]
  | subEvent words taken rest front_eq induction =>
      rw [delivered_of_subEvent front_eq, remainder_of_subEvent front_eq,
        List.flatten_cons, List.append_assoc, induction]
      exact front_append front_eq

theorem front_remainder_ne_subEvent (header : Header) (words : List Word)
    {taken rest : List Word} : header.front (header.remainder words) ≠ .subEvent taken rest := by
  induction words using front_induction header with
  | unmatched words front_eq => simp [remainder_of_unmatched front_eq, front_eq]
  | truncated words length front_eq => simp [remainder_of_truncated front_eq, front_eq]
  | subEvent words taken rest front_eq induction =>
      rwa [remainder_of_subEvent front_eq]

/-- Every step delivers a sub-event, except for a last one that is truncated,
which there is exactly if the remainder starts one. -/
theorem cuts_eq_delivered (header : Header) (words : List Word) :
    header.cuts words =
      (header.delivered words).map .subEvent ++
        if header.starts (header.remainder words) then [.truncated] else [] := by
  induction words using front_induction header with
  | unmatched words front_eq =>
      simp [cuts_of_unmatched front_eq, delivered_of_unmatched front_eq,
        remainder_of_unmatched front_eq,
        (starts_eq_false_iff header words).mpr front_eq]
  | truncated words length front_eq =>
      simp [cuts_of_truncated front_eq, delivered_of_truncated front_eq,
        remainder_of_truncated front_eq, starts_of_truncated front_eq]
  | subEvent words taken rest front_eq induction =>
      rw [cuts_of_subEvent front_eq, delivered_of_subEvent front_eq,
        remainder_of_subEvent front_eq, induction]
      rfl

theorem getElem?_delivered (header : Header) (words : List Word) (number : Nat) :
    (header.delivered words)[number]? =
      (header.cuts words)[number]?.bind Cut.delivered? := by
  rw [cuts_eq_delivered]
  by_cases inside : number < (header.delivered words).length
  · rw [List.getElem?_append_left (by simpa using inside)]
    simp [inside, Cut.delivered?]
  · have outside := Nat.le_of_not_lt inside
    rw [List.getElem?_append_right (by simpa using outside),
      List.getElem?_eq_none outside]
    split
    · cases number - ((header.delivered words).map Cut.subEvent).length with
      | zero => rfl
      | succ later => rfl
    · rfl

theorem length_cuts (header : Header) (words : List Word) :
    (header.cuts words).length =
      (header.delivered words).length +
        (header.starts (header.remainder words)).toNat := by
  rw [cuts_eq_delivered]
  cases header.starts (header.remainder words) <;> simp

theorem count_truncated_cuts (header : Header) (words : List Word) :
    (header.cuts words).count .truncated =
      (header.starts (header.remainder words)).toNat := by
  have none_delivered : ((header.delivered words).map Cut.subEvent).count .truncated = 0 := by
    rw [List.count_eq_zero]
    simp
  rw [cuts_eq_delivered, List.count_append, none_delivered]
  cases header.starts (header.remainder words) <;> simp

end Header

end Readout
