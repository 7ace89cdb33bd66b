import Mathlib.Algebra.BigOperators.Ring.Finset
import Readout.Joining
import Readout.Proofs.Collecting
import Readout.Proofs.Ordering

/-!
# Joined values keep all parts

A field holds numbers below the power of two of its width, so fields that are laid side by
side do not run into each other, and the join, which puts them together by shifting and
or-ing, adds them.  Two parts of at most 32 bits each leave no shift of 64 bits or more.
What was joined is read back by the opposite shift.
-/

namespace Readout

namespace Field

/-- The numbers of a field fit into its bits, and these into a word. -/
structure Bounded (field : Field) : Prop where
  width_le : field.width ≤ Word.size
  extract_lt : ∀ word, (field.extract word).toNat < 2 ^ field.width

theorem bounded_ofMask (mask : Word) : (ofMask mask).Bounded := by
  refine ⟨Word.popcount_le mask, ?_⟩
  intro word
  rw [extract_ofMask]
  exact Word.toNat_gather_lt word mask

end Field

namespace WideField

@[simp]
theorem number_no_words (fields : WideField) : fields.number [] = 0 := by
  rw [number, List.length_nil, Nat.zero_min]
  exact Finset.sum_range_zero _

@[simp]
theorem number_no_fields (words : List Word) : number [] words = 0 := by
  rw [number, List.length_nil, Nat.min_zero]
  exact Finset.sum_range_zero _

theorem offset_cons_succ (field : Field) (fields : WideField) (index : Nat) :
    offset (field :: fields) (index + 1) = field.width + offset fields index := rfl

theorem number_cons (field : Field) (fields : WideField) (word : Word) (words : List Word) :
    number (field :: fields) (word :: words) =
      (field.extract word).toNat + 2 ^ field.width * number fields words := by
  have first : placed (field :: fields) (word :: words) 0 = (field.extract word).toNat :=
    Nat.mul_one _
  have later (index : Nat) : placed (field :: fields) (word :: words) (index + 1) =
      2 ^ field.width * placed fields words index := by
    rw [placed, offset_cons_succ, Nat.pow_add, Nat.mul_left_comm]
    rfl
  rw [number, List.length_cons, List.length_cons, Nat.succ_min_succ, Finset.sum_range_succ',
    first, Nat.add_comm, number, Finset.mul_sum]
  congr 1
  exact Finset.sum_congr rfl fun index _ => later index

section Bounded

variable {fields : WideField} (bounded : ∀ field ∈ fields, field.Bounded)
include bounded

theorem totalBits_le : totalBits fields ≤ Word.size * fields.length := by
  induction fields with
  | nil => exact Nat.le_refl 0
  | cons field fields induction =>
      obtain ⟨here, later⟩ := List.forall_mem_cons.mp bounded
      have width_le := here.width_le
      have later_le := induction later
      rw [totalBits, List.length_cons, Nat.mul_succ]
      omega

theorem number_lt (words : List Word) : number fields words < 2 ^ totalBits fields := by
  induction fields generalizing words with
  | nil =>
      rw [number_no_fields]
      exact Nat.two_pow_pos _
  | cons field fields induction =>
      obtain ⟨here, later⟩ := List.forall_mem_cons.mp bounded
      cases words with
      | nil =>
          rw [number_no_words]
          exact Nat.two_pow_pos _
      | cons word words =>
          have low := here.extract_lt word
          have high := induction later words
          rw [number_cons, totalBits, Nat.pow_add]
          calc
            (field.extract word).toNat + 2 ^ field.width * number fields words
                < 2 ^ field.width + 2 ^ field.width * number fields words :=
              Nat.add_lt_add_right low _
            _ = 2 ^ field.width * (number fields words + 1) := by ring
            _ ≤ 2 ^ field.width * 2 ^ totalBits fields := Nat.mul_le_mul_left _ high

/-- What lies at the place of a field is its reading. -/
theorem number_div_mod {words : List Word} {index : Nat} {field : Field} {word : Word}
    (field_at : fields[index]? = some field) (word_at : words[index]? = some word) :
    number fields words / 2 ^ offset fields index % 2 ^ field.width =
      (field.extract word).toNat := by
  induction fields generalizing words index with
  | nil => cases field_at
  | cons first fields induction =>
      obtain ⟨here, later⟩ := List.forall_mem_cons.mp bounded
      cases words with
      | nil => cases word_at
      | cons firstWord words =>
          have low := here.extract_lt firstWord
          rw [number_cons]
          cases index with
          | zero =>
              cases field_at
              cases word_at
              have lowest : offset (field :: fields) 0 = 0 := rfl
              rw [lowest, Nat.pow_zero, Nat.div_one, Nat.add_mul_mod_self_left,
                Nat.mod_eq_of_lt low]
          | succ index =>
              rw [offset_cons_succ, Nat.pow_add, ← Nat.div_div_eq_div_mul,
                Nat.add_mul_div_left _ _ (Nat.two_pow_pos _), Nat.div_eq_of_lt low,
                Nat.zero_add]
              exact induction later field_at word_at

end Bounded

theorem totalBits_append (front back : WideField) :
    totalBits (front ++ back) = totalBits front + totalBits back := by
  induction front with
  | nil => exact (Nat.zero_add _).symm
  | cons field front induction =>
      rw [List.cons_append, totalBits, totalBits, induction, Nat.add_assoc]

theorem offset_add (fields : WideField) (index distance : Nat) :
    offset fields (index + distance) =
      offset fields index + totalBits ((fields.drop index).take distance) := by
  rw [offset, List.take_add, totalBits_append]
  rfl

theorem offset_succ {fields : WideField} {index : Nat} {field : Field}
    (field_at : fields[index]? = some field) :
    offset fields (index + 1) = offset fields index + field.width := by
  obtain ⟨inside, rfl⟩ := List.getElem?_eq_some_iff.mp field_at
  rw [offset_add, List.drop_eq_getElem_cons inside]
  rfl

theorem offset_add_width_le {fields : WideField} {first second : Nat} {field : Field}
    (less : first < second) (field_at : fields[first]? = some field) :
    offset fields first + field.width ≤ offset fields second := by
  obtain ⟨distance, rfl⟩ := Nat.exists_eq_add_of_le (Nat.succ_le_of_lt less)
  have behind := offset_add fields (first + 1) distance
  rw [offset_succ field_at] at behind
  exact behind ▸ Nat.le_add_right _ _

theorem reading_eq {fields : WideField} {words : List Word} {index : Nat} {field : Field}
    {word : Word} (field_at : fields[index]? = some field)
    (word_at : words[index]? = some word) :
    reading fields words index = (field.extract word).toNat := by
  rw [reading, field_at, word_at]

/-- A multiple of a power of two has no bit in common with a number below it. -/
private theorem and_mul_two_pow {low place : Nat} (below : low < 2 ^ place) (number : Nat) :
    low &&& number * 2 ^ place = 0 := by
  apply Nat.eq_of_testBit_eq
  intro position
  rw [Nat.testBit_and, Nat.testBit_mul_two_pow, Nat.zero_testBit, Bool.and_eq_false_iff]
  by_cases above : place ≤ position
  · left
    exact Nat.testBit_lt_two_pow
      (Nat.lt_of_lt_of_le below (Nat.pow_le_pow_right (by decide) above))
  · right
    rw [decide_eq_false above, Bool.false_and]

theorem placed_and_placed {fields : WideField} (bounded : ∀ field ∈ fields, field.Bounded)
    (words : List Word) {first second : Nat} (less : first < second) :
    placed fields words first &&& placed fields words second = 0 := by
  have below : placed fields words first < 2 ^ offset fields second := by
    rw [placed, reading]
    split
    · rename_i field word field_at word_at
      have fits := (bounded field (List.mem_of_getElem? field_at)).extract_lt word
      calc
        (field.extract word).toNat * 2 ^ offset fields first
            < 2 ^ field.width * 2 ^ offset fields first :=
          Nat.mul_lt_mul_of_pos_right fits (Nat.two_pow_pos _)
        _ = 2 ^ (offset fields first + field.width) := by rw [Nat.pow_add, Nat.mul_comm]
        _ ≤ 2 ^ offset fields second :=
          Nat.pow_le_pow_right (by decide) (offset_add_width_le less field_at)
    · rw [Nat.zero_mul]
      exact Nat.two_pow_pos _
  exact and_mul_two_pow below _

theorem number_eq_iff {fields : WideField} (bounded : ∀ field ∈ fields, field.Bounded)
    {words others : List Word} (enough : fields.length ≤ words.length)
    (othersEnough : fields.length ≤ others.length) :
    number fields words = number fields others ↔
      ∀ index, index < fields.length →
        reading fields words index = reading fields others index := by
  constructor
  · intro same index inside
    have field_at := List.getElem?_eq_getElem inside
    have word_at := List.getElem?_eq_getElem (Nat.lt_of_lt_of_le inside enough)
    have other_at := List.getElem?_eq_getElem (Nat.lt_of_lt_of_le inside othersEnough)
    rw [reading_eq field_at word_at, reading_eq field_at other_at,
      ← number_div_mod bounded field_at word_at, same, number_div_mod bounded field_at other_at]
  · intro same
    rw [number, number, Nat.min_eq_right enough, Nat.min_eq_right othersEnough]
    apply Finset.sum_congr rfl
    intro index inside
    rw [placed, placed, same index (Finset.mem_range.mp inside)]

end WideField

namespace Collector

theorem toNat_amount {shift : Nat} (small : shift < 64) :
    (UInt64.ofNat shift).toNat % 64 = shift := by
  rw [UInt64.toNat_ofNat_of_lt' (Nat.lt_trans small (by decide))]
  exact Nat.mod_eq_of_lt small

/-- Or-ing a shifted reading on top of the bits joined so far adds it. -/
theorem toNat_or_shiftLeft {joined : UInt64} {shift : Nat} (below : joined.toNat < 2 ^ shift)
    {reading : Word} {width : Nat} (fits : reading.toNat < 2 ^ width) (small : shift < 64)
    (room : shift + width ≤ 64) :
    (joined ||| (reading.toUInt64 <<< UInt64.ofNat shift)).toNat =
      joined.toNat + 2 ^ shift * reading.toNat := by
  have shifted_lt : reading.toNat <<< shift < 2 ^ 64 := by
    rw [Nat.shiftLeft_eq]
    calc
      reading.toNat * 2 ^ shift < 2 ^ width * 2 ^ shift :=
        Nat.mul_lt_mul_of_pos_right fits (Nat.two_pow_pos _)
      _ = 2 ^ (shift + width) := by rw [Nat.pow_add, Nat.mul_comm]
      _ ≤ 2 ^ 64 := Nat.pow_le_pow_right (by decide) room
  have shifted_eq : (reading.toUInt64 <<< UInt64.ofNat shift).toNat = reading.toNat <<< shift := by
    rw [UInt64.toNat_shiftLeft, UInt32.toNat_toUInt64, toNat_amount small]
    exact Nat.mod_eq_of_lt shifted_lt
  calc
    (joined ||| (reading.toUInt64 <<< UInt64.ofNat shift)).toNat
        = joined.toNat ||| reading.toNat <<< shift := by rw [UInt64.toNat_or, shifted_eq]
    _ = reading.toNat <<< shift ||| joined.toNat := Nat.or_comm _ _
    _ = reading.toNat <<< shift + joined.toNat :=
      (Nat.shiftLeft_add_eq_or_of_lt below reading.toNat).symm
    _ = joined.toNat + 2 ^ shift * reading.toNat := by
      rw [Nat.shiftLeft_eq, Nat.mul_comm, Nat.add_comm]

theorem join_no_words (fields : WideField) (shift : Nat) (joined : UInt64) :
    join [] fields shift joined = joined := rfl

theorem join_no_fields (words : List Word) (shift : Nat) (joined : UInt64) :
    join words [] shift joined = joined := by
  cases words with
  | nil => rfl
  | cons word words => rfl

namespace Joins

variable {words restWords : List Word} {fields restFields : WideField} {shift : Nat}
  {joined : UInt64}

theorem result (joins : Joins words fields restWords restFields shift joined) :
    join restWords restFields shift joined = join words fields 0 0 := by
  induction joins with
  | start => rfl
  | round _ induction => exact induction

/-- The join goes on as long as there are both words and fields, always shifting by the
number of bits below the next field. -/
theorem exists_of_le (words : List Word) (fields : WideField) {count : Nat}
    (enough : count ≤ words.length) (fieldsEnough : count ≤ fields.length) :
    ∃ joined, Joins words fields (words.drop count) (fields.drop count)
      (fields.offset count) joined := by
  induction count with
  | zero => exact ⟨0, .start⟩
  | succ count induction =>
      obtain ⟨joined, joins⟩ := induction (Nat.le_of_lt enough) (Nat.le_of_lt fieldsEnough)
      rw [List.drop_eq_getElem_cons enough, List.drop_eq_getElem_cons fieldsEnough] at joins
      rw [WideField.offset_succ (List.getElem?_eq_getElem fieldsEnough)]
      exact ⟨_, joins.round⟩

/-- Before and after every round the shift leaves room for the remaining fields, the bits
joined so far lie below it, and with the remaining readings on top they make up the number. -/
theorem state (bounded : ∀ field ∈ fields, field.Bounded)
    (room : Word.size * fields.length ≤ 64)
    (joins : Joins words fields restWords restFields shift joined) :
    (∀ field ∈ restFields, field.Bounded) ∧
      shift + Word.size * restFields.length ≤ 64 ∧
      joined.toNat < 2 ^ shift ∧
      joined.toNat + 2 ^ shift * restFields.number restWords = fields.number words := by
  induction joins with
  | start =>
      refine ⟨bounded, by omega, Nat.one_pos, ?_⟩
      rw [Nat.pow_zero, Nat.one_mul]
      exact Nat.zero_add _
  | @round word restWords field restFields shift joined _ induction =>
      obtain ⟨rest_bounded, rest_room, below, number_eq⟩ := induction
      obtain ⟨here, later⟩ := List.forall_mem_cons.mp rest_bounded
      have width_le := here.width_le
      have fits := here.extract_lt word
      rw [List.length_cons, Nat.mul_succ] at rest_room
      have size_eq : Word.size = 32 := rfl
      have added := toNat_or_shiftLeft below fits (by omega) (by omega)
      rw [added]
      refine ⟨later, by omega, ?_, ?_⟩
      · calc
          joined.toNat + 2 ^ shift * (field.extract word).toNat
              < 2 ^ shift + 2 ^ shift * (field.extract word).toNat :=
            Nat.add_lt_add_right below _
          _ = 2 ^ shift * ((field.extract word).toNat + 1) := by ring
          _ ≤ 2 ^ shift * 2 ^ field.width := Nat.mul_le_mul_left _ fits
          _ = 2 ^ (shift + field.width) := (Nat.pow_add 2 shift field.width).symm
      · rw [← number_eq, WideField.number_cons, Nat.pow_add]
        ring

theorem shift_lt (bounded : ∀ field ∈ fields, field.Bounded)
    (room : Word.size * fields.length ≤ 64) {field : Field}
    (joins : Joins words fields restWords (field :: restFields) shift joined) : shift < 64 := by
  obtain ⟨-, rest_room, -, -⟩ := joins.state bounded room
  have size_eq : Word.size = 32 := rfl
  rw [List.length_cons, Nat.mul_succ] at rest_room
  omega

theorem nothing_left (words : List Word) (fields : WideField) :
    words.drop (min words.length fields.length) = [] ∨
      fields.drop (min words.length fields.length) = [] := by
  rcases Nat.le_total words.length fields.length with fewer | more
  · left
    rw [Nat.min_eq_left fewer, List.drop_length]
  · right
    rw [Nat.min_eq_right more, List.drop_length]

theorem finish (words : List Word) (fields : WideField) :
    Joins words fields (words.drop (min words.length fields.length))
      (fields.drop (min words.length fields.length))
      (fields.offset (min words.length fields.length)) (join words fields 0 0) := by
  obtain ⟨joined, joins⟩ :=
    exists_of_le words fields (Nat.min_le_left _ _) (Nat.min_le_right _ _)
  have same := joins.result
  rcases nothing_left words fields with no_words | no_fields
  · rw [no_words, join_no_words] at same
    exact same ▸ joins
  · rw [no_fields, join_no_fields] at same
    exact same ▸ joins

theorem offset_lt (bounded : ∀ field ∈ fields, field.Bounded)
    (room : Word.size * fields.length ≤ 64) {index : Nat} (enough : index ≤ words.length)
    (inside : index < fields.length) : fields.offset index < 64 := by
  obtain ⟨joined, joins⟩ := exists_of_le words fields enough (Nat.le_of_lt inside)
  rw [List.drop_eq_getElem_cons inside] at joins
  exact joins.shift_lt bounded room

end Joins

theorem toNat_join {fields : WideField} (bounded : ∀ field ∈ fields, field.Bounded)
    (room : Word.size * fields.length ≤ 64) (words : List Word) :
    (join words fields 0 0).toNat = fields.number words := by
  obtain ⟨-, -, -, number_eq⟩ := (Joins.finish words fields).state bounded room
  rcases Joins.nothing_left words fields with no_words | no_fields
  · rw [no_words, WideField.number_no_words] at number_eq
    exact number_eq
  · rw [no_fields, WideField.number_no_fields] at number_eq
    exact number_eq

theorem toNat_part_of_join {words : List Word} {fields : WideField}
    (bounded : ∀ field ∈ fields, field.Bounded) (room : Word.size * fields.length ≤ 64)
    {index : Nat} {field : Field} {word : Word} (field_at : fields[index]? = some field)
    (word_at : words[index]? = some word) :
    ((join words fields 0 0 >>> UInt64.ofNat (fields.offset index)) &&&
        UInt64.ofNat (2 ^ field.width - 1)).toNat = (field.extract word).toNat := by
  have enough : index ≤ words.length :=
    Nat.le_of_lt (List.getElem?_eq_some_iff.mp word_at).1
  have inside : index < fields.length := (List.getElem?_eq_some_iff.mp field_at).1
  have small := Joins.offset_lt bounded room enough inside
  have narrow : 2 ^ field.width ≤ 2 ^ Word.size :=
    Nat.pow_le_pow_right (by decide) (bounded field (List.mem_of_getElem? field_at)).width_le
  have ones : (UInt64.ofNat (2 ^ field.width - 1)).toNat = 2 ^ field.width - 1 := by
    apply UInt64.toNat_ofNat_of_lt'
    exact Nat.lt_of_le_of_lt (Nat.le_trans (Nat.sub_le _ _) narrow) (by decide)
  have shifted : (join words fields 0 0 >>> UInt64.ofNat (fields.offset index)).toNat =
      fields.number words / 2 ^ fields.offset index := by
    rw [UInt64.toNat_shiftRight, toNat_amount small, toNat_join bounded room]
    exact Nat.shiftRight_eq_div_pow _ _
  rw [UInt64.toNat_and, shifted, ones, Nat.and_two_pow_sub_one_eq_mod]
  exact WideField.number_div_mod bounded field_at word_at

theorem Reachable.length_parts_le {collector : Collector} (reachable : collector.Reachable) :
    collector.parts.length ≤ maxFilters := by
  obtain ⟨filters, built, actions, built_eq, rfl⟩ := reachable
  have few : filters.length ≤ maxFilters := by
    rw [ofFilters] at built_eq
    split at built_eq
    · assumption
    · cases built_eq
  have same := congrArg List.length
    (map_filter_partsAfter filters (Action.sinceReset actions))
  rw [List.length_map] at same
  rw [ofFilters_eq_after built_eq, run_after]
  exact Nat.le_trans (Nat.le_of_eq same) few

theorem words_of_isComplete {collector : Collector} (complete : collector.isComplete = true) :
    ∃ words, words ≠ [] ∧ collector.words = words.map some ∧
      ∀ fields, collector.extract fields = some (join words fields 0 0) := by
  obtain ⟨nonempty, full⟩ := (Bool.and_eq_true _ _).mp complete
  have each : ∀ held ∈ collector.words, held.isSome = true := by
    intro held member
    obtain ⟨part, part_member, rfl⟩ := List.mem_map.mp member
    exact List.all_eq_true.mp full part part_member
  have words_eq : collector.words = (collector.words.filterMap id).map some := by
    rw [List.map_filterMap_some_eq_filter_map_isSome, List.map_id,
      List.filter_eq_self.mpr each]
  refine ⟨collector.words.filterMap id, ?_, words_eq, ?_⟩
  · intro no_words
    rw [no_words] at words_eq
    have no_parts : collector.parts = [] := List.map_eq_nil_iff.mp words_eq
    rw [no_parts] at nonempty
    cases nonempty
  · intro fields
    rw [extract, if_pos complete]

/-- A complete collector holds one or two words, which are joined on reading. -/
theorem Reachable.holds {collector : Collector} (reachable : collector.Reachable)
    (complete : collector.isComplete = true) :
    ∃ words, collector.words = words.map some ∧ (words.length = 1 ∨ words.length = 2) ∧
      ∀ fields, collector.extract fields = some (join words fields 0 0) := by
  obtain ⟨words, nonempty, words_eq, extract_eq⟩ := words_of_isComplete complete
  have positive := List.length_pos_of_ne_nil nonempty
  have few := reachable.length_parts_le
  have same : collector.parts.length = words.length := by
    simpa only [Collector.words, List.length_map] using congrArg List.length words_eq
  have max_eq : maxFilters = 2 := rfl
  exact ⟨words, words_eq, by omega, extract_eq⟩

end Collector

namespace WideField.Made

theorem bounded {fields : WideField} (made : fields.Made) :
    ∀ field ∈ fields, field.Bounded := by
  obtain ⟨maker, marker, -, rfl⟩ := made
  intro field member
  obtain ⟨filter, -, rfl⟩ := List.mem_map.mp member
  exact Field.bounded_ofMask _

theorem length_le {fields : WideField} (made : fields.Made) :
    fields.length ≤ Collector.maxFilters := by
  obtain ⟨maker, marker, reachable, rfl⟩ := made
  have few := reachable.length_parts_le
  rw [Collector.field, Collector.filters, List.length_map, List.length_map]
  exact few

end WideField.Made

namespace Collector

/-- A complete collector joins its words.  The fields may come from another collector.  If
there is a word for every field, two values are equal only if all readings are. -/
theorem extract_joins_parts {collector other : Collector} {fields : WideField}
    (reachable : collector.Reachable) (complete : collector.isComplete = true)
    (otherReachable : other.Reachable) (otherComplete : other.isComplete = true)
    (made : fields.Made) :
    ∃ words otherWords value,
      collector.words = words.map some ∧
      other.words = otherWords.map some ∧
      (words.length = 1 ∨ words.length = 2) ∧
      (otherWords.length = 1 ∨ otherWords.length = 2) ∧
      collector.extract fields = some value ∧
      IsJoinOf value words fields ∧
      (fields.length ≤ words.length → fields.length ≤ otherWords.length →
        (collector.extract fields = other.extract fields ↔
          ∀ index, index < fields.length →
            fields.reading words index = fields.reading otherWords index)) := by
  obtain ⟨words, words_eq, count, extract_eq⟩ := reachable.holds complete
  obtain ⟨otherWords, other_words_eq, otherCount, other_extract_eq⟩ :=
    otherReachable.holds otherComplete
  have bounded := made.bounded
  have room : Word.size * fields.length ≤ 64 := Nat.mul_le_mul_left Word.size made.length_le
  have value_eq := toNat_join bounded room words
  refine ⟨words, otherWords, join words fields 0 0, words_eq, other_words_eq, count, otherCount,
    extract_eq fields, ⟨value_eq, ?_, ?_, Joins.finish words fields, ?_, ?_, ?_⟩, ?_⟩
  · rw [value_eq]
    exact WideField.number_lt bounded words
  · exact Nat.le_trans (WideField.totalBits_le bounded) room
  · intro word restWords field restFields shift joined joins
    exact joins.shift_lt bounded room
  · intro first second less
    exact WideField.placed_and_placed bounded words less
  · intro index field word field_at word_at
    exact toNat_part_of_join bounded room field_at word_at
  · intro enough othersEnough
    rw [extract_eq, other_extract_eq, Option.some_inj, ← UInt64.toNat_inj, value_eq,
      toNat_join bounded room otherWords]
    exact WideField.number_eq_iff bounded enough othersEnough

/-- Other words with equal fields, which another collector with two pieces in its first field
has made. -/
theorem extract_joins_parts_scattered :
    ∃ low high near far filters makers collector other fields value,
      Filter.compile "0DDD" none = .ok low ∧
      Filter.compile "1DDD" none = .ok high ∧
      Filter.compile "DXXD" none = .ok near ∧
      Filter.compile "XDDX" none = .ok far ∧
      ofFilters [low, high] = .ok filters ∧
      ofFilters [near, far] = .ok makers ∧
      (filters.run [.offer ⟨13, none⟩, .offer ⟨3, none⟩]).1 = collector ∧
      (filters.run [.offer ⟨5, none⟩, .offer ⟨12, none⟩]).1 = other ∧
      makers.field 'd' = fields ∧
      collector.words = [some 3, some 13] ∧
      other.words = [some 5, some 12] ∧
      collector.extract fields = some value ∧
      value.toNat = 9 ∧
      collector.extract fields = other.extract fields := by
  have built : ofFilters [Filter.ofLetters ['D', 'D', 'D', '0'] none,
      Filter.ofLetters ['D', 'D', 'D', '1'] none] = .ok (after [
        Filter.ofLetters ['D', 'D', 'D', '0'] none,
        Filter.ofLetters ['D', 'D', 'D', '1'] none] []) := rfl
  have makers_built : ofFilters [Filter.ofLetters ['D', 'X', 'X', 'D'] none,
      Filter.ofLetters ['X', 'D', 'D', 'X'] none] = .ok (after [
        Filter.ofLetters ['D', 'X', 'X', 'D'] none,
        Filter.ofLetters ['X', 'D', 'D', 'X'] none] []) := rfl
  have made : WideField.Made [Field.ofMask 9, Field.ofMask 6] :=
    ⟨_, 'd', ⟨_, _, [], makers_built, rfl⟩, rfl⟩
  obtain ⟨words, others, value, words_eq, others_eq, -, -, extract_eq, isJoin, same⟩ :=
    extract_joins_parts ⟨_, _, [.offer ⟨13, none⟩, .offer ⟨3, none⟩], built, rfl⟩ rfl
      ⟨_, _, [.offer ⟨5, none⟩, .offer ⟨12, none⟩], built, rfl⟩ rfl made
  have inj := List.map_injective_iff.mpr (Option.some_injective Word)
  have words_kept : [3, 13] = words := inj words_eq
  have others_kept : [5, 12] = others := inj others_eq
  cases words_kept
  cases others_kept
  refine ⟨_, _, _, _, _, _, _, _, _, value, rfl, rfl, rfl, rfl, built, makers_built, rfl, rfl, rfl,
    words_eq, others_eq, extract_eq, isJoin.toNat_eq.trans ?_, (same ?_ ?_).mpr ?_⟩
  · decide
  · decide
  · decide
  · decide

end Collector

end Readout
