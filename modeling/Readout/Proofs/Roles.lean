import Mathlib.Data.List.GetD
import Mathlib.Logic.Relation
import Readout.BitRole
import Readout.Proofs.Building
import Readout.Proofs.Letters

/-!
# Masks say no more than the roles of bits

The masks of a compiled header pattern are determined by the roles of the bits, so two
patterns with the same roles have headers that differ in their letters at most.  A change
of style leaves every role as it is.
-/

namespace Readout

namespace BitRole

/-- A test of the letters of a filter that tells certain roles, none of them free, from
the others. -/
structure Tells (test : Char → Bool) (holds : BitRole → Bool) : Prop where
  fold : ∀ character, test (Text.fold character) = holds (ofCharacter character)
  free : holds .free = false

theorem tells_isFixed :
    Tells Filter.isFixed fun role => decide (role = .zero) || decide (role = .one) := by
  refine ⟨?_, rfl⟩
  intro character
  by_cases zero : character = '0'
  · subst zero
    decide
  by_cases one : character = '1'
  · subst one
    decide
  have unfixed : Filter.isFixed (Text.fold character) = false := by
    rw [Filter.isFixed_fold]
    simp [Filter.isFixed, zero, one]
  rw [unfixed, ofCharacter, if_neg zero, if_neg one]
  split <;> rfl

theorem tells_one : Tells (· == '1') fun role => decide (role = .one) := by
  refine ⟨?_, rfl⟩
  intro character
  by_cases one : character = '1'
  · subst one
    decide
  have unset : (Text.fold character == '1') = false := by
    simp [Text.fold_eq_one_iff, one]
  rw [unset, ofCharacter, if_neg one]
  split
  · rfl
  · split <;> rfl

theorem tells_size :
    Tells (· == Text.fold sizeMarker) fun role => decide (role = .size) := by
  refine ⟨?_, rfl⟩
  intro character
  have marker : Text.fold sizeMarker = sizeMarker := by decide
  by_cases zero : character = '0'
  · subst zero
    decide
  by_cases one : character = '1'
  · subst one
    decide
  rw [marker, ofCharacter, if_neg zero, if_neg one]
  by_cases size : Text.fold character = sizeMarker
  · simp [size]
  · simp [size]

end BitRole

namespace Filter

/-- The masks of a pattern hold the bits with certain roles. -/
theorem bit_maskWhere_of_tells {test : Char → Bool} {holds : BitRole → Bool}
    (tells : BitRole.Tells test holds) {pattern : String} (short : IsShort pattern)
    (position : Nat) :
    Word.bit (maskWhere test (ofPattern pattern none).letters) position =
      holds (roleAt pattern position) := by
  have bounded : (ofPattern pattern none).letters.length ≤ maxBits := by
    rw [length_letters_ofPattern]
    exact short
  have letter_at : (ofPattern pattern none).letters[position]? =
      ((described pattern).reverse[position]?).map Text.fold := by
    simp [ofPattern, ofLetters, ← List.map_reverse]
  have role_at : roleAt pattern position =
      (((described pattern).reverse[position]?).map BitRole.ofCharacter).getD .free := by
    rw [roleAt, rolesOf, List.getD_eq_getElem?_getD, List.getElem?_map]
    rfl
  rw [bit_maskWhere test bounded, letter_at, role_at]
  cases (described pattern).reverse[position]? with
  | none => exact tells.free.symm
  | some character => exact tells.fold character

theorem maskWhere_eq_of_sameRoles {test : Char → Bool} {holds : BitRole → Bool}
    (tells : BitRole.Tells test holds) {pattern other : String} (short : IsShort pattern)
    (otherShort : IsShort other) (same : SameRoles pattern other) :
    maskWhere test (ofPattern pattern none).letters =
      maskWhere test (ofPattern other none).letters := by
  apply Word.eq_of_bit_eq
  intro position inside
  rw [bit_maskWhere_of_tells tells short, bit_maskWhere_of_tells tells otherShort,
    same position inside]

theorem rolesOf_append (front back : List Char) :
    rolesOf (front ++ back) = rolesOf back ++ rolesOf front := by
  simp [rolesOf, Text.withoutBlanks]

theorem rolesOf_blank {blank : Char} (isBlank : Text.isBlank blank = true)
    (characters : List Char) : rolesOf (blank :: characters) = rolesOf characters := by
  simp [rolesOf, Text.withoutBlanks, isBlank]

theorem rolesOf_free {marker : Char} (isFree : IsFreeMarker marker)
    (characters : List Char) :
    rolesOf (marker :: characters) = rolesOf characters ++ [.free] := by
  simp [rolesOf, Text.withoutBlanks, isFree.1, isFree.2]

/-- A change of style leaves the role of every bit as it is. -/
theorem Restyle.roles {characters others : List Char} (restyle : Restyle characters others)
    (position : Nat) :
    (rolesOf characters).getD position .free = (rolesOf others).getD position .free := by
  cases restyle with
  | rename front back isFree otherFree =>
      rw [rolesOf_append, rolesOf_append, rolesOf_free isFree, rolesOf_free otherFree]
  | space front back isBlank =>
      rw [rolesOf_append, rolesOf_append, rolesOf_blank isBlank]
  | widen characters isFree =>
      rw [rolesOf_free isFree]
      by_cases inside : position < (rolesOf characters).length
      · rw [List.getD_append _ _ _ _ inside]
      · have outside := Nat.le_of_not_lt inside
        rw [List.getD_append_right _ _ _ _ outside, List.getD_eq_default _ _ outside]
        cases position - (rolesOf characters).length <;> rfl

theorem getD_rolesOf_of_restyled {characters others : List Char}
    (restyled : Relation.EqvGen Restyle characters others) (position : Nat) :
    (rolesOf characters).getD position .free = (rolesOf others).getD position .free := by
  induction restyled with
  | rel characters others restyle => exact restyle.roles position
  | refl characters => rfl
  | symm characters others _ induction => exact induction.symm
  | trans characters between others _ _ first second => exact first.trans second

theorem sameRoles_of_restyled {pattern other : String}
    (restyled : Relation.EqvGen Restyle pattern.toList other.toList) :
    SameRoles pattern other :=
  fun position _ => getD_rolesOf_of_restyled restyled position

/-- Two patterns that compile and either give every bit the same role or come from one
another by changes of style. -/
structure Interchangeable (pattern other : String) : Prop where
  compiles : ∃ filter, compile pattern none = .ok filter
  otherCompiles : ∃ filter, compile other none = .ok filter
  alike : SameRoles pattern other ∨ Relation.EqvGen Restyle pattern.toList other.toList

namespace Interchangeable

variable {pattern other : String} (interchangeable : Interchangeable pattern other)
include interchangeable

theorem sameRoles : SameRoles pattern other :=
  interchangeable.alike.elim id sameRoles_of_restyled

theorem isShort : IsShort pattern := by
  obtain ⟨filter, compiled⟩ := interchangeable.compiles
  exact isShort_of_compile compiled

theorem isShort_other : IsShort other := by
  obtain ⟨filter, compiled⟩ := interchangeable.otherCompiles
  exact isShort_of_compile compiled

end Interchangeable

end Filter

namespace Header

/-- The header without the letters that its masks were compiled from. -/
def bare (header : Header) : Header :=
  { header with filter := { header.filter with letters := [] } }

theorem bare_ofPattern {pattern other : String}
    (interchangeable : Filter.Interchangeable pattern other) :
    (ofPattern pattern).bare = (ofPattern other).bare := by
  have short := interchangeable.isShort
  have otherShort := interchangeable.isShort_other
  have same := interchangeable.sameRoles
  have fixedMask :=
    Filter.maskWhere_eq_of_sameRoles BitRole.tells_isFixed short otherShort same
  have fixedValue :=
    Filter.maskWhere_eq_of_sameRoles BitRole.tells_one short otherShort same
  have sizeMask :=
    Filter.maskWhere_eq_of_sameRoles BitRole.tells_size short otherShort same
  simp only [Filter.ofPattern, Filter.ofLetters] at fixedMask fixedValue sizeMask
  simp only [bare, ofPattern, Filter.ofPattern, Filter.ofLetters, Filter.field,
    Filter.fieldMask, fixedMask, fixedValue, sizeMask]

end Header

end Readout
