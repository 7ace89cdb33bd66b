import Readout.Header

/-!
# What the bits of a header pattern are for

A header pattern fixes a bit, gives it to the size field or leaves it free, and the bits
above the pattern are free too.  `Filter.roleAt` reads this off the pattern as it is
written.  A pattern can be written in another style, with other names for the markers of
its free bits, other blanks and more free bits in front.
-/

namespace Readout

/-- What a bit of a header pattern is for. -/
inductive BitRole where
  | zero
  | one
  /-- The bit belongs to the size field. -/
  | size
  | free
deriving DecidableEq

namespace BitRole

def ofCharacter (character : Char) : BitRole :=
  if character = '0' then .zero
  else if character = '1' then .one
  else if Text.fold character = sizeMarker then .size
  else .free

end BitRole

namespace Filter

/-- The roles of the bits that a pattern describes, bit 0 first. -/
def rolesOf (characters : List Char) : List BitRole :=
  (Text.withoutBlanks characters).reverse.map BitRole.ofCharacter

def roleAt (pattern : String) (position : Nat) : BitRole :=
  (rolesOf pattern.toList).getD position .free

/-- Every bit of a word has the same role in both patterns. -/
def SameRoles (pattern other : String) : Prop :=
  ∀ position, position < Word.size → roleAt pattern position = roleAt other position

instance (pattern other : String) : Decidable (SameRoles pattern other) :=
  inferInstanceAs (Decidable (∀ position, position < Word.size → _))

def IsFreeMarker (character : Char) : Prop :=
  Text.isBlank character = false ∧ BitRole.ofCharacter character = .free

/-- One change in the style of a pattern. -/
inductive Restyle : List Char → List Char → Prop where
  | rename (front back : List Char) {marker other : Char} :
      IsFreeMarker marker → IsFreeMarker other →
      Restyle (front ++ marker :: back) (front ++ other :: back)
  | space (front back : List Char) {blank : Char} :
      Text.isBlank blank = true → Restyle (front ++ back) (front ++ blank :: back)
  | widen (characters : List Char) {marker : Char} :
      IsFreeMarker marker → Restyle characters (marker :: characters)

end Filter

end Readout
