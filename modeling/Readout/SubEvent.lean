import Readout.Header

/-!
# The format of sub-events

`Header.IsSubEvent` says what a complete sub-event is, without saying how a
module's words are searched for one, and `Header.encode` writes sub-events.
Reading does not depend on the bits that are neither fixed nor part of the size
field, so writing fills them with any noise.
-/

namespace Readout

namespace Header

/-- A complete sub-event is a word that the filter matches, followed by as many
words as the size field of that word says. -/
def IsSubEvent (header : Header) : List Word → Prop
  | [] => False
  | word :: payload =>
      header.filter.matchesWord word = true ∧
        payload.length = (header.size.extract word).toNat

instance (header : Header) (words : List Word) : Decidable (header.IsSubEvent words) :=
  match words with
  | [] => inferInstanceAs (Decidable False)
  | _ :: _ => inferInstanceAs (Decidable (_ ∧ _))

/-- The bits of a header word that carry no information for splitting. -/
def freeMask (header : Header) : Word :=
  ~~~(header.filter.fixedMask ||| header.size.mask)

/-- The header word of a sub-event with a number of words behind it. -/
def encodeHeader (header : Header) (noise : Word) (length : Nat) : Word :=
  header.filter.fixedValue ||| Word.deposit (UInt32.ofNat length) header.size.mask |||
    (noise &&& header.freeMask)

def encode (header : Header) (noise : Word) (payload : List Word) : List Word :=
  header.encodeHeader noise payload.length :: payload

/-- The sub-events of payloads, each with the noise of its header. -/
def encodeAll (header : Header) (entries : List (Word × List Word)) : List (List Word) :=
  entries.map fun entry => header.encode entry.1 entry.2

theorem not_isSubEvent_nil (header : Header) : ¬ header.IsSubEvent [] :=
  fun absurdity => absurdity

end Header

end Readout
