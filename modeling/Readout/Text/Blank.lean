import Readout.Text.Ranges

/-!
# Blank characters

The blanks are the 25 characters of the Unicode property White_Space.
-/

namespace Readout.Text

def blankRanges : List CodeRange :=
  [
    ⟨0x0009, 0x000D⟩, ⟨0x0020, 0x0020⟩, ⟨0x0085, 0x0085⟩, ⟨0x00A0, 0x00A0⟩,
    ⟨0x1680, 0x1680⟩, ⟨0x2000, 0x200A⟩, ⟨0x2028, 0x2029⟩, ⟨0x202F, 0x202F⟩,
    ⟨0x205F, 0x205F⟩, ⟨0x3000, 0x3000⟩
  ]

def isBlank (character : Char) : Bool :=
  CodeRange.covers blankRanges character

def withoutBlanks (characters : List Char) : List Char :=
  characters.filter (!isBlank ·)

def trimBlanks (characters : List Char) : List Char :=
  ((characters.dropWhile isBlank).reverse.dropWhile isBlank).reverse

theorem not_isBlank_of_mem_withoutBlanks {characters : List Char} {character : Char}
    (member : character ∈ withoutBlanks characters) : isBlank character = false := by
  have kept := (List.mem_filter.mp member).2
  simpa using kept

end Readout.Text
