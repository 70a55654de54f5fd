/-!
# Ranges of characters

A class of characters is given by the ranges of their numbers, with both ends,
ascending and apart.
-/

namespace MixUnits.Text

/-- Ranges of numbers of characters; both ends of a range belong to it. -/
abbrev CharacterRanges := List (Nat × Nat)

namespace CharacterRanges

/-- Whether a number lies in one of the ranges. -/
def covers
    (ranges : CharacterRanges)
    (number : Nat) :
    Bool :=
  ranges.any fun range => range.1 ≤ number && number ≤ range.2

end CharacterRanges

end MixUnits.Text
