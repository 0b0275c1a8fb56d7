/-!
# Ranges of code points

Classes of characters that are given by the ranges of their code points.
-/

namespace Parley.Text

/-- Ranges of code points, each by its first and its last one. -/
abbrev CodeRanges := List (Nat × Nat)

def CodeRanges.holds (ranges : CodeRanges) (character : Char) : Bool :=
  ranges.any fun (first, last) => first ≤ character.toNat && character.toNat ≤ last

end Parley.Text
