/-!
# Words

Counts, sizes and durations are held in unsigned words of 64 bits, counts of attempts in half
words. Arithmetic that would pass the greatest word stops there.
-/

namespace Parley

def greatestWord : Nat := Nat.pow 2 64 - 1

def greatestHalfWord : Nat := Nat.pow 2 32 - 1

/-- The number itself while it fits a word, and the greatest word from there on. -/
def saturate (value : Nat) : Nat :=
  min value greatestWord

/-- A number that fits a word is left alone. -/
theorem saturate_of_le {value : Nat} (fits : value ≤ greatestWord) :
    saturate value = value :=
  Nat.min_eq_left fits

end Parley
