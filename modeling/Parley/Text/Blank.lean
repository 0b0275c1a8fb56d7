/-!
# White space

The characters with the Unicode property White_Space, trimming, and the split of a line at its
first blank.
-/

namespace Parley.Text

/-- The character has the Unicode property White_Space. -/
def isBlank (character : Char) : Bool :=
  let code := character.toNat
  (9 ≤ code && code ≤ 13) || code == 0x20 || code == 0x85 || code == 0xA0 ||
    code == 0x1680 || (0x2000 ≤ code && code ≤ 0x200A) || code == 0x2028 ||
    code == 0x2029 || code == 0x202F || code == 0x205F || code == 0x3000

def trimLeft (text : List Char) : List Char :=
  text.dropWhile isBlank

def trimRight (text : List Char) : List Char :=
  (text.reverse.dropWhile isBlank).reverse

def trim (text : List Char) : List Char :=
  trimRight (trimLeft text)

/-- The parts before and after the first blank, which belongs to neither. -/
def splitAtBlank? (text : List Char) : Option (List Char × List Char) :=
  match text.dropWhile (! isBlank ·) with
  | [] => none
  | _ :: after => some (text.takeWhile (! isBlank ·), after)

/-- Nothing is left of the text once blanks are trimmed. -/
def isBlankText (text : List Char) : Bool :=
  text.all isBlank

/-- A trimmed text does not start with a blank. -/
theorem isBlank_of_head?_trimLeft {text : List Char} {character : Char}
    (first : (trimLeft text).head? = some character) : isBlank character = false := by
  induction text with
  | nil => simp [trimLeft] at first
  | cons head rest inductionHypothesis =>
      cases blank : isBlank head with
      | true =>
          apply inductionHypothesis
          simpa [trimLeft, List.dropWhile_cons, blank] using first
      | false =>
          have same : head = character := by
            simpa [trimLeft, List.dropWhile_cons, blank] using first
          exact same ▸ blank

end Parley.Text
