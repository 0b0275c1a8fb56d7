import Parley.Url.Domain.Capitals
import Parley.Url.Domain.Refused
import Parley.Url.Domain.Substitutes

/-!
# Folding of domain names

How characters are prepared before a domain name is encoded: capitals are lowered, compatibility
forms are replaced by what they stand for, invisible characters are dropped, and control, private
and unassigned characters are refused. Every other character stands for itself.
-/

namespace Parley.Url

/-- The small letter of a capital, if the character is one. -/
def lowered? (character : Char) : Option Char :=
  if alternatingRanges.any fun (first, last) =>
      first ≤ character.toNat && character.toNat ≤ last && (character.toNat - first) % 2 == 0 then
    some (Char.ofNat (character.toNat + 1))
  else
    shiftedRanges.findSome? fun range =>
      if range.first ≤ character.toNat && character.toNat ≤ range.last then
        some (Char.ofNat ((character.toNat : Int) + range.distance).toNat)
      else none

/-- What a compatibility character stands for, if the character is one. -/
def substitute? (character : Char) : Option (List Char) :=
  substitutedRanges.findSome? fun range =>
    if range.first ≤ character.toNat && character.toNat ≤ range.last then
      (range.words.toList.splitOn ' ')[character.toNat - range.first]?
    else none

/-- The characters that a character is replaced by; none if it is refused. -/
def foldCharacter? (character : Char) : Option (List Char) :=
  if character.toNat < 128 then some [character.toLower]
  else if refusedRanges.holds character then none
  else if ignoredRanges.holds character then some []
  else
    match lowered? character with
    | some small => some [small]
    | none => some ((substitute? character).getD [character])

end Parley.Url
