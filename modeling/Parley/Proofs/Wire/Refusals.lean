import Parley.Proofs.Text.Ascii
import Parley.Proofs.Wire.Reading

/-!
# How a refusal is recognised

A message refuses the token if some piece of it is a refusal pattern, up to the case of ASCII
letters. The main statement is that the client takes messages for refusals exactly by this rule, and
texts exactly if they are packets of the kind `Error` with such a message.
-/

namespace Parley.Wire

open Text (HasPiece SameLetters)

/-- Some piece of the text is a refusal pattern, up to the case of ASCII letters. -/
def ShowsRefusal (text : List Char) : Prop :=
  ∃ pattern ∈ refusalPatterns, HasPiece pattern.toList text

theorem isAscii_of_mem_refusalPatterns :
    ∀ pattern ∈ refusalPatterns, Text.isAscii pattern.toList = true := by
  decide

/-- A text is a refusal if and only if it shows one of the patterns. -/
theorem isRefusal_iff {message : String} :
    isRefusal message = true ↔ ShowsRefusal message.toList := by
  rw [isRefusal, List.any_eq_true]
  constructor
  · rintro ⟨pattern, member, contains⟩
    exact ⟨pattern, member, Text.containsFolded_iff.mp contains⟩
  · rintro ⟨pattern, member, has⟩
    exact ⟨pattern, member, Text.containsFolded_iff.mpr has⟩

theorem isRefusal_congr {message other : String}
    (same : SameLetters message.toList other.toList) : isRefusal message = isRefusal other := by
  unfold isRefusal
  congr 1
  funext pattern
  exact Text.containsFolded_congr same pattern.toList

theorem isRefusal_extend {message : String} (refuses : isRefusal message = true)
    (before after : String) : isRefusal (before ++ message ++ after) = true := by
  obtain ⟨pattern, member, has⟩ := isRefusal_iff.mp refuses
  rw [isRefusal_iff, String.toList_append, String.toList_append]
  exact ⟨pattern, member, has.extend before.toList after.toList⟩

/-- A refusal lies on one side of each character outside ASCII. -/
theorem isRefusal_across {character : Char} (outside : 128 ≤ character.toNat)
    (before after : String) :
    isRefusal (before ++ String.singleton character ++ after) =
      (isRefusal before || isRefusal after) := by
  have across (pattern : String) (member : pattern ∈ refusalPatterns) :=
    Text.hasPiece_across (isAscii_of_mem_refusalPatterns pattern member) outside before.toList
      after.toList
  have whole : (before ++ String.singleton character ++ after).toList =
      before.toList ++ character :: after.toList := by
    rw [String.toList_append, String.toList_append, String.toList_singleton, List.append_assoc]
    rfl
  rw [Bool.eq_iff_iff, Bool.or_eq_true, isRefusal_iff, isRefusal_iff, isRefusal_iff, whole]
  constructor
  · rintro ⟨pattern, member, has⟩
    rcases (across pattern member).mp has with left | right
    · exact Or.inl ⟨pattern, member, left⟩
    · exact Or.inr ⟨pattern, member, right⟩
  · rintro (⟨pattern, member, has⟩ | ⟨pattern, member, has⟩)
    · exact ⟨pattern, member, (across pattern member).mpr (Or.inl has)⟩
    · exact ⟨pattern, member, (across pattern member).mpr (Or.inr has)⟩

theorem Packet.text?_eq_some_iff {packet : Packet} {key text : String} :
    packet.text? key = some text ↔ Json.lookup? key packet.fields = some (.string text) := by
  rw [Packet.text?, Option.bind_eq_some_iff]
  constructor
  · rintro ⟨value, found, isText⟩
    cases value with
    | string held =>
        cases isText
        exact found
    | _ =>
        cases isText
  · intro found
    exact ⟨.string text, found, rfl⟩

theorem refusal?_eq_some_iff {text reason : String} :
    refusal? text = some reason ↔
      ∃ packet, Packet.parse text = .ok packet ∧ packet.refusal? = some reason := by
  unfold refusal?
  cases parsed : Packet.parse text with
  | error cause =>
      simp
  | ok packet =>
      simp

/-- A message is a refusal exactly if a piece of it is one of the patterns up to the case of ASCII
letters. The case of ASCII letters does not matter, nor what stands before and after, and a
character outside ASCII only parts a message in two. A text is taken for a refusal exactly if it
is a packet of the kind `Error` with such a message, and this message is what is handed on. -/
theorem refusals_are_recognised (message : String) :
    (isRefusal message = true ↔
      ∃ pattern ∈ refusalPatterns, ∃ found, found <:+: message.toList ∧
        SameLetters found pattern.toList) ∧
      (∀ other, SameLetters message.toList other.toList →
        isRefusal other = isRefusal message) ∧
      (∀ before after, isRefusal message = true →
        isRefusal (before ++ message ++ after) = true) ∧
      (∀ before character after, message = before ++ String.singleton character ++ after →
        128 ≤ character.toNat → isRefusal message = (isRefusal before || isRefusal after)) ∧
      ∀ text, Arrival.ofText text = .refusal message ↔
        ∃ packet, Packet.parse text = .ok packet ∧ packet.kind = "Error" ∧
          Json.lookup? "message" packet.fields = some (.string message) ∧
          isRefusal message = true := by
  refine ⟨isRefusal_iff, ?_, ?_, ?_, ?_⟩
  · intro other same
    exact (isRefusal_congr same).symm
  · intro before after refuses
    exact isRefusal_extend refuses before after
  · rintro before character after rfl outside
    exact isRefusal_across outside before after
  · intro text
    rw [Arrival.ofText_eq_refusal_iff, refusal?_eq_some_iff]
    simp only [Packet.refusal?_eq_some_iff, Packet.text?_eq_some_iff]

/-- The Kelvin sign is no letter of a pattern, and it hides no pattern next to it. -/
theorem recognised_beside_kelvinSign :
    isRefusal "to\u212Aen expired" = false ∧ isRefusal "\u212A: TOKEN eXpired" = true := by
  have outside : 128 ≤ '\u212A'.toNat := by decide
  have parted (before after : String) :=
    (refusals_are_recognised (before ++ String.singleton '\u212A' ++ after)).2.2.2.1
      before '\u212A' after rfl outside
  have hidden := parted "to" "en expired"
  have beside := parted "" ": TOKEN eXpired"
  exact ⟨hidden.trans (by decide), beside.trans (by decide)⟩

end Parley.Wire
