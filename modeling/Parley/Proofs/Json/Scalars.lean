import Parley.Json.Printer
import Parley.Json.Reader

/-!
# Simple values read back

A text in quotes is read back character by character, whatever follows it, and an integer that
fits a word is read back wherever its digits end. The main statements are `readText_renderText` and
`readUnsigned_toDigits`.
-/

namespace Parley.Json

/-! ## Strings -/

theorem hexValue?_lowerHexDigit :
    ∀ value < 16, Text.hexValue? (Text.lowerHexDigit value) = some value := by
  decide

theorem readHex_of_control (character : Char) (control : character.toNat < 0x20)
    (rest : List Char) :
    readHex ('0' :: '0' :: Text.lowerHexDigit (character.toNat / 16) ::
        Text.lowerHexDigit (character.toNat % 16) :: rest) =
      .ok (character.toNat, rest) := by
  have zero : Text.hexValue? '0' = some 0 := by decide
  have high := hexValue?_lowerHexDigit (character.toNat / 16) (by omega)
  have low := hexValue?_lowerHexDigit (character.toNat % 16) (Nat.mod_lt _ (by decide))
  have value :
      0 * 4096 + 0 * 256 + character.toNat / 16 * 16 + character.toNat % 16 =
        character.toNat := by
    omega
  simp only [readHex, zero, high, low, value]

theorem not_surrogate_of_control {character : Char} (control : character.toNat < 0x20) :
    isLowSurrogate character.toNat = false ∧ isHighSurrogate character.toNat = false := by
  simp only [isLowSurrogate, isHighSurrogate, Bool.and_eq_false_iff, decide_eq_false_iff_not]
  omega

theorem readEscape_of_control (character : Char) (control : character.toNat < 0x20)
    (rest : List Char) :
    readEscape ('u' :: '0' :: '0' :: Text.lowerHexDigit (character.toNat / 16) ::
        Text.lowerHexDigit (character.toNat % 16) :: rest) =
      .ok (character, rest) := by
  obtain ⟨notLow, notHigh⟩ := not_surrogate_of_control control
  simp [readEscape, readHex_of_control character control, notLow, notHigh, Bind.bind, Except.bind]

/-- One character is read back from its escaped form. -/
theorem readCharacters_escape (fuel : Nat) (read : List Char) (character : Char)
    (rest : List Char) :
    readCharacters (fuel + 1) read (escape character ++ rest) =
      readCharacters fuel (character :: read) rest := by
  unfold escape
  split
  case h_8 notQuote notBackslash _ _ _ _ _ =>
    split
    next control =>
      simp [readCharacters, readEscape_of_control character control]
    next printable =>
      rw [List.singleton_append, readCharacters, if_neg notQuote, if_neg notBackslash,
        if_neg printable]
  all_goals simp [readCharacters, readEscape]

theorem length_le_flatMap_escape (characters : List Char) :
    characters.length ≤ (characters.flatMap escape).length := by
  induction characters with
  | nil => simp
  | cons character rest inductionHypothesis =>
      have taken : 1 ≤ (escape character).length := by
        unfold escape
        split <;> try split
        all_goals simp
      simp only [List.flatMap_cons, List.length_append, List.length_cons]
      omega

theorem readCharacters_flatMap_escape (characters read rest : List Char) (fuel : Nat)
    (enough : characters.length < fuel) :
    readCharacters fuel read (characters.flatMap escape ++ '"' :: rest) =
      .ok (read.reverse ++ characters, rest) := by
  induction characters generalizing read fuel with
  | nil =>
      obtain ⟨fuel, rfl⟩ := Nat.exists_eq_add_of_lt enough
      simp [readCharacters]
  | cons character following inductionHypothesis =>
      obtain ⟨left, rfl⟩ : ∃ left, fuel = left + 1 := ⟨fuel - 1, by omega⟩
      rw [List.flatMap_cons, List.append_assoc, readCharacters_escape,
        inductionHypothesis _ _ (by simpa using enough)]
      simp

/-- A text in quotes is read back after its opening quote, whatever follows. -/
theorem readText_renderText (text : String) (rest : List Char) :
    readText (text.toList.flatMap escape ++ '"' :: rest) = .ok (text, rest) := by
  have enough :
      text.toList.length < (text.toList.flatMap escape ++ '"' :: rest).length + 1 := by
    have longer := length_le_flatMap_escape text.toList
    simp only [List.length_append]
    omega
  unfold readText
  rw [readCharacters_flatMap_escape _ _ _ _ enough]
  simp [Bind.bind, Except.bind]

/-! ## Integers -/

/-- A number is over before the text. -/
def Breaks : List Char → Prop
  | [] => True
  | character :: _ =>
      character.isDigit = false ∧ character ≠ '.' ∧ character ≠ 'e' ∧ character ≠ 'E'

/-- The number is an integer that fits an unsigned or a signed word. -/
def Number.IsInteger : Number → Prop
  | .natural value => value ≤ greatestWord
  | .negative magnitude => 0 < magnitude ∧ magnitude ≤ greatestNegative
  | .binary _ => False

/-- No digit stands in front. -/
def EndsDigits (text : List Char) : Prop :=
  ∀ character ∈ text.head?, character.isDigit = false

theorem Breaks.endsDigits {rest : List Char} (breaks : Breaks rest) : EndsDigits rest := by
  cases rest with
  | nil => exact fun _ absent => absurd absent (Option.not_mem_none _)
  | cons character following =>
      intro first isFirst
      cases isFirst
      exact breaks.1

theorem spanDigits_of_endsDigits {digits rest : List Char}
    (areDigits : ∀ digit ∈ digits, digit.isDigit = true) (ends : EndsDigits rest) :
    spanDigits (digits ++ rest) = (digits, rest) := by
  have stops : rest.takeWhile Char.isDigit = [] ∧ rest.dropWhile Char.isDigit = rest := by
    cases rest with
    | nil => exact ⟨rfl, rfl⟩
    | cons character following =>
        have other : character.isDigit = false := ends character rfl
        simp [other]
  rw [spanDigits, List.takeWhile_append_of_pos areDigits, List.dropWhile_append_of_pos areDigits,
    stops.1, stops.2, List.append_nil]

theorem spanDigits_append {digits rest : List Char}
    (areDigits : ∀ digit ∈ digits, digit.isDigit = true) (breaks : Breaks rest) :
    spanDigits (digits ++ rest) = (digits, rest) :=
  spanDigits_of_endsDigits areDigits breaks.endsDigits

theorem le_ofDigitChars (digits : List Char) (value : Nat) :
    value ≤ Nat.ofDigitChars 10 digits value := by
  rw [Nat.ofDigitChars_eq_ofDigitChars_zero]
  have scaled : 1 * value ≤ 10 ^ digits.length * value :=
    Nat.mul_le_mul_right value (Nat.one_le_pow _ _ (by decide))
  omega

/-- Digits whose number fits a word are all taken. -/
theorem gather_of_le {digits : List Char} {value : Nat}
    (fits : Nat.ofDigitChars 10 digits value ≤ greatestWord) :
    gather value digits = ⟨Nat.ofDigitChars 10 digits value, 0⟩ := by
  induction digits generalizing value with
  | nil =>
      rfl
  | cons digit rest inductionHypothesis =>
      have next : 10 * value + (digit.toNat - '0'.toNat) = value * 10 + (digit.toNat - 48) := by
        rw [Nat.mul_comm]
        rfl
      rw [Nat.ofDigitChars_cons, next] at fits ⊢
      rw [gather, if_pos (Nat.le_trans (le_ofDigitChars rest _) fits)]
      exact inductionHypothesis fits

/-- Only zero is written with a zero at the front. -/
theorem toDigits_head?_ne_zero {value : Nat} (positive : 0 < value) :
    (Nat.toDigits 10 value).head? ≠ some '0' := by
  induction value using Nat.strongRecOn with
  | ind value inductionHypothesis =>
      rw [Nat.toDigits_eq_if (by decide)]
      split
      next small =>
        simpa using Nat.pos_iff_ne_zero.mp positive
      next large =>
        have front := inductionHypothesis (value / 10) (by omega) (by omega)
        cases digits : Nat.toDigits 10 (value / 10) with
        | nil =>
            exact absurd digits Nat.toDigits_ne_nil
        | cons first rest =>
            rw [digits] at front
            simpa using front

theorem not_leadingZero (value : Nat) (first : Char) (rest : List Char) :
    Nat.toDigits 10 value ≠ '0' :: first :: rest := by
  intro written
  rcases Nat.eq_zero_or_pos value with rfl | positive
  · rw [Nat.toDigits_zero] at written
    cases written
  · exact toDigits_head?_ne_zero positive (by rw [written, List.head?_cons])

/-- The digits of a word are taken whole, whatever ends them. -/
theorem readUnsigned_toDigits
    (negative : Bool) {value : Nat} (fits : value ≤ greatestWord) {rest : List Char}
    (breaks : Breaks rest) :
    readUnsigned negative (Nat.toDigits 10 value ++ rest) =
      readAfterInteger negative ⟨value, 0⟩ rest := by
  have areDigits : ∀ digit ∈ Nat.toDigits 10 value, digit.isDigit = true :=
    fun digit member => Nat.isDigit_of_mem_toDigits (by decide) (by decide) member
  have number : Nat.ofDigitChars 10 (Nat.toDigits 10 value) 0 = value :=
    Nat.ofDigitChars_ten_toDigits
  have taken : gather 0 (Nat.toDigits 10 value) = ⟨value, 0⟩ := by
    rw [gather_of_le (by rw [number]; exact fits), number]
  unfold readUnsigned
  rw [spanDigits_append areDigits breaks]
  split
  next empty =>
    exact absurd (congrArg Prod.fst empty) Nat.toDigits_ne_nil
  next empty =>
    exact absurd (congrArg Prod.fst empty) Nat.toDigits_ne_nil
  next leading =>
    exact absurd (congrArg Prod.fst leading) (not_leadingZero value _ _)
  next whole =>
    obtain ⟨rfl, rfl⟩ := Prod.mk.inj whole
    rw [taken]

theorem readAfterInteger_of_breaks {negative : Bool} {integer : Significand} {rest : List Char}
    (breaks : Breaks rest) :
    readAfterInteger negative integer rest =
      if integer.dropped ≠ 0 then do
        .ok (← binaryNumber negative integer.value integer.dropped, rest)
      else if ! negative then .ok (.natural integer.value, rest)
      else if integer.value = 0 ∨ greatestNegative < integer.value then do
        .ok (← binaryNumber true integer.value 0, rest)
      else .ok (.negative integer.value, rest) := by
  cases rest with
  | nil =>
      rfl
  | cons character following =>
      obtain ⟨_, notPoint, notSmall, notCapital⟩ := breaks
      unfold readAfterInteger
      split <;> simp_all

theorem readUnsigned_natural {value : Nat} (fits : value ≤ greatestWord) {rest : List Char}
    (breaks : Breaks rest) :
    readUnsigned false (Nat.toDigits 10 value ++ rest) = .ok (.natural value, rest) := by
  rw [readUnsigned_toDigits false fits breaks, readAfterInteger_of_breaks breaks]
  rfl

theorem readUnsigned_negative {magnitude : Nat} (positive : 0 < magnitude)
    (fits : magnitude ≤ greatestNegative) {rest : List Char} (breaks : Breaks rest) :
    readUnsigned true (Nat.toDigits 10 magnitude ++ rest) = .ok (.negative magnitude, rest) := by
  have word : magnitude ≤ greatestWord := Nat.le_trans fits (by decide)
  have inRange : ¬(magnitude = 0 ∨ greatestNegative < magnitude) := by omega
  rw [readUnsigned_toDigits true word breaks, readAfterInteger_of_breaks breaks]
  simp [inRange]

end Parley.Json
