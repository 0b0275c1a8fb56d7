import Parley.Proofs.Json.Scalars
import Parley.Proofs.Toml.Strings

/-!
# Scalars of TOML, written and read

A value of any kind that is written is read back at the end of its line. An integer starts like a
date, a float and a number with a prefix, so it has to be shown that none of these is read in its
place.
-/

namespace Parley.Toml

/-! ## Digits -/

section Digits

variable {digits rest : List Char} {digit : Char}

theorem digitValue?_of_isDigit (isDigit : digit.isDigit = true) :
    Text.digitValue? 10 digit = some (digit.toNat - 48) := by
  obtain ⟨least, most⟩ : 48 ≤ digit.val ∧ digit.val ≤ 57 := by
    simpa [Char.isDigit] using isDigit
  have range : '0' ≤ digit ∧ digit ≤ '9' := ⟨least, most⟩
  have small : digit.toNat - 48 < 10 := by
    have atMost : digit.toNat ≤ 57 := most
    omega
  rw [Text.digitValue?, Text.hexValue?, if_pos range, Option.filter_some, if_pos]
  exact decide_eq_true small

theorem numeral_of_digits (areDigits : ∀ digit ∈ digits, digit.isDigit = true) :
    Text.numeral 10 digits = Nat.ofDigitChars 10 digits 0 := by
  have goesOn (value : Nat) :
      digits.foldl (fun value digit => value * 10 + (Text.digitValue? 10 digit).getD 0) value =
        Nat.ofDigitChars 10 digits value := by
    induction digits generalizing value with
    | nil =>
        rfl
    | cons first later inductionHypothesis =>
        obtain ⟨isDigit, areLater⟩ := List.forall_mem_cons.mp areDigits
        rw [List.foldl_cons, inductionHypothesis areLater, Nat.ofDigitChars_cons,
          digitValue?_of_isDigit isDigit, Nat.mul_comm]
        rfl
  exact goesOn 0

theorem readDigits?_append {read : List Char} (some : digits ≠ [])
    (areDigits : ∀ digit ∈ digits, digit.isDigit = true) :
    readDigits? 10 read (digits ++ '\n' :: rest) =
      .some (read.reverse ++ digits, '\n' :: rest) := by
  induction digits generalizing read with
  | nil =>
      exact absurd rfl some
  | cons first later inductionHypothesis =>
      obtain ⟨isDigit, areLater⟩ := List.forall_mem_cons.mp areDigits
      have isSome : (Text.digitValue? 10 first).isSome = true := by
        rw [digitValue?_of_isDigit isDigit]
        rfl
      cases later with
      | nil =>
          have newline : (Text.digitValue? 10 '\n').isSome = false := rfl
          simp [readDigits?, isSome, newline]
      | cons next behind =>
          have nextIsDigit : next.isDigit = true := areLater next List.mem_cons_self
          have nextIsSome : (Text.digitValue? 10 next).isSome = true := by
            rw [digitValue?_of_isDigit nextIsDigit]
            rfl
          have goesOn : readDigits? 10 (first :: read) (next :: behind ++ '\n' :: rest) =
              .some ((first :: read).reverse ++ next :: behind, '\n' :: rest) :=
            inductionHypothesis (List.cons_ne_nil _ _) areLater
          have notUnderscore : next ≠ '_' := by
            rintro rfl
            cases nextIsDigit
          rw [List.cons_append] at goesOn
          rw [List.cons_append, List.cons_append, readDigits?, if_pos isSome, if_pos nextIsSome,
            goesOn]
          · simp
          · exact notUnderscore

end Digits

theorem areDigits_toDigits (value : Nat) :
    ∀ digit ∈ Nat.toDigits 10 value, digit.isDigit = true :=
  fun _ member => Nat.isDigit_of_mem_toDigits (by decide) (by decide) member

theorem numeral_toDigits (value : Nat) : Text.numeral 10 (Nat.toDigits 10 value) = value := by
  rw [numeral_of_digits (areDigits_toDigits value)]
  exact Nat.ofDigitChars_ten_toDigits

theorem readWhole?_toDigits (value : Nat) (rest : List Char) :
    readWhole? (Nat.toDigits 10 value ++ '\n' :: rest) =
      some (Nat.toDigits 10 value, '\n' :: rest) := by
  cases written : Nat.toDigits 10 value with
  | nil =>
      exact absurd written Nat.toDigits_ne_nil
  | cons first later =>
      by_cases zero : first = '0'
      · subst zero
        cases later with
        | nil =>
            rfl
        | cons second behind =>
            exact absurd written (Json.not_leadingZero value second behind)
      · have notZero : readWhole? (first :: later ++ '\n' :: rest) =
            readDigits? 10 [] (first :: later ++ '\n' :: rest) := by
          unfold readWhole?
          split
          next isZero =>
            cases isZero
            exact absurd rfl zero
          next =>
            rfl
        rw [notZero]
        exact readDigits?_append (List.cons_ne_nil _ _) (written ▸ areDigits_toDigits value)

/-! ## What an integer is not -/

section Dates

variable {digits rest : List Char} {count least greatest : Nat}

/-- What is left of digits after a field of a date. -/
theorem after_readField? {value : Nat} {behind : List Char}
    (areDigits : ∀ digit ∈ digits, digit.isDigit = true)
    (reads : readField? count least greatest (digits ++ '\n' :: rest) = some (value, behind)) :
    ∃ more, (∀ digit ∈ more, digit.isDigit = true) ∧ behind = more ++ '\n' :: rest := by
  dsimp only [readField?] at reads
  split at reads
  next isField =>
    obtain ⟨-, allDigits, -⟩ := isField
    cases reads
    -- The field ends before the line does.
    have within : count ≤ digits.length := by
      rcases Nat.lt_or_ge digits.length count with beyond | within
      · have newline : '\n' ∈ (digits ++ '\n' :: rest).take count := by
          obtain ⟨more, rfl⟩ := Nat.exists_eq_add_of_lt beyond
          rw [Nat.add_assoc, List.take_length_add_append, List.take_succ_cons]
          simp
        cases List.all_eq_true.mp allDigits '\n' newline
      · exact within
    refine ⟨digits.drop count, ?_, List.drop_append_of_le_length within⟩
    intro digit member
    exact areDigits digit (List.mem_of_mem_drop member)
  next =>
    cases reads

theorem expect?_eq_none {mark : Char} (word : List Char) (notDigit : mark.isDigit = false)
    (notNewline : mark ≠ '\n') (areDigits : ∀ digit ∈ digits, digit.isDigit = true) :
    expect? (mark :: word) (digits ++ '\n' :: rest) = none := by
  cases digits with
  | nil =>
      exact if_neg notNewline.symm
  | cons first later =>
      refine if_neg ?_
      rintro rfl
      rw [areDigits first List.mem_cons_self] at notDigit
      cases notDigit

theorem readField?_eq_none {first : Char} (positive : 0 < count)
    (notDigit : first.isDigit = false) :
    readField? count least greatest (first :: rest) = none := by
  obtain ⟨count, rfl⟩ := Nat.exists_eq_succ_of_ne_zero (Nat.ne_of_gt positive)
  refine if_neg ?_
  rw [List.take_succ_cons, List.all_cons, notDigit, Bool.false_and]
  rintro ⟨-, isDigit, -⟩
  cases isDigit

theorem readDateTime?_digits (areDigits : ∀ digit ∈ digits, digit.isDigit = true) :
    readDateTime? (digits ++ '\n' :: rest) = none := by
  have noDate : afterDate? (digits ++ '\n' :: rest) = none := by
    unfold afterDate?
    cases year : readField? 4 0 9999 (digits ++ '\n' :: rest) with
    | none =>
        rfl
    | some read =>
        obtain ⟨value, behind⟩ := read
        obtain ⟨more, areMore, rfl⟩ := after_readField? areDigits year
        have noDash : expect? ['-'] (more ++ '\n' :: rest) = none :=
          expect?_eq_none [] rfl (by decide) areMore
        simp [noDash]
  have noTime : afterTime? (digits ++ '\n' :: rest) = none := by
    unfold afterTime?
    cases hour : readField? 2 0 23 (digits ++ '\n' :: rest) with
    | none =>
        rfl
    | some read =>
        obtain ⟨value, behind⟩ := read
        obtain ⟨more, areMore, rfl⟩ := after_readField? areDigits hour
        have noColon : expect? [':'] (more ++ '\n' :: rest) = none :=
          expect?_eq_none [] rfl (by decide) areMore
        simp [noColon]
  rw [readDateTime?, noDate, noTime]
  rfl

theorem readDateTime?_eq_none {first : Char} (notDigit : first.isDigit = false) :
    readDateTime? (first :: rest) = none := by
  rw [readDateTime?, afterDate?, readField?_eq_none (by decide) notDigit, afterTime?,
    readField?_eq_none (by decide) notDigit]
  rfl

end Dates

/-! ## Integers -/

section Integers

variable {rest : List Char}

/-- A sign before the digits of a number. -/
def signOf (negative : Bool) : List Char :=
  if negative then ['-'] else []

theorem toDigits_eq_cons (value : Nat) :
    ∃ first later, Nat.toDigits 10 value = first :: later ∧ first.isDigit = true := by
  cases written : Nat.toDigits 10 value with
  | nil =>
      exact absurd written Nat.toDigits_ne_nil
  | cons first later =>
      exact ⟨first, later, rfl, areDigits_toDigits value first (written ▸ List.mem_cons_self)⟩

theorem readSign_signOf (negative : Bool) (value : Nat) (rest : List Char) :
    readSign (signOf negative ++ (Nat.toDigits 10 value ++ rest)) =
      (negative, Nat.toDigits 10 value ++ rest) := by
  cases negative with
  | true =>
      rfl
  | false =>
      obtain ⟨first, later, written, isDigit⟩ := toDigits_eq_cons value
      rw [written]
      change readSign (first :: (later ++ rest)) = (false, first :: (later ++ rest))
      unfold readSign
      split
      next isMinus =>
        cases isMinus
        cases isDigit
      next isPlus =>
        cases isPlus
        cases isDigit
      next =>
        rfl

theorem readDecimal?_integer (negative : Bool) (value : Nat) (rest : List Char) :
    readDecimal? (signOf negative ++ (Nat.toDigits 10 value ++ '\n' :: rest)) = none := by
  have noFraction : readFraction? ('\n' :: rest) = none := rfl
  have noExponent : readExponent? ('\n' :: rest) = none := rfl
  simp [readDecimal?, readSign_signOf, readWhole?_toDigits, noFraction, noExponent]

theorem readSpecial?_integer (negative : Bool) (value : Nat) (rest : List Char) :
    readSpecial? (signOf negative ++ (Nat.toDigits 10 value ++ '\n' :: rest)) = none := by
  have noInfinity : expect? ['i', 'n', 'f'] (Nat.toDigits 10 value ++ '\n' :: rest) = none :=
    expect?_eq_none _ rfl (by decide) (areDigits_toDigits value)
  have noNumber : expect? ['n', 'a', 'n'] (Nat.toDigits 10 value ++ '\n' :: rest) = none :=
    expect?_eq_none _ rfl (by decide) (areDigits_toDigits value)
  simp [readSpecial?, readSign_signOf, noInfinity, noNumber]

theorem readBased?_integer (negative : Bool) (value : Nat) (rest : List Char) :
    readBased? (signOf negative ++ (Nat.toDigits 10 value ++ '\n' :: rest)) = none := by
  cases negative with
  | true =>
      rfl
  | false =>
      cases written : Nat.toDigits 10 value with
      | nil =>
          exact absurd written Nat.toDigits_ne_nil
      | cons first later =>
          cases later with
          | nil =>
              change readBased? (first :: '\n' :: rest) = none
              unfold readBased?
              split <;> simp_all
          | cons second behind =>
              have notZero : first ≠ '0' := by
                rintro rfl
                exact Json.not_leadingZero value second behind written
              change readBased? (first :: second :: (behind ++ '\n' :: rest)) = none
              unfold readBased?
              split <;> simp_all

theorem readInteger?_integer {negative : Bool} {value : Nat}
    (fits : value ≤ greatestInteger negative) (rest : List Char) :
    readInteger? (signOf negative ++ (Nat.toDigits 10 value ++ '\n' :: rest)) =
      some (.integer (if negative then - (value : Int) else value), '\n' :: rest) := by
  simp [readInteger?, readSign_signOf, readWhole?_toDigits, numeral_toDigits, fits]

theorem toList_toString (value : Int) :
    (toString value).toList =
      signOf (decide (value < 0)) ++ Nat.toDigits 10 value.natAbs := by
  cases value with
  | ofNat magnitude =>
      simp [signOf, toString, Int.repr, Nat.repr]
  | negSucc magnitude =>
      simp [signOf, toString, Int.repr, Nat.repr, Int.negSucc_lt_zero]

theorem readScalar?_integer {value : Int}
    (fits : value.natAbs ≤ greatestInteger (decide (value < 0))) (rest : List Char) :
    readScalar? ((toString value).toList ++ '\n' :: rest) =
      some (.integer value, '\n' :: rest) := by
  have noString : readString?
      (signOf (decide (value < 0)) ++ (Nat.toDigits 10 value.natAbs ++ '\n' :: rest)) = none := by
    cases decide (value < 0) with
    | true =>
        rfl
    | false =>
        obtain ⟨first, later, written, isDigit⟩ := toDigits_eq_cons value.natAbs
        have notQuote {quote : Char} (notDigit : quote.isDigit = false) : first ≠ quote := by
          rintro rfl
          rw [isDigit] at notDigit
          cases notDigit
        rw [written]
        exact readString?_eq_none (notQuote rfl) (notQuote rfl)
  have noDate : readDateTime?
      (signOf (decide (value < 0)) ++ (Nat.toDigits 10 value.natAbs ++ '\n' :: rest)) = none := by
    cases decide (value < 0) with
    | true =>
        exact readDateTime?_eq_none rfl
    | false =>
        exact readDateTime?_digits (areDigits_toDigits value.natAbs)
  have same : (if decide (value < 0) = true then - (value.natAbs : Int) else value.natAbs) =
      value := by
    by_cases negative : value < 0
    · simp only [negative, decide_true, if_true]
      omega
    · simp only [negative, decide_false, Bool.false_eq_true, if_false]
      omega
  rw [toList_toString, List.append_assoc, readScalar?, noString, noDate, readDecimal?_integer,
    readSpecial?_integer, readBased?_integer, readInteger?_integer fits, same]
  rfl

end Integers

/-! ## Values -/

theorem readScalar?_string (text : String) (rest : List Char) :
    readScalar? (renderText text.toList ++ '\n' :: rest) =
      some (.string text, '\n' :: rest) := by
  rw [readScalar?, readString?_renderText]
  simp

theorem readScalar?_boolean (value : Bool) (rest : List Char) :
    readScalar? ((if value then "true" else "false").toList ++ '\n' :: rest) =
      some (.boolean value, '\n' :: rest) := by
  cases value with
  | true =>
      rfl
  | false =>
      rfl

/-- A value that can be written is read back at the end of its line. -/
theorem readScalar?_renderValue? {value : Toml} {text : String}
    (written : renderValue? value = some text) (rest : List Char) :
    readScalar? (text.toList ++ '\n' :: rest) = some (value, '\n' :: rest) := by
  cases value with
  | string content =>
      cases written
      rw [String.toList_ofList]
      exact readScalar?_string content rest
  | integer value =>
      rw [renderValue?] at written
      split at written
      next fits =>
        cases written
        exact readScalar?_integer fits rest
      next =>
        cases written
  | boolean value =>
      cases written
      exact readScalar?_boolean value rest
  | float value =>
      cases written
  | dateTime written =>
      cases written
  | array items =>
      cases written
  | table origin entries =>
      cases written
  | tables items =>
      cases written

/-- The first character of a value is no blank and opens no array or table. -/
structure OpensScalar (first : Char) : Prop where
  notBlank : isBlank first = false
  notBracket : first ≠ '['
  notBrace : first ≠ '\x7b'

theorem opensScalar_of_isDigit {first : Char} (isDigit : first.isDigit = true) :
    OpensScalar first := by
  have another {other : Char} (notDigit : other.isDigit = false) : first ≠ other := by
    rintro rfl
    rw [isDigit] at notDigit
    cases notDigit
  have notSpace : first ≠ ' ' := another rfl
  have notTab : first ≠ '\t' := another rfl
  refine ⟨?_, another rfl, another rfl⟩
  simp [isBlank, notSpace, notTab]

theorem renderText_eq_cons (text : List Char) :
    ∃ first later, renderText text = first :: later ∧ OpensScalar first := by
  have basic : OpensScalar '"' := ⟨rfl, by decide, by decide⟩
  have literal : OpensScalar '\x27' := ⟨rfl, by decide, by decide⟩
  unfold renderText
  cases quotingOf text with
  | basic =>
      exact ⟨'"', _, rfl, basic⟩
  | literal =>
      exact ⟨'\x27', _, rfl, literal⟩
  | basicLines =>
      exact ⟨'"', _, rfl, basic⟩
  | literalLines =>
      exact ⟨'\x27', _, rfl, literal⟩

theorem opensScalar_of_renderValue? {value : Toml} {text : String}
    (written : renderValue? value = some text) :
    ∃ first later, text.toList = first :: later ∧ OpensScalar first := by
  cases value with
  | string content =>
      cases written
      rw [String.toList_ofList]
      exact renderText_eq_cons content.toList
  | integer value =>
      rw [renderValue?] at written
      split at written
      next =>
        cases written
        rw [toList_toString]
        cases decide (value < 0) with
        | true =>
            exact ⟨'-', _, rfl, ⟨rfl, by decide, by decide⟩⟩
        | false =>
            obtain ⟨first, later, digits, isDigit⟩ := toDigits_eq_cons value.natAbs
            exact ⟨first, later, digits, opensScalar_of_isDigit isDigit⟩
      next =>
        cases written
  | boolean value =>
      cases written
      cases value with
      | true =>
          exact ⟨'t', _, rfl, ⟨rfl, by decide, by decide⟩⟩
      | false =>
          exact ⟨'f', _, rfl, ⟨rfl, by decide, by decide⟩⟩
  | float value =>
      cases written
  | dateTime written =>
      cases written
  | array items =>
      cases written
  | table origin entries =>
      cases written
  | tables items =>
      cases written

end Parley.Toml
