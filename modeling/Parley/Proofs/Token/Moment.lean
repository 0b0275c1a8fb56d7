import Mathlib.Algebra.Group.Nat.Defs
import Parley.Proofs.Token.Calendar

/-!
# Moments read back

The text that is stored of a moment reads as the moment, down to its nanoseconds, for every moment
that a clock shows.
-/

namespace Parley.Token

/-- The parts are in their ranges. A second that was put in is the one before it, drawn out. -/
structure Moment.IsProper (moment : Moment) : Prop where
  date_isValid : moment.date.isValid = true
  minute_lt : moment.minute < 1440
  second_lt : moment.second < 60
  nanosecond_lt :
    moment.nanosecond < 1000000000 ∨ moment.second = 59 ∧ moment.nanosecond < 2000000000

namespace Date

variable {date : Date}

theorem month_le (isValid : date.isValid = true) : date.month ≤ 12 := by
  simp only [Date.isValid, Bool.and_eq_true, decide_eq_true_eq] at isValid
  exact isValid.1.1.2

theorem daysIn_le (year : Int) (month : Nat) : daysIn year month ≤ 31 := by
  unfold daysIn
  repeat' split
  all_goals decide

theorem day_le (isValid : date.isValid = true) : date.day ≤ 31 := by
  simp only [Date.isValid, Bool.and_eq_true, decide_eq_true_eq] at isValid
  exact Nat.le_trans isValid.2 (daysIn_le date.year date.month)

end Date

namespace Moment

/-! ## Digits -/

/-- At least one digit, in text that writes a number. -/
structure Writes (value : Nat) (digits : List Char) : Prop where
  areDigits : ∀ digit ∈ digits, digit.isDigit = true
  ne_nil : digits ≠ []
  number : Nat.ofDigitChars 10 digits 0 = value

theorem writes_padded (width value : Nat) : Writes value (padded width value) where
  areDigits := by
    intro digit member
    rcases List.mem_append.mp member with zero | digit
    · rw [List.eq_of_mem_replicate zero]
      rfl
    · exact Nat.isDigit_of_mem_toDigits (by decide) (by decide) digit
  ne_nil := by
    intro empty
    exact Nat.toDigits_ne_nil (List.append_eq_nil_iff.mp empty).2
  number := by
    rw [padded, Nat.ofDigitChars_append, Nat.ofDigitChars_replicate_zero, Nat.mul_zero]
    exact Nat.ofDigitChars_ten_toDigits

theorem length_padded {width value : Nat} (positive : 0 < width) (fits : value < 10 ^ width) :
    (padded width value).length = width := by
  have short := (Nat.length_toDigits_le_iff (by decide) positive).mpr fits
  rw [padded, List.length_append, List.length_replicate]
  exact Nat.sub_add_cancel short

section Digits

variable {value : Nat} {digits : List Char}

theorem foldl_of_writes (writes : Writes value digits) :
    digits.foldl (fun value digit => value * 10 + (digit.toNat - 48)) 0 = value := by
  rw [← writes.number, Nat.ofDigitChars]
  congr 1
  funext value digit
  rw [Nat.mul_comm]
  rfl

theorem cons_of_writes (writes : Writes value digits) :
    ∃ first others, digits = first :: others ∧ first.isDigit = true := by
  cases digits with
  | nil => exact absurd rfl writes.ne_nil
  | cons first others => exact ⟨first, others, rfl, writes.areDigits first List.mem_cons_self⟩

/-- The text goes on with something that is no digit. -/
def Stops (rest : List Char) : Prop :=
  rest.head?.all (fun character => ! character.isDigit) = true

theorem takeWhile_of_stops {rest : List Char} (stops : Stops rest) :
    rest.takeWhile Char.isDigit = [] := by
  cases rest with
  | nil => rfl
  | cons character following =>
      have other : character.isDigit = false := by simpa [Stops] using stops
      simp [other]

/-- As many digits as are wanted are taken, or all that there are. -/
theorem readNumber_of_writes (writes : Writes value digits) {width : Nat} {rest : List Char}
    (ends : digits.length = width ∨ digits.length ≤ width ∧ Stops rest) :
    readNumber? width (digits ++ rest) = some (value, rest) := by
  have taken : ((digits ++ rest).takeWhile Char.isDigit).take width = digits := by
    rw [List.takeWhile_append_of_pos writes.areDigits]
    rcases ends with rfl | ⟨short, stops⟩
    · exact List.take_left
    · rw [takeWhile_of_stops stops, List.append_nil]
      exact List.take_of_length_le short
  have notEmpty : digits.isEmpty = false := by simpa using writes.ne_nil
  simp only [readNumber?, taken, notEmpty, Bool.false_eq_true, if_false, foldl_of_writes writes,
    List.drop_left]

theorem isBlank_of_isDigit {character : Char} (isDigit : character.isDigit = true) :
    Text.isBlank character = false := by
  have range : 48 ≤ character.toNat ∧ character.toNat ≤ 57 := by
    simp only [Char.isDigit, Bool.and_eq_true, decide_eq_true_eq, ge_iff_le,
      UInt32.le_iff_toNat_le] at isDigit
    exact isDigit
  simp only [Text.isBlank, Bool.or_eq_false_iff, Bool.and_eq_false_iff, decide_eq_false_iff_not,
    beq_eq_false_iff_ne]
  omega

theorem trimLeft_of_writes (writes : Writes value digits) (rest : List Char) :
    Text.trimLeft (digits ++ rest) = digits ++ rest := by
  obtain ⟨first, others, rfl, isDigit⟩ := cons_of_writes writes
  rw [Text.trimLeft, List.cons_append, List.dropWhile_cons_of_neg]
  simp [isBlank_of_isDigit isDigit]

/-! ## Fields -/

theorem readField_padded (width : Nat) (positive : 0 < width) (fits : value < 10 ^ width)
    (rest : List Char) : readField? width (padded width value ++ rest) = some (value, rest) := by
  have writes := writes_padded width value
  rw [readField?, trimLeft_of_writes writes]
  exact readNumber_of_writes writes (Or.inl (length_padded positive fits))

/-- A year with a sign has all the digits that stand there. -/
theorem readNumber_year (year : Nat) (rest : List Char) :
    readNumber? (padded 4 year ++ '-' :: rest).length (padded 4 year ++ '-' :: rest) =
      some (year, '-' :: rest) := by
  refine readNumber_of_writes (writes_padded 4 year) (Or.inr ⟨?_, rfl⟩)
  rw [List.length_append]
  exact Nat.le_add_right _ _

theorem readYear_render (year : Int) (rest : List Char) :
    readYear? (renderYear year ++ '-' :: rest) = some (year, '-' :: rest) := by
  unfold renderYear
  split
  next plain =>
    have fits : year.toNat < 10 ^ 4 := by omega
    have writes := writes_padded 4 year.toNat
    have read : readNumber? 4 (padded 4 year.toNat ++ '-' :: rest) =
        some (year.toNat, '-' :: rest) :=
      readNumber_of_writes writes (Or.inl (length_padded (by decide) fits))
    have same : ((year.toNat : Nat) : Int) = year := Int.toNat_of_nonneg plain.1
    rw [readYear?, trimLeft_of_writes writes]
    obtain ⟨first, others, shape, isDigit⟩ := cons_of_writes writes
    rw [shape, List.cons_append] at read ⊢
    split
    next minus =>
      cases (List.cons.inj minus).1
      cases isDigit
    next plus =>
      cases (List.cons.inj plus).1
      cases isDigit
    · rw [read]
      exact congrArg (fun year => some (year, '-' :: rest)) same
  next signed =>
    rw [List.cons_append]
    by_cases negative : year < 0
    · have same : -((year.natAbs : Nat) : Int) = year := by omega
      rw [if_pos negative]
      change (readNumber? _ _).map _ = _
      rw [readNumber_year]
      exact congrArg (fun year => some (year, '-' :: rest)) same
    · have same : ((year.natAbs : Nat) : Int) = year := by omega
      rw [if_neg negative]
      change (readNumber? _ _).map _ = _
      rw [readNumber_year]
      exact congrArg (fun year => some (year, '-' :: rest)) same

/-- A fraction has as many digits as it needs, in groups of three. -/
theorem readFraction_padded {width fraction : Nat} (positive : 0 < width) (short : width ≤ 9)
    (fits : fraction < 10 ^ width) :
    readFraction? ('.' :: (padded width fraction ++ ['Z'])) =
      some (fraction * 10 ^ (9 - width), ['Z']) := by
  have length := length_padded positive fits
  have read : readNumber? 9 (padded width fraction ++ ['Z']) = some (fraction, ['Z']) :=
    readNumber_of_writes (writes_padded width fraction) (Or.inr ⟨by rw [length]; exact short, rfl⟩)
  simp only [readFraction?, read, Option.map_some, List.length_append, length,
    List.length_singleton, Nat.add_sub_cancel]
  rfl

theorem readFraction_render {nanosecond : Nat} (fits : nanosecond < 1000000000) :
    readFraction? (renderFraction nanosecond ++ ['Z']) = some (nanosecond, ['Z']) := by
  unfold renderFraction
  split
  next none =>
    rw [none]
    rfl
  · split
    next millis =>
      have whole : nanosecond / 1000000 * 10 ^ (9 - 3) = nanosecond := by omega
      rw [List.cons_append, readFraction_padded (by decide) (by decide) (by omega), whole]
    · split
      next micros =>
        have whole : nanosecond / 1000 * 10 ^ (9 - 6) = nanosecond := by omega
        rw [List.cons_append, readFraction_padded (by decide) (by decide) (by omega), whole]
      · have whole : nanosecond * 10 ^ (9 - 9) = nanosecond := Nat.mul_one nanosecond
        rw [List.cons_append, readFraction_padded (by decide) (by decide) fits, whole]

end Digits

/-! ## The whole text -/

theorem atOffset_zero {date : Date} (isValid : date.isValid = true) {minute : Nat}
    (minute_lt : minute < 1440) (second nanosecond : Nat) :
    atOffset? date minute second nanosecond 0 = some ⟨date, minute, second, nanosecond⟩ := by
  have notBefore : ¬ (minute : Int) < 0 := by omega
  have notAfter : ¬ 1440 ≤ (minute : Int) := by omega
  have accepted : ¬ ((! date.isValid) = true ∨ (0 : Int).natAbs ≥ 1440) := by simp [isValid]
  unfold atOffset?
  rw [if_neg accepted]
  simp only [Int.sub_zero, if_neg notBefore, if_neg notAfter, isValid, if_true, Int.toNat_natCast]

theorem toList_render (moment : Moment) :
    moment.render.toList =
      renderYear moment.date.year ++ '-' :: (padded 2 moment.date.month ++ '-' ::
        (padded 2 moment.date.day ++ 'T' :: (padded 2 (moment.minute / 60) ++ ':' ::
          (padded 2 (moment.minute % 60) ++ ':' ::
            (padded 2 (moment.second + moment.nanosecond / 1000000000) ++
              (renderFraction (moment.nanosecond % 1000000000) ++ ['Z'])))))) := by
  simp only [render, renderLocal, String.toList_ofList, List.append_assoc, List.cons_append]

/-- Every moment is read back from the text that is stored of it. -/
theorem parse_render {moment : Moment} (proper : moment.IsProper) :
    parse? moment.render = some moment := by
  obtain ⟨⟨year, month, day⟩, minute, second, nanosecond⟩ := moment
  obtain ⟨isValid, minute_lt, second_lt, nanosecond_lt⟩ := proper
  have month_lt : month < 10 ^ 2 := Nat.lt_of_le_of_lt (Date.month_le isValid) (by decide)
  have day_lt : day < 10 ^ 2 := Nat.lt_of_le_of_lt (Date.day_le isValid) (by decide)
  dsimp only at minute_lt second_lt nanosecond_lt
  have hour_lt : minute / 60 < 10 ^ 2 := by omega
  have minuteOfHour_lt : minute % 60 < 10 ^ 2 := by omega
  have shown_lt : second + nanosecond / 1000000000 < 10 ^ 2 := by omega
  have fraction_lt : nanosecond % 1000000000 < 1000000000 := Nat.mod_lt _ (by decide)
  rw [parse?, toList_render]
  refine Option.bind_eq_some_iff.mpr ⟨_, readYear_render year _, ?_⟩
  refine Option.bind_eq_some_iff.mpr ⟨_, rfl, ?_⟩
  refine Option.bind_eq_some_iff.mpr ⟨_, readField_padded 2 (by decide) month_lt _, ?_⟩
  refine Option.bind_eq_some_iff.mpr ⟨_, rfl, ?_⟩
  refine Option.bind_eq_some_iff.mpr ⟨_, readField_padded 2 (by decide) day_lt _, ?_⟩
  refine Option.bind_eq_some_iff.mpr ⟨_, rfl, ?_⟩
  refine Option.bind_eq_some_iff.mpr ⟨_, readField_padded 2 (by decide) hour_lt _, ?_⟩
  refine Option.bind_eq_some_iff.mpr ⟨_, rfl, ?_⟩
  refine Option.bind_eq_some_iff.mpr ⟨_, readField_padded 2 (by decide) minuteOfHour_lt _, ?_⟩
  refine Option.bind_eq_some_iff.mpr ⟨_, rfl, ?_⟩
  refine Option.bind_eq_some_iff.mpr ⟨_, readField_padded 2 (by decide) shown_lt _, ?_⟩
  refine Option.bind_eq_some_iff.mpr ⟨_, readFraction_render fraction_lt, ?_⟩
  refine Option.bind_eq_some_iff.mpr ⟨(0, []), rfl, ?_⟩
  dsimp only
  have inRange : ¬ ((! Text.isBlankText []) = true ∨ 24 ≤ minute / 60 ∨ 60 ≤ minute % 60 ∨
      60 < second + nanosecond / 1000000000) := by
    have empty : (! Text.isBlankText []) = false := rfl
    rw [empty]
    simp only [Bool.false_eq_true, false_or]
    omega
  have minutes : minute / 60 * 60 + minute % 60 = minute := Nat.div_add_mod' minute 60
  rw [if_neg inRange, minutes, atOffset_zero isValid minute_lt, atOffset_zero isValid minute_lt]
  rcases nanosecond_lt with plain | ⟨rfl, drawnOut⟩
  · have whole : nanosecond / 1000000000 = 0 := Nat.div_eq_of_lt plain
    rw [whole, Nat.add_zero, if_neg (Nat.ne_of_lt second_lt), Nat.mod_eq_of_lt plain]
  · by_cases plain : nanosecond < 1000000000
    · have whole : nanosecond / 1000000000 = 0 := Nat.div_eq_of_lt plain
      rw [whole, Nat.mod_eq_of_lt plain]
      rfl
    · have whole : nanosecond / 1000000000 = 1 := by omega
      have fraction : nanosecond % 1000000000 + 1000000000 = nanosecond := by omega
      rw [whole, if_pos rfl, fraction]

/-- What a clock shows is a moment, up to years past 262000. -/
theorem isProper_ofNanoseconds (nanoseconds : Nat)
    (within : nanoseconds < 95000000 * 86400 * 1000000000) :
    (ofNanoseconds nanoseconds).IsProper where
  date_isValid := Date.isValid_ofDays (by omega)
  minute_lt := by
    show nanoseconds / 1000000000 % 86400 / 60 < 1440
    omega
  second_lt := Nat.mod_lt _ (by decide)
  nanosecond_lt := Or.inl (Nat.mod_lt _ (by decide))

end Moment

end Parley.Token
