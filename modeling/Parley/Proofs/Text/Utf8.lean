import Parley.Text.Utf8

/-!
# UTF-8 read back

The bytes of a text are well formed and read back as the text.
-/

namespace Parley.Text.Utf8

/-! ## The first byte of a sequence -/

theorem lead_two {byte : UInt8} (least : 0xC2 ≤ byte.toNat) (greatest : byte.toNat ≤ 0xDF) :
    lead? byte = some (1, 0x80, 0xBF) := by
  rw [lead?, if_pos ⟨UInt8.le_iff_toNat_le.mpr least, UInt8.le_iff_toNat_le.mpr greatest⟩]

theorem lead_three {byte : UInt8} (least : 0xE0 ≤ byte.toNat) (greatest : byte.toNat ≤ 0xEF) :
    lead? byte =
      some (2, if byte.toNat = 0xE0 then 0xA0 else 0x80,
        if byte.toNat = 0xED then 0x9F else 0xBF) := by
  have notTwo : ¬ (0xC2 ≤ byte ∧ byte ≤ 0xDF) := by
    intro within
    have atMost : byte.toNat ≤ 0xDF := UInt8.le_iff_toNat_le.mp within.2
    omega
  rw [lead?, if_neg notTwo]
  by_cases isFirst : byte.toNat = 0xE0
  · have same : byte = 0xE0 := UInt8.toNat_inj.mp isFirst
    subst same
    rfl
  · by_cases isSurrogate : byte.toNat = 0xED
    · have same : byte = 0xED := UInt8.toNat_inj.mp isSurrogate
      subst same
      rfl
    · have notFirst : byte ≠ 0xE0 := fun same => isFirst (congrArg UInt8.toNat same)
      have notSurrogate : byte ≠ 0xED := fun same => isSurrogate (congrArg UInt8.toNat same)
      have within : 0xE1 ≤ byte ∧ byte ≤ 0xEF := by
        rw [UInt8.le_iff_toNat_le, UInt8.le_iff_toNat_le]
        exact ⟨Nat.lt_of_le_of_ne least (Ne.symm isFirst), greatest⟩
      rw [if_neg notFirst, if_neg notSurrogate, if_pos within, if_neg isFirst, if_neg isSurrogate]

theorem lead_four {byte : UInt8} (least : 0xF0 ≤ byte.toNat) (greatest : byte.toNat ≤ 0xF4) :
    lead? byte =
      some (3, if byte.toNat = 0xF0 then 0x90 else 0x80,
        if byte.toNat = 0xF4 then 0x8F else 0xBF) := by
  obtain is | is | is | is | is :
      byte.toNat = 0xF0 ∨ byte.toNat = 0xF1 ∨ byte.toNat = 0xF2 ∨ byte.toNat = 0xF3 ∨
        byte.toNat = 0xF4 := by omega
  all_goals
    have same := UInt8.toNat_inj.mp (is.trans (UInt8.toNat_ofNat_of_lt (by decide)).symm)
    subst same
    decide

/-! ## Sequences -/

theorem isContinuation_of_lt {bits : Nat} (short : bits < 64) :
    isContinuation (UInt8.ofNat (bits + 128)) = true := by
  have value : (UInt8.ofNat (bits + 128)).toNat = bits + 128 :=
    UInt8.toNat_ofNat_of_lt (by show bits + 128 < 256; omega)
  simp only [isContinuation, Bool.and_eq_true, decide_eq_true_eq, UInt8.le_iff_toNat_le, value]
  exact ⟨Nat.le_add_left _ _, Nat.le_sub_one_of_lt (Nat.add_lt_add_right short 128)⟩

theorem payload_of_lt {bits : Nat} (short : bits < 64) :
    payload (UInt8.ofNat (bits + 128)) = bits := by
  have value : (UInt8.ofNat (bits + 128)).toNat = bits + 128 :=
    UInt8.toNat_ofNat_of_lt (by show bits + 128 < 256; omega)
  rw [payload, value]
  omega

section Sequences

variable {code : Nat} (rest : List UInt8)

theorem toNat_ofNat_of_lt {value : Nat} (fits : value < 256) : (UInt8.ofNat value).toNat = value :=
  UInt8.toNat_ofNat_of_lt fits

theorem not_lt_of_toNat_le {low high : UInt8} (le : low.toNat ≤ high.toNat) : ¬ high < low :=
  fun less => Nat.not_lt.mpr le (UInt8.lt_iff_toNat_lt.mp less)

theorem first_one (greatest : code ≤ 0x7F) :
    first (UInt8.ofNat code :: rest) = .ok (Char.ofNat code, 1) := by
  have value : (UInt8.ofNat code).toNat = code := toNat_ofNat_of_lt (by omega)
  have ascii : UInt8.ofNat code < 0x80 := by
    rw [UInt8.lt_iff_toNat_lt, value]
    exact Nat.lt_succ_of_le greatest
  simp only [first, if_pos ascii, value]

theorem first_two (least : 0x80 ≤ code) (greatest : code ≤ 0x7FF) :
    first (UInt8.ofNat (code / 64 % 32 + 192) :: UInt8.ofNat (code % 64 + 128) :: rest) =
      .ok (Char.ofNat code, 2) := by
  have lead : (UInt8.ofNat (code / 64 % 32 + 192)).toNat = code / 64 % 32 + 192 :=
    toNat_ofNat_of_lt (by omega)
  have second : (UInt8.ofNat (code % 64 + 128)).toNat = code % 64 + 128 :=
    toNat_ofNat_of_lt (by omega)
  have notAscii : ¬ UInt8.ofNat (code / 64 % 32 + 192) < 0x80 :=
    not_lt_of_toNat_le (by rw [lead]; exact Nat.le_add_left_of_le (by decide))
  have inRange :
      ¬ (UInt8.ofNat (code % 64 + 128) < 0x80 ∨ 0xBF < UInt8.ofNat (code % 64 + 128)) := by
    rintro (less | more)
    · exact not_lt_of_toNat_le (by rw [second]; exact Nat.le_add_left _ _) less
    · exact not_lt_of_toNat_le (by rw [second]; show code % 64 + 128 ≤ 191; omega) more
  simp only [first, if_neg notAscii, lead_two (by rw [lead]; omega) (by rw [lead]; omega),
    if_neg inRange, lead, payload_of_lt (Nat.mod_lt code (by decide))]
  rw [show (code / 64 % 32 + 192) % 32 * 64 + code % 64 = code by omega]

theorem first_three (least : 0x800 ≤ code) (greatest : code ≤ 0xFFFF)
    (valid : code < 0xD800 ∨ 0xDFFF < code) :
    first (UInt8.ofNat (code / 4096 % 16 + 224) :: UInt8.ofNat (code / 64 % 64 + 128) ::
        UInt8.ofNat (code % 64 + 128) :: rest) =
      .ok (Char.ofNat code, 3) := by
  have lead : (UInt8.ofNat (code / 4096 % 16 + 224)).toNat = code / 4096 % 16 + 224 :=
    toNat_ofNat_of_lt (by omega)
  have second : (UInt8.ofNat (code / 64 % 64 + 128)).toNat = code / 64 % 64 + 128 :=
    toNat_ofNat_of_lt (by omega)
  have notAscii : ¬ UInt8.ofNat (code / 4096 % 16 + 224) < 0x80 :=
    not_lt_of_toNat_le (by rw [lead]; exact Nat.le_add_left_of_le (by decide))
  -- the bounds of the second byte leave out overlong forms and surrogates
  have inRange : ¬ (UInt8.ofNat (code / 64 % 64 + 128) <
        (if code / 4096 % 16 + 224 = 0xE0 then 0xA0 else 0x80) ∨
      (if code / 4096 % 16 + 224 = 0xED then 0x9F else 0xBF) <
        UInt8.ofNat (code / 64 % 64 + 128)) := by
    rintro (less | more)
    · refine not_lt_of_toNat_le ?_ less
      rw [second]
      split
      · show 0xA0 ≤ _
        omega
      · exact Nat.le_add_left _ _
    · refine not_lt_of_toNat_le ?_ more
      rw [second]
      split
      · show _ ≤ 0x9F
        omega
      · show _ ≤ 0xBF
        omega
  simp only [first, if_neg notAscii, lead_three (by rw [lead]; omega) (by rw [lead]; omega),
    lead, if_neg inRange, isContinuation_of_lt (Nat.mod_lt _ (show 64 > 0 by decide)), if_true,
    payload_of_lt (Nat.mod_lt _ (show 64 > 0 by decide))]
  rw [show (code / 4096 % 16 + 224) % 16 * 4096 + code / 64 % 64 * 64 + code % 64 = code by omega]

theorem first_four (least : 0x10000 ≤ code) (greatest : code < 0x110000) :
    first (UInt8.ofNat (code / 262144 % 8 + 240) :: UInt8.ofNat (code / 4096 % 64 + 128) ::
        UInt8.ofNat (code / 64 % 64 + 128) :: UInt8.ofNat (code % 64 + 128) :: rest) =
      .ok (Char.ofNat code, 4) := by
  have lead : (UInt8.ofNat (code / 262144 % 8 + 240)).toNat = code / 262144 % 8 + 240 :=
    toNat_ofNat_of_lt (by omega)
  have second : (UInt8.ofNat (code / 4096 % 64 + 128)).toNat = code / 4096 % 64 + 128 :=
    toNat_ofNat_of_lt (by omega)
  have notAscii : ¬ UInt8.ofNat (code / 262144 % 8 + 240) < 0x80 :=
    not_lt_of_toNat_le (by rw [lead]; exact Nat.le_add_left_of_le (by decide))
  -- here they leave out overlong forms and what lies past the last character
  have inRange : ¬ (UInt8.ofNat (code / 4096 % 64 + 128) <
        (if code / 262144 % 8 + 240 = 0xF0 then 0x90 else 0x80) ∨
      (if code / 262144 % 8 + 240 = 0xF4 then 0x8F else 0xBF) <
        UInt8.ofNat (code / 4096 % 64 + 128)) := by
    rintro (less | more)
    · refine not_lt_of_toNat_le ?_ less
      rw [second]
      split
      · show 0x90 ≤ _
        omega
      · exact Nat.le_add_left _ _
    · refine not_lt_of_toNat_le ?_ more
      rw [second]
      split
      · show _ ≤ 0x8F
        omega
      · show _ ≤ 0xBF
        omega
  simp only [first, if_neg notAscii, lead_four (by rw [lead]; omega) (by rw [lead]; omega),
    lead, if_neg inRange, isContinuation_of_lt (Nat.mod_lt _ (show 64 > 0 by decide)), if_true,
    payload_of_lt (Nat.mod_lt _ (show 64 > 0 by decide))]
  rw [show (code / 262144 % 8 + 240) % 8 * 262144 + code / 4096 % 64 * 4096 +
    code / 64 % 64 * 64 + code % 64 = code by omega]

end Sequences

/-- The bytes of a character read as it, and take as many bytes as it has. -/
theorem first_encodeChar (character : Char) (rest : List UInt8) :
    first (String.utf8EncodeChar character ++ rest) =
      .ok (character, (String.utf8EncodeChar character).length) := by
  have same : Char.ofNat character.val.toNat = character := Char.ofNat_toNat character
  have valid : character.val.toNat < 0xD800 ∨
      0xDFFF < character.val.toNat ∧ character.val.toNat < 0x110000 := character.valid
  rw [String.utf8EncodeChar]
  split
  next one =>
    exact (first_one rest one).trans (by rw [same]; rfl)
  · split
    next more two =>
      exact (first_two rest (Nat.lt_of_not_le more) two).trans (by rw [same]; rfl)
    · split
      next more three =>
        refine (first_three rest (Nat.lt_of_not_le more) three ?_).trans (by rw [same]; rfl)
        exact valid.imp id And.left
      next more =>
        exact (first_four rest (Nat.lt_of_not_le more) (by omega)).trans (by rw [same]; rfl)

/-! ## Texts -/

/-- The bytes that belong to the character read last are passed over. -/
theorem decodeFrom_append (index : Nat) (read : List Char) (passed rest : List UInt8) :
    decodeFrom index passed.length read (passed ++ rest) =
      decodeFrom (index + passed.length) 0 read rest := by
  induction passed generalizing index with
  | nil => rfl
  | cons byte passed inductionHypothesis =>
      rw [List.length_cons, List.cons_append, decodeFrom, inductionHypothesis]
      rw [show index + 1 + passed.length = index + (passed.length + 1) by omega]

/-- The bytes of a text are decoded to the text, whatever was read before them. -/
theorem decodeFrom_encode (text : List Char) (index : Nat) (read : List Char) :
    decodeFrom index 0 read (encode text) = .ok (read.reverse ++ text) := by
  induction text generalizing index read with
  | nil => simp [encode, decodeFrom]
  | cons character rest inductionHypothesis =>
      have reads := first_encodeChar character (encode rest)
      have split : encode (character :: rest) =
          String.utf8EncodeChar character ++ encode rest := List.flatMap_cons
      rw [split]
      cases bytes : String.utf8EncodeChar character with
      | nil =>
          have positive := character.utf8Size_pos
          rw [← String.length_utf8EncodeChar, bytes] at positive
          exact absurd positive (Nat.lt_irrefl 0)
      | cons byte passed =>
          rw [bytes] at reads
          rw [List.cons_append] at reads ⊢
          simp only [decodeFrom, reads, List.length_cons, Nat.add_sub_cancel]
          rw [decodeFrom_append, inductionHypothesis, List.reverse_cons, List.append_assoc]
          rfl

/-- What is written as bytes is read back. -/
theorem decode_encode (text : List Char) : decode (encode text) = .ok text :=
  decodeFrom_encode text 0 []

end Parley.Text.Utf8
