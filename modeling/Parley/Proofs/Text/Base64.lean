import Parley.Text.Base64

/-!
# Base64 read back

Sixty-four characters stand for the values below sixty-four, three bytes for four of them. So the
padded form has four characters for every three bytes begun, and it is the one text from which the
bytes are decoded.
-/

namespace Parley.Text.Base64

/-- The characters of the standard alphabet, in the order of their values. -/
def alphabet : List Char :=
  "ABCDEFGHIJKLMNOPQRSTUVWXYZabcdefghijklmnopqrstuvwxyz0123456789+/".toList

/-! ## Single characters -/

theorem alphabet_getElem? : ∀ value < 64, alphabet[value]? = some (symbol value) := by
  decide

theorem value?_symbol : ∀ value < 64, value? (symbol value) = some value := by
  decide

theorem symbol_mem_alphabet {value : Nat} (small : value < 64) : symbol value ∈ alphabet :=
  List.mem_of_getElem? (alphabet_getElem? value small)

theorem symbol_ne_padding : ∀ value < 64, symbol value ≠ '=' := by
  decide

/-- A character stands for the value that it is written for, if it stands for any. -/
theorem symbol_of_value? {character : Char} {value : Nat} (found : value? character = some value) :
    value < 64 ∧ symbol value = character := by
  have between : ∀ {first last : Char}, first ≤ character ∧ character ≤ last →
      first.toNat ≤ character.toNat ∧ character.toNat ≤ last.toNat := id
  unfold value? at found
  split at found
  next capital =>
    obtain ⟨above, below⟩ : 65 ≤ character.toNat ∧ character.toNat ≤ 90 := between capital
    cases found
    refine ⟨by omega, ?_⟩
    rw [symbol, if_pos (by omega), Nat.add_sub_cancel' above, Char.ofNat_toNat]
  split at found
  next small =>
    obtain ⟨above, below⟩ : 97 ≤ character.toNat ∧ character.toNat ≤ 122 := between small
    cases found
    refine ⟨by omega, ?_⟩
    rw [symbol, if_neg (by omega), if_pos (by omega), Nat.add_sub_cancel' (by omega),
      Char.ofNat_toNat]
  split at found
  next digit =>
    obtain ⟨above, below⟩ : 48 ≤ character.toNat ∧ character.toNat ≤ 57 := between digit
    cases found
    refine ⟨by omega, ?_⟩
    rw [symbol, if_neg (by omega), if_neg (by omega), if_pos (by omega), Nat.add_sub_cancel,
      Char.ofNat_toNat]
  split at found
  next plus =>
    cases found
    exact ⟨by decide, plus.symm⟩
  split at found
  next slash =>
    cases found
    exact ⟨by decide, slash.symm⟩
  · cases found

/-! ## Three bytes at a time -/

theorem encodeOnto_eq (written : List Char) :
    ∀ bytes, encodeOnto written bytes = written.reverse ++ encode bytes
  | [] => by simp [encode, encodeOnto]
  | [one] => by simp [encode, encodeOnto]
  | [one, two] => by simp [encode, encodeOnto]
  | one :: two :: three :: rest => by
      rw [encode, encodeOnto, encodeOnto, encodeOnto_eq _ rest, encodeOnto_eq _ rest]
      simp

theorem encode_one (one : UInt8) :
    encode [one] = (encodeThree one 0 0).take 2 ++ ['=', '='] := by
  simp [encode, encodeOnto, encodeThree]

theorem encode_two (one two : UInt8) :
    encode [one, two] = (encodeThree one two 0).take 3 ++ ['='] := by
  simp [encode, encodeOnto, encodeThree]

theorem encode_three (one two three : UInt8) (rest : List UInt8) :
    encode (one :: two :: three :: rest) = encodeThree one two three ++ encode rest := by
  rw [encode, encodeOnto, encodeOnto_eq]
  simp

theorem length_encodeThree (one two three : UInt8) : (encodeThree one two three).length = 4 :=
  rfl

theorem mem_encodeThree {one two three : UInt8} :
    ∀ character ∈ encodeThree one two three, character ∈ alphabet := by
  have first := one.toNat_lt
  have second := two.toNat_lt
  have third := three.toNat_lt
  simp only [encodeThree, List.forall_mem_cons]
  refine ⟨?_, ?_, ?_, ?_, by simp⟩
  all_goals exact symbol_mem_alphabet (by omega)

/-- The padded form has four characters for every three bytes begun. -/
theorem length_encode : ∀ bytes, (encode bytes).length = 4 * ((bytes.length + 2) / 3)
  | [] => rfl
  | [one] => by simp [encode_one, length_encodeThree]
  | [one, two] => by simp [encode_two, length_encodeThree]
  | one :: two :: three :: rest => by
      have inductionHypothesis := length_encode rest
      rw [encode_three, List.length_append, inductionHypothesis, length_encodeThree]
      simp only [List.length_cons]
      omega

/-- Only characters of the alphabet and padding are written. -/
theorem mem_encode : ∀ bytes, ∀ character ∈ encode bytes, character ∈ alphabet ∨ character = '='
  | [], character, inside => absurd inside List.not_mem_nil
  | [one], character, inside => by
      rw [encode_one, List.mem_append] at inside
      rcases inside with written | padding
      · exact Or.inl (mem_encodeThree _ (List.mem_of_mem_take written))
      · exact Or.inr (by simpa using padding)
  | [one, two], character, inside => by
      rw [encode_two, List.mem_append] at inside
      rcases inside with written | padding
      · exact Or.inl (mem_encodeThree _ (List.mem_of_mem_take written))
      · exact Or.inr (by simpa using padding)
  | one :: two :: three :: rest, character, inside => by
      rw [encode_three, List.mem_append] at inside
      rcases inside with written | later
      · exact Or.inl (mem_encodeThree _ written)
      · exact mem_encode rest character later

/-! ## Decoding -/

section Decoding

variable {one two three four : Nat}

theorem decode?_pad_two (first : one < 64) (second : two < 64) :
    decode? [symbol one, symbol two, '=', '='] =
      if (one * 64 + two) % 16 = 0 then some [UInt8.ofNat ((one * 64 + two) / 16)] else none := by
  rw [decode?, value?_symbol one first, value?_symbol two second]
  rfl

theorem decode?_pad_one (first : one < 64) (second : two < 64) (third : three < 64) :
    decode? [symbol one, symbol two, symbol three, '='] =
      let bits := one * 4096 + two * 64 + three
      if bits % 4 = 0 then
        some [UInt8.ofNat (bits / 1024), UInt8.ofNat (bits / 4 % 256)]
      else none := by
  rw [decode?.eq_3 _ _ _ (symbol_ne_padding three third), value?_symbol one first,
    value?_symbol two second, value?_symbol three third]
  rfl

theorem decode?_whole (first : one < 64) (second : two < 64) (third : three < 64)
    (fourth : four < 64) (rest : List Char) :
    decode? (symbol one :: symbol two :: symbol three :: symbol four :: rest) =
      let bits := one * 262144 + two * 4096 + three * 64 + four
      (decode? rest).map fun bytes => UInt8.ofNat (bits / 65536) ::
        UInt8.ofNat (bits / 256 % 256) :: UInt8.ofNat (bits % 256) :: bytes := by
  have notPadding := symbol_ne_padding four fourth
  rw [decode?.eq_4 _ _ _ _ _ (fun _ padding _ => notPadding padding)
    (fun padding _ => notPadding padding), value?_symbol one first, value?_symbol two second,
    value?_symbol three third, value?_symbol four fourth]
  cases decode? rest <;> rfl

end Decoding

/-- The bytes are decoded from their padded form. -/
theorem decode?_encode : ∀ bytes, decode? (encode bytes) = some bytes
  | [] => rfl
  | [one] => by
      have size := one.toNat_lt
      have zero : UInt8.toNat 0 = 0 := rfl
      let bits := one.toNat * 65536 + UInt8.toNat 0 * 256 + UInt8.toNat 0
      have sum : bits / 262144 * 64 + bits / 4096 % 64 = one.toNat * 16 := by omega
      have written : encode [one] = [symbol (bits / 262144), symbol (bits / 4096 % 64), '=', '='] :=
        encode_one one
      rw [written, decode?_pad_two (by omega) (by omega), sum, if_pos (Nat.mul_mod_left _ _),
        Nat.mul_div_cancel _ (by decide), UInt8.ofNat_toNat]
  | [one, two] => by
      have first := one.toNat_lt
      have second := two.toNat_lt
      have zero : UInt8.toNat 0 = 0 := rfl
      let bits := one.toNat * 65536 + two.toNat * 256 + UInt8.toNat 0
      have sum : bits / 262144 * 4096 + bits / 4096 % 64 * 64 + bits / 64 % 64 =
          one.toNat * 1024 + two.toNat * 4 := by omega
      have written : encode [one, two] = [symbol (bits / 262144), symbol (bits / 4096 % 64),
          symbol (bits / 64 % 64), '='] :=
        encode_two one two
      have whole : (one.toNat * 1024 + two.toNat * 4) % 4 = 0 := by omega
      have isFirst : (one.toNat * 1024 + two.toNat * 4) / 1024 = one.toNat := by omega
      have isSecond : (one.toNat * 1024 + two.toNat * 4) / 4 % 256 = two.toNat := by omega
      rw [written, decode?_pad_one (by omega) (by omega) (by omega), sum]
      simp only [whole, if_true, isFirst, isSecond, UInt8.ofNat_toNat]
  | one :: two :: three :: rest => by
      have inductionHypothesis := decode?_encode rest
      have first := one.toNat_lt
      have second := two.toNat_lt
      have third := three.toNat_lt
      let bits := one.toNat * 65536 + two.toNat * 256 + three.toNat
      have sum : bits / 262144 * 262144 + bits / 4096 % 64 * 4096 + bits / 64 % 64 * 64 +
          bits % 64 = bits := by omega
      have written : encode (one :: two :: three :: rest) =
          symbol (bits / 262144) :: symbol (bits / 4096 % 64) :: symbol (bits / 64 % 64) ::
            symbol (bits % 64) :: encode rest :=
        encode_three one two three rest
      have isFirst : bits / 65536 = one.toNat := by omega
      have isSecond : bits / 256 % 256 = two.toNat := by omega
      have isThird : bits % 256 = three.toNat := by omega
      rw [written, decode?_whole (by omega) (by omega) (by omega) (by omega), sum,
        inductionHypothesis]
      simp only [Option.map_some, isFirst, isSecond, isThird, UInt8.ofNat_toNat]

theorem toNat_ofNat_of_lt {value : Nat} (small : value < 256) :
    (UInt8.ofNat value).toNat = value := by
  rw [UInt8.toNat_ofNat']
  exact Nat.mod_eq_of_lt small

theorem sum_of_two_bytes {bits : Nat} (whole : bits % 4 = 0) :
    bits / 1024 * 65536 + bits / 4 % 256 * 256 = bits * 64 := by
  omega

theorem sum_of_bytes (bits : Nat) :
    bits / 65536 * 65536 + bits / 256 % 256 * 256 + bits % 256 = bits := by
  omega

/-- No other text is decoded to the bytes. -/
theorem eq_encode_of_decode? {text : List Char} {bytes : List UInt8}
    (decoded : decode? text = some bytes) : text = encode bytes := by
  have zero : UInt8.toNat 0 = 0 := rfl
  induction text using decode?.induct generalizing bytes with
  | case1 =>
      cases decoded
      rfl
  | case2 =>
      have values := decoded
      rw [decode?] at values
      obtain ⟨one, isOne, values⟩ := Option.bind_eq_some_iff.mp values
      obtain ⟨two, isTwo, -⟩ := Option.bind_eq_some_iff.mp values
      obtain ⟨smallOne, rfl⟩ := symbol_of_value? isOne
      obtain ⟨smallTwo, rfl⟩ := symbol_of_value? isTwo
      rw [decode?_pad_two smallOne smallTwo] at decoded
      split at decoded
      next whole =>
        cases decoded
        have byte : (UInt8.ofNat ((one * 64 + two) / 16)).toNat = (one * 64 + two) / 16 :=
          toNat_ofNat_of_lt (by omega)
        have first : (one * 64 + two) / 16 * 65536 / 262144 = one := by omega
        have second : (one * 64 + two) / 16 * 65536 / 4096 % 64 = two := by omega
        rw [encode_one]
        simp only [encodeThree, byte, zero, Nat.zero_mul, Nat.add_zero, first, second]
        rfl
      · cases decoded
  | case3 _ _ _ notPadding =>
      have values := decoded
      rw [decode?.eq_3 _ _ _ notPadding] at values
      obtain ⟨one, isOne, values⟩ := Option.bind_eq_some_iff.mp values
      obtain ⟨two, isTwo, values⟩ := Option.bind_eq_some_iff.mp values
      obtain ⟨three, isThree, -⟩ := Option.bind_eq_some_iff.mp values
      obtain ⟨smallOne, rfl⟩ := symbol_of_value? isOne
      obtain ⟨smallTwo, rfl⟩ := symbol_of_value? isTwo
      obtain ⟨smallThree, rfl⟩ := symbol_of_value? isThree
      rw [decode?_pad_one smallOne smallTwo smallThree] at decoded
      generalize isBits : one * 4096 + two * 64 + three = bits at decoded
      simp only at decoded
      split at decoded
      next whole =>
        cases decoded
        have byte : (UInt8.ofNat (bits / 1024)).toNat = bits / 1024 :=
          toNat_ofNat_of_lt (by omega)
        have nextByte : (UInt8.ofNat (bits / 4 % 256)).toNat = bits / 4 % 256 :=
          toNat_ofNat_of_lt (by omega)
        have first : bits * 64 / 262144 = one := by omega
        have second : bits * 64 / 4096 % 64 = two := by omega
        have third : bits * 64 / 64 % 64 = three := by omega
        rw [encode_two]
        simp only [encodeThree, byte, nextByte, zero, Nat.add_zero, sum_of_two_bytes whole, first,
          second, third]
        rfl
      · cases decoded
  | case4 _ _ _ _ rest notTwo notOne inductionHypothesis =>
      have values := decoded
      rw [decode?.eq_4 _ _ _ _ _ notTwo notOne] at values
      obtain ⟨one, isOne, values⟩ := Option.bind_eq_some_iff.mp values
      obtain ⟨two, isTwo, values⟩ := Option.bind_eq_some_iff.mp values
      obtain ⟨three, isThree, values⟩ := Option.bind_eq_some_iff.mp values
      obtain ⟨four, isFour, -⟩ := Option.bind_eq_some_iff.mp values
      obtain ⟨smallOne, rfl⟩ := symbol_of_value? isOne
      obtain ⟨smallTwo, rfl⟩ := symbol_of_value? isTwo
      obtain ⟨smallThree, rfl⟩ := symbol_of_value? isThree
      obtain ⟨smallFour, rfl⟩ := symbol_of_value? isFour
      rw [decode?_whole smallOne smallTwo smallThree smallFour] at decoded
      obtain ⟨later, isLater, rfl⟩ := Option.map_eq_some_iff.mp decoded
      generalize isBits : one * 262144 + two * 4096 + three * 64 + four = bits
      have byte : (UInt8.ofNat (bits / 65536)).toNat = bits / 65536 :=
        toNat_ofNat_of_lt (by omega)
      have nextByte : (UInt8.ofNat (bits / 256 % 256)).toNat = bits / 256 % 256 :=
        toNat_ofNat_of_lt (by omega)
      have lastByte : (UInt8.ofNat (bits % 256)).toNat = bits % 256 :=
        toNat_ofNat_of_lt (by omega)
      have first : bits / 262144 = one := by omega
      have second : bits / 4096 % 64 = two := by omega
      have third : bits / 64 % 64 = three := by omega
      have fourth : bits % 64 = four := by omega
      rw [encode_three, ← inductionHypothesis isLater]
      simp only [encodeThree, byte, nextByte, lastByte, sum_of_bytes, first, second, third,
        fourth]
      rfl
  | case5 text notEmpty notTwo notOne notWhole =>
      rw [decode?.eq_5 _ notEmpty notTwo notOne notWhole] at decoded
      cases decoded

/-- The padded form is the one text from which the bytes are decoded. -/
theorem decode?_eq_some_iff {text : List Char} {bytes : List UInt8} :
    decode? text = some bytes ↔ text = encode bytes :=
  ⟨eq_encode_of_decode?, fun same => same ▸ decode?_encode bytes⟩

end Parley.Text.Base64
