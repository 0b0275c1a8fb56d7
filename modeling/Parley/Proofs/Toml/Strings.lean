import Parley.Toml.Writer

/-!
# Strings of TOML, written and read

Whatever characters a text has, one of four kinds of quotation marks is chosen for it, and between
these it is written with or without escapes. The main statement is that the text is read back from
each of them, up to the end of its line.
-/

namespace Parley.Toml

/-! ## Single characters -/

/-- What stands behind a backslash is read as a character, and not as the end of a line. -/
structure Escapes (spelled : List Char) (character : Char) : Prop where
  reads : ∀ rest, readEscape? (spelled ++ rest) = some (character, rest)
  goesOn : ∀ rest, continueLine? (spelled ++ rest) = none

theorem escapes_quote : Escapes ['"'] '"' :=
  ⟨fun _ => rfl, fun _ => rfl⟩

theorem isPlain_iff {character : Char} :
    isPlain character = true ↔
      character = '\t' ∨ 0x20 ≤ character.toNat ∧ character.toNat ≠ 0x7f := by
  simp [isPlain]

/-- What is written with the digits of a code is among the first characters. -/
theorem toNat_lt_of_not_isPlain {character : Char} (control : isPlain character = false) :
    character.toNat < 128 := by
  have notPlain := Bool.eq_false_iff.mp control
  rw [ne_eq, isPlain_iff, not_or] at notPlain
  omega

theorem hexDigits_of_code : ∀ code < 128,
    Text.numeral 16 ['0', '0', Text.upperHexDigit (code / 16), Text.upperHexDigit (code % 16)] =
        code ∧
      ['0', '0', Text.upperHexDigit (code / 16), Text.upperHexDigit (code % 16)].all
        (fun digit => (Text.hexValue? digit).isSome) = true := by
  decide

theorem readCode?_append {digits : List Char} {character : Char} (rest : List Char)
    (hexadecimal : digits.all (fun digit => (Text.hexValue? digit).isSome) = true)
    (code : Text.numeral 16 digits = character.toNat) :
    readCode? digits.length (digits ++ rest) = some (character, rest) := by
  have valid : (Text.numeral 16 digits).isValidChar := by
    rw [code]
    exact character.valid
  rw [readCode?, List.take_left, List.drop_left, if_pos ⟨rfl, hexadecimal, valid⟩, code,
    Char.ofNat_toNat]

theorem escapes_code {character : Char} (control : isPlain character = false) :
    Escapes
      ['u', '0', '0', Text.upperHexDigit (character.toNat / 16),
        Text.upperHexDigit (character.toNat % 16)] character := by
  obtain ⟨code, digits⟩ := hexDigits_of_code character.toNat (toNat_lt_of_not_isPlain control)
  exact ⟨fun rest => readCode?_append rest digits code, fun _ => rfl⟩

/-- How a character other than a quotation mark is written: as it is, or with an escape. -/
inductive Spelling (inLines : Bool) (character : Char) : Prop where
  | line (lines : inLines = true) (same : character = '\n')
      (is : renderCharacter inLines character = ['\n'])
  | plain (plain : isPlain character = true) (notBackslash : character ≠ '\\')
      (is : renderCharacter inLines character = [character])
  | escaped (spelled : List Char) (escapes : Escapes spelled character)
      (is : renderCharacter inLines character = '\\' :: spelled)

theorem spelling (inLines : Bool) (character : Char) : Spelling inLines character := by
  by_cases newline : character = '\n'
  · subst newline
    cases inLines with
    | true =>
        exact .line rfl rfl rfl
    | false =>
        exact .escaped ['n'] ⟨fun _ => rfl, fun _ => rfl⟩ rfl
  · by_cases tab : character = '\t'
    · subst tab
      exact .escaped ['t'] ⟨fun _ => rfl, fun _ => rfl⟩ rfl
    · by_cases carriageReturn : character = '\r'
      · subst carriageReturn
        exact .escaped ['r'] ⟨fun _ => rfl, fun _ => rfl⟩ rfl
      · by_cases backspace : character = '\x08'
        · subst backspace
          exact .escaped ['b'] ⟨fun _ => rfl, fun _ => rfl⟩ rfl
        · by_cases formFeed : character = '\x0c'
          · subst formFeed
            exact .escaped ['f'] ⟨fun _ => rfl, fun _ => rfl⟩ rfl
          · by_cases backslash : character = '\\'
            · subst backslash
              exact .escaped ['\\'] ⟨fun _ => rfl, fun _ => rfl⟩ rfl
            · have written : renderCharacter inLines character =
                  if isPlain character then [character]
                  else '\\' :: ['u', '0', '0', Text.upperHexDigit (character.toNat / 16),
                    Text.upperHexDigit (character.toNat % 16)] := by
                simp only [renderCharacter, newline, tab, carriageReturn, backspace, formFeed,
                  backslash, if_false]
              cases plain : isPlain character with
              | true =>
                  rw [plain, if_pos rfl] at written
                  exact .plain plain backslash written
              | false =>
                  rw [plain, if_neg Bool.false_ne_true] at written
                  exact .escaped _ (escapes_code plain) written

theorem Spelling.length_pos {inLines : Bool} {character : Char}
    (spelling : Spelling inLines character) : 0 < (renderCharacter inLines character).length := by
  cases spelling with
  | line _ _ is | plain _ _ is | escaped _ _ is =>
      rw [is]
      exact Nat.succ_pos _

theorem length_le_renderEscaped (inLines : Bool) (quotes : Nat) (text : List Char) :
    text.length ≤ (renderEscaped inLines quotes text).length := by
  induction text generalizing quotes with
  | nil =>
      exact Nat.le_refl 0
  | cons character rest inductionHypothesis =>
      rw [renderEscaped]
      split
      · split
        · exact Nat.succ_le_succ (inductionHypothesis (quotes + 1))
        · exact Nat.succ_le_succ (Nat.le_succ_of_le (inductionHypothesis 0))
      · have written := (spelling inLines character).length_pos
        have later := inductionHypothesis 0
        rw [List.length_append, List.length_cons]
        omega

/-! ## Strings on one line -/

section Basic

variable {fuel : Nat} {read rest : List Char} {character : Char}

theorem readBasic?_plain (plain : isPlain character = true) (notQuote : character ≠ '"')
    (notBackslash : character ≠ '\\') :
    readBasic? (fuel + 1) read (character :: rest) = readBasic? fuel (character :: read) rest := by
  rw [readBasic?, if_neg notQuote, if_neg notBackslash, if_pos plain]

theorem readBasic?_escaped {spelled : List Char} (escapes : Escapes spelled character) :
    readBasic? (fuel + 1) read ('\\' :: spelled ++ rest) =
      readBasic? fuel (character :: read) rest := by
  have notQuote : '\\' ≠ '"' := by decide
  rw [List.cons_append, readBasic?, if_neg notQuote, if_pos rfl, escapes.reads]

theorem readBasic?_renderEscaped {text : List Char} (enough : text.length < fuel) :
    readBasic? fuel read (renderEscaped false 0 text ++ '"' :: rest) =
      some (read.reverse ++ text, rest) := by
  induction text generalizing fuel read with
  | nil =>
      obtain ⟨fuel, rfl⟩ := Nat.exists_eq_succ_of_ne_zero (Nat.ne_zero_of_lt enough)
      rw [renderEscaped, List.nil_append, readBasic?, if_pos rfl, List.append_nil]
  | cons character later inductionHypothesis =>
      obtain ⟨fuel, rfl⟩ := Nat.exists_eq_succ_of_ne_zero (Nat.ne_zero_of_lt enough)
      have goesOn :
          readBasic? fuel (character :: read) (renderEscaped false 0 later ++ '"' :: rest) =
            some (read.reverse ++ character :: later, rest) := by
        rw [inductionHypothesis (Nat.lt_of_succ_lt_succ enough), List.reverse_cons,
          List.append_assoc]
        rfl
      by_cases quote : character = '"'
      · subst quote
        have written : renderEscaped false 0 ('"' :: later) ++ '"' :: rest =
            '\\' :: ['"'] ++ (renderEscaped false 0 later ++ '"' :: rest) := rfl
        rw [written, readBasic?_escaped escapes_quote]
        exact goesOn
      · rw [renderEscaped, if_neg quote, List.append_assoc]
        cases spelling false character with
        | line lines same is =>
            cases lines
        | plain plain notBackslash is =>
            rw [is, List.singleton_append, readBasic?_plain plain quote notBackslash]
            exact goesOn
        | escaped spelled escapes is =>
            rw [is, readBasic?_escaped escapes]
            exact goesOn

end Basic

theorem readLiteral?_append {text rest : List Char}
    (plain : ∀ character ∈ text, isPlain character = true)
    (unquoted : ∀ character ∈ text, character ≠ '\x27') :
    readLiteral? (text ++ '\x27' :: rest) = some (text, rest) := by
  have inside : ∀ character ∈ text, (isPlain character && character != '\x27') = true := by
    intro character member
    simp [plain character member, unquoted character member]
  rw [readLiteral?, List.dropWhile_append_of_pos inside, List.takeWhile_append_of_pos inside]
  simp

/-! ## Strings on several lines -/

section Lines

variable {quote : Char} {hasEscapes : Bool} {fuel quotes : Nat} {read rest : List Char}
  {character : Char}

theorem countQuotes_replicate (count : Nat) (apart : rest.head? ≠ some quote) :
    countQuotes quote (List.replicate count quote ++ rest) = count := by
  have noMore : rest.takeWhile (· == quote) = [] := by
    cases rest with
    | nil =>
        rfl
    | cons next later =>
        have another : next ≠ quote := by
          rintro rfl
          exact apart rfl
        rw [List.takeWhile_cons_of_neg (by simpa using another)]
  have all : ∀ character ∈ List.replicate count quote, (character == quote) = true := by
    intro character member
    rw [List.eq_of_mem_replicate member]
    exact beq_self_eq_true quote
  rw [countQuotes, List.takeWhile_append_of_pos all, noMore, List.append_nil,
    List.length_replicate]

/-- One or two quotation marks belong to the text. -/
theorem readLines?_quotes (few : quotes ≤ 1) (apart : rest.head? ≠ some quote) :
    readLines? quote hasEscapes (fuel + 1) read (List.replicate (quotes + 1) quote ++ rest) =
      readLines? quote hasEscapes fuel (List.replicate (quotes + 1) quote ++ read) rest := by
  have inside : quotes + 1 < 3 := by omega
  have behind : (List.replicate quotes quote ++ rest).drop quotes = rest := by
    rw [List.drop_left' (List.length_replicate)]
  rw [List.replicate_succ, List.cons_append, readLines?, if_pos rfl,
    countQuotes_replicate quotes apart]
  simp only [if_pos inside, Nat.add_sub_cancel, behind, List.replicate_succ]

/-- Three quotation marks end the text, and up to two before them belong to it. -/
theorem readLines?_end (few : quotes ≤ 2) (apart : rest.head? ≠ some quote) :
    readLines? quote hasEscapes (fuel + 1) read (List.replicate (quotes + 3) quote ++ rest) =
      some (read.reverse ++ List.replicate quotes quote, rest) := by
  have outside : ¬ quotes + 2 + 1 < 3 := by omega
  have kept : min (quotes + 2 + 1 - 3) 2 = quotes := by omega
  have behind : (List.replicate (quotes + 2) quote ++ rest).drop (quotes + 2) = rest := by
    rw [List.drop_left' (List.length_replicate)]
  rw [List.replicate_succ, List.cons_append, readLines?, if_pos rfl,
    countQuotes_replicate (quotes + 2) apart]
  simp only [if_neg outside, kept, behind, List.reverse_append, List.reverse_replicate]

theorem readLines?_newline (notQuote : '\n' ≠ quote) :
    readLines? quote hasEscapes (fuel + 1) read ('\n' :: rest) =
      readLines? quote hasEscapes fuel ('\n' :: read) rest := by
  rw [readLines?, if_neg notQuote]
  rfl

theorem endOfLine?_plain (plain : isPlain character = true) :
    endOfLine? (character :: rest) = none := by
  unfold endOfLine?
  split
  next isNewline =>
    cases isNewline
    cases plain
  next isReturn =>
    cases isReturn
    cases plain
  next =>
    rfl

theorem readLines?_plain (plain : isPlain character = true) (notQuote : character ≠ quote)
    (notBackslash : hasEscapes = true → character ≠ '\\') :
    readLines? quote hasEscapes (fuel + 1) read (character :: rest) =
      readLines? quote hasEscapes fuel (character :: read) rest := by
  have notEscape : ¬ (decide (character = '\\') && hasEscapes) = true := by
    rw [Bool.and_eq_true, decide_eq_true_eq]
    rintro ⟨backslash, escapes⟩
    exact notBackslash escapes backslash
  rw [readLines?, if_neg notQuote, endOfLine?_plain plain]
  simp only [if_neg notEscape, if_pos plain]

theorem readLines?_escaped {spelled : List Char} (escapes : Escapes spelled character)
    (notQuote : '\\' ≠ quote) :
    readLines? quote true (fuel + 1) read ('\\' :: spelled ++ rest) =
      readLines? quote true fuel (character :: read) rest := by
  have backslash : isPlain '\\' = true := rfl
  rw [List.cons_append, readLines?, if_neg notQuote, endOfLine?_plain backslash]
  simp only [Bool.and_true, decide_true, if_true, escapes.goesOn, escapes.reads]

/-- What is written for a character, behind up to two quotation marks, is read as the character. -/
structure Spells (quote : Char) (hasEscapes : Bool) (piece : List Char) (character : Char) :
    Prop where
  apart : ∀ rest, (piece ++ rest).head? ≠ some quote
  reads :
    ∀ fuel read rest, readLines? quote hasEscapes (fuel + 1) read (piece ++ rest) =
      readLines? quote hasEscapes fuel (character :: read) rest

theorem spells_newline (hasEscapes : Bool) (notQuote : '\n' ≠ quote) :
    Spells quote hasEscapes ['\n'] '\n' where
  apart _ same := notQuote (Option.some.inj same)
  reads _ _ _ := readLines?_newline notQuote

theorem spells_plain (plain : isPlain character = true) (notQuote : character ≠ quote)
    (notBackslash : hasEscapes = true → character ≠ '\\') :
    Spells quote hasEscapes [character] character where
  apart _ same := notQuote (Option.some.inj same)
  reads _ _ _ := readLines?_plain plain notQuote notBackslash

theorem spells_escaped {spelled : List Char} (escapes : Escapes spelled character)
    (notQuote : '\\' ≠ quote) : Spells quote true ('\\' :: spelled) character where
  apart _ same := notQuote (Option.some.inj same)
  reads _ _ _ := readLines?_escaped escapes notQuote

theorem spells_renderCharacter (notQuote : character ≠ '"') :
    Spells '"' true (renderCharacter true character) character := by
  cases spelling true character with
  | line _ same is =>
      subst same
      rw [is]
      exact spells_newline true (by decide)
  | plain plain notBackslash is =>
      rw [is]
      exact spells_plain plain notQuote fun _ => notBackslash
  | escaped spelled escapes is =>
      rw [is]
      exact spells_escaped escapes (by decide)

theorem Spells.reads_behind {piece : List Char} {room : Nat}
    (spells : Spells quote hasEscapes piece character) (few : quotes ≤ 2)
    (enough : quotes + (room + 1) < fuel) :
    ∃ left, room < left ∧
      readLines? quote hasEscapes fuel read (List.replicate quotes quote ++ (piece ++ rest)) =
        readLines? quote hasEscapes left (character :: (List.replicate quotes quote ++ read))
          rest := by
  obtain ⟨fuel, rfl⟩ := Nat.exists_eq_succ_of_ne_zero (Nat.ne_zero_of_lt enough)
  cases quotes with
  | zero =>
      exact ⟨fuel, by omega, spells.reads fuel read rest⟩
  | succ more =>
      obtain ⟨left, rfl⟩ := Nat.exists_eq_succ_of_ne_zero (n := fuel) (by omega)
      refine ⟨left, by omega, ?_⟩
      rw [readLines?_quotes (by omega) (spells.apart rest), spells.reads]

/-- With escapes: a quotation mark is read together with those next to it, and every other
character by itself. -/
theorem readLines?_renderEscaped {text : List Char} (few : quotes ≤ 2)
    (apart : rest.head? ≠ some '"') (enough : quotes + text.length < fuel) :
    readLines? '"' true fuel read
        (List.replicate quotes '"' ++
          (renderEscaped true quotes text ++ (List.replicate 3 '"' ++ rest))) =
      some (read.reverse ++ (List.replicate quotes '"' ++ text), rest) := by
  -- The marks in front are those not read yet: the next character may be another one of them.
  induction text generalizing fuel quotes read with
  | nil =>
      obtain ⟨fuel, rfl⟩ := Nat.exists_eq_succ_of_ne_zero (Nat.ne_zero_of_lt enough)
      rw [renderEscaped, List.nil_append, ← List.append_assoc, List.replicate_append_replicate,
        readLines?_end few apart, List.append_nil]
  | cons character later inductionHypothesis =>
      rw [List.length_cons] at enough
      have alone {piece : List Char} (spells : Spells '"' true piece character)
          (written : renderEscaped true quotes (character :: later) =
            piece ++ renderEscaped true 0 later) :
          readLines? '"' true fuel read
              (List.replicate quotes '"' ++
                (renderEscaped true quotes (character :: later) ++
                  (List.replicate 3 '"' ++ rest))) =
            some (read.reverse ++ (List.replicate quotes '"' ++ character :: later), rest) := by
        obtain ⟨left, room, reads⟩ := spells.reads_behind few enough
        rw [written, List.append_assoc, reads]
        have goesOn := @inductionHypothesis left 0
          (character :: (List.replicate quotes '"' ++ read)) (Nat.zero_le 2) (by omega)
        simpa using goesOn
      by_cases isQuote : character = '"'
      · subst isQuote
        by_cases more : quotes < 2
        · -- The mark stands for itself, next to those before it.
          have written : renderEscaped true quotes ('"' :: later) =
              '"' :: renderEscaped true (quotes + 1) later := by
            simp [renderEscaped, more]
          have goesOn := @inductionHypothesis fuel (quotes + 1) read (by omega) (by omega)
          rw [List.replicate_succ'] at goesOn
          simpa [written] using goesOn
        · refine alone (spells_escaped escapes_quote (by decide)) ?_
          simp [renderEscaped, more]
      · refine alone (spells_renderCharacter isQuote) ?_
        rw [renderEscaped, if_neg isQuote]

/-- Without escapes: all characters stand for themselves, as long as no three quotation marks stand
in a row. -/
theorem readLines?_literal {text : List Char} (few : longestRun quote quotes text ≤ 2)
    (plain : ∀ character ∈ text, isPlain character = true ∨ character = '\n')
    (notQuote : '\n' ≠ quote) (apart : rest.head? ≠ some quote)
    (enough : quotes + text.length < fuel) :
    readLines? quote false fuel read
        (List.replicate quotes quote ++ (text ++ (List.replicate 3 quote ++ rest))) =
      some (read.reverse ++ (List.replicate quotes quote ++ text), rest) := by
  induction text generalizing fuel quotes read with
  | nil =>
      obtain ⟨fuel, rfl⟩ := Nat.exists_eq_succ_of_ne_zero (Nat.ne_zero_of_lt enough)
      rw [longestRun] at few
      rw [List.nil_append, ← List.append_assoc, List.replicate_append_replicate,
        readLines?_end few apart, List.append_nil]
  | cons character later inductionHypothesis =>
      rw [List.length_cons] at enough
      obtain ⟨plainFirst, plainLater⟩ := List.forall_mem_cons.mp plain
      rw [longestRun] at few
      by_cases isQuote : character = quote
      · subst isQuote
        rw [if_pos rfl] at few
        have goesOn := @inductionHypothesis fuel (quotes + 1) read few plainLater (by omega)
        rw [List.replicate_succ'] at goesOn
        simpa using goesOn
      · rw [if_neg isQuote] at few
        obtain ⟨fewNow, fewLater⟩ := Nat.max_le.mp few
        have spells : Spells quote false [character] character := by
          rcases plainFirst with isPlain | rfl
          · exact spells_plain isPlain isQuote Bool.noConfusion
          · exact spells_newline false notQuote
        obtain ⟨left, room, reads⟩ := spells.reads_behind fewNow enough
        rw [← List.singleton_append, List.append_assoc, reads]
        have goesOn := @inductionHypothesis left 0
          (character :: (List.replicate quotes quote ++ read)) fewLater plainLater (by omega)
        simpa using goesOn

end Lines

/-! ## The choice of quotation marks -/

section Choice

variable {text : List Char} {wanted character : Char}

theorem le_longestRun (wanted : Char) (current : Nat) (text : List Char) :
    current ≤ longestRun wanted current text := by
  induction text generalizing current with
  | nil =>
      exact Nat.le_refl current
  | cons character rest inductionHypothesis =>
      rw [longestRun]
      split
      · exact Nat.le_of_succ_le (inductionHypothesis (current + 1))
      · exact Nat.le_max_left _ _

theorem ne_of_longestRun_eq_zero (none : longestRun wanted 0 text = 0) :
    ∀ character ∈ text, character ≠ wanted := by
  induction text with
  | nil =>
      exact nofun
  | cons character rest inductionHypothesis =>
      rw [longestRun] at none
      by_cases isWanted : character = wanted
      · have one := le_longestRun wanted (0 + 1) rest
        rw [if_pos isWanted] at none
        omega
      · rw [if_neg isWanted, Nat.max_eq_zero_iff] at none
        exact List.forall_mem_cons.mpr ⟨isWanted, inductionHypothesis none.2⟩

/-- What a text is like that is written without escapes. -/
inductive Unescaped (text : List Char) : Quoting → Prop where
  | basic : Unescaped text .basic
  | basicLines : Unescaped text .basicLines
  | literal (plain : ∀ character ∈ text, isPlain character = true)
      (unquoted : ∀ character ∈ text, character ≠ '\x27') : Unescaped text .literal
  | literalLines (plain : ∀ character ∈ text, isPlain character = true ∨ character = '\n')
      (few : longestRun '\x27' 0 text ≤ 2) : Unescaped text .literalLines

theorem unescaped_quotingOf (text : List Char) : Unescaped text (quotingOf text) := by
  have plain
      (isOpen : (text.all fun character => isPlain character || character == '\n') = true) :
      ∀ character ∈ text, isPlain character = true ∨ character = '\n' := by
    intro character member
    simpa using List.all_eq_true.mp isOpen character member
  dsimp only [quotingOf]
  split
  · exact .basic
  · split
    next fits =>
      obtain ⟨isOpen, noLines, unquoted⟩ := fits
      refine .literal ?_ (ne_of_longestRun_eq_zero unquoted)
      intro character member
      rcases plain isOpen character member with isPlain | rfl
      · exact isPlain
      · rw [List.contains_iff_mem.mpr member] at noLines
        cases noLines
    next =>
      split
      · exact .basicLines
      · split
        next fits =>
          exact .literalLines (plain fits.1) fits.2
        next =>
          split
          · exact .basicLines
          · exact .basic

end Choice

/-! ## Strings of any kind -/

section Strings

variable {quote : Char} {text rest inside : List Char}

/-- A single quotation mark is not taken for the first of three. -/
theorem readString?_basic (single : ∀ later, rest ≠ '"' :: '"' :: later) :
    readString? ('"' :: rest) = readBasic? (rest.length + 1) [] rest := by
  unfold readString?
  split
  next later isThree =>
    cases isThree
    exact absurd rfl (single later)
  next later _ isOne =>
    cases isOne
    rfl
  next isLiteral =>
    cases isLiteral
  next isLiteral =>
    cases isLiteral
  next _ isNone _ _ =>
    exact absurd rfl (isNone rest)

theorem readString?_literal (single : ∀ later, rest ≠ '\x27' :: '\x27' :: later) :
    readString? ('\x27' :: rest) = readLiteral? rest := by
  unfold readString?
  split
  next isBasic =>
    cases isBasic
  next isBasic =>
    cases isBasic
  next later isThree =>
    cases isThree
    exact absurd rfl (single later)
  next later _ isOne =>
    cases isOne
    rfl
  next _ _ _ isNone =>
    exact absurd rfl (isNone rest)

theorem readString?_eq_none {first : Char} (notBasic : first ≠ '"') (notLiteral : first ≠ '\x27') :
    readString? (first :: rest) = none := by
  unfold readString?
  split <;> simp_all

/-- Of the line ends between threefold quotation marks only the one that was put there is
dropped. -/
theorem inside_of_opening (closed : text.contains '\n' = false → endOfLine? inside = none) :
    (endOfLine? ((if text.contains '\n' then ['\n'] else []) ++ inside)).getD
        ((if text.contains '\n' then ['\n'] else []) ++ inside) = inside := by
  cases lines : text.contains '\n' with
  | true =>
      rfl
  | false =>
      rw [if_neg Bool.false_ne_true, List.nil_append, closed lines]
      rfl

theorem endOfLine?_renderEscaped (noLines : text.contains '\n' = false) :
    endOfLine? (renderEscaped true 0 text ++ '"' :: rest) = none := by
  have quotePlain : isPlain '"' = true := rfl
  have backslashPlain : isPlain '\\' = true := rfl
  cases text with
  | nil =>
      exact endOfLine?_plain quotePlain
  | cons character later =>
      by_cases isQuote : character = '"'
      · subst isQuote
        have written : renderEscaped true 0 ('"' :: later) = '"' :: renderEscaped true 1 later :=
          rfl
        rw [written]
        exact endOfLine?_plain quotePlain
      · rw [renderEscaped, if_neg isQuote]
        cases spelling true character with
        | line _ same is =>
            subst same
            cases noLines
        | plain plain _ is =>
            rw [is]
            exact endOfLine?_plain plain
        | escaped spelled _ is =>
            rw [is]
            exact endOfLine?_plain backslashPlain

theorem renderEscaped_ne_quotes (later : List Char) :
    renderEscaped false 0 text ++ '"' :: '\n' :: rest ≠ '"' :: '"' :: later := by
  cases text with
  | nil =>
      intro same
      cases same
  | cons character behind =>
      intro same
      have isHead := congrArg List.head? same
      by_cases isQuote : character = '"'
      · subst isQuote
        cases isHead
      · rw [renderEscaped, if_neg isQuote] at isHead
        cases spelling false character with
        | line lines _ _ =>
            cases lines
        | plain _ _ is =>
            rw [is] at isHead
            exact isQuote (Option.some.inj isHead)
        | escaped spelled _ is =>
            rw [is] at isHead
            cases isHead

/-- Threefold quotation marks around a body from which a text is read. The end of a line is put
before the body if the text has several lines. -/
theorem readString?_lines {hasEscapes : Bool} {body : List Char}
    (opens : ∀ later, readString? (List.replicate 3 quote ++ later) =
      readLines? quote hasEscapes (((endOfLine? later).getD later).length + 1) []
        ((endOfLine? later).getD later))
    (closed : text.contains '\n' = false →
      endOfLine? (body ++ (List.replicate 3 quote ++ '\n' :: rest)) = none)
    (atLeast : text.length ≤ body.length)
    (reads : ∀ fuel, text.length < fuel →
      readLines? quote hasEscapes fuel [] (body ++ (List.replicate 3 quote ++ '\n' :: rest)) =
        some (text, '\n' :: rest)) :
    readString?
        (List.replicate 3 quote ++ (if text.contains '\n' then ['\n'] else []) ++ body ++
          List.replicate 3 quote ++ '\n' :: rest) =
      some (text, '\n' :: rest) := by
  have enough : text.length <
      (body ++ (List.replicate 3 quote ++ '\n' :: rest)).length + 1 := by
    rw [List.length_append]
    omega
  simp only [List.append_assoc]
  rw [opens, inside_of_opening closed]
  exact reads _ enough

theorem readString?_basicLines (text rest : List Char) :
    readString?
        (List.replicate 3 '"' ++ (if text.contains '\n' then ['\n'] else []) ++
          renderEscaped true 0 text ++ List.replicate 3 '"' ++ '\n' :: rest) =
      some (text, '\n' :: rest) := by
  refine readString?_lines (fun _ => rfl) endOfLine?_renderEscaped
    (length_le_renderEscaped true 0 text) ?_
  intro fuel enough
  exact @readLines?_renderEscaped fuel 0 [] ('\n' :: rest) text (Nat.zero_le 2) (by simp)
    (by omega)

theorem readString?_literalLines
    (plain : ∀ character ∈ text, isPlain character = true ∨ character = '\n')
    (few : longestRun '\x27' 0 text ≤ 2) (rest : List Char) :
    readString?
        (List.replicate 3 '\x27' ++ (if text.contains '\n' then ['\n'] else []) ++ text ++
          List.replicate 3 '\x27' ++ '\n' :: rest) =
      some (text, '\n' :: rest) := by
  have closed : text.contains '\n' = false →
      endOfLine? (text ++ (List.replicate 3 '\x27' ++ '\n' :: rest)) = none := by
    intro noLines
    cases text with
    | nil =>
        rfl
    | cons character later =>
        rcases plain character List.mem_cons_self with isPlain | rfl
        · exact endOfLine?_plain isPlain
        · cases noLines
  refine readString?_lines (fun _ => rfl) closed (Nat.le_refl _) ?_
  intro fuel enough
  exact @readLines?_literal '\x27' fuel 0 [] ('\n' :: rest) text few plain (by decide) (by simp)
    (by omega)

/-- Every text is read back from the way in which it is written, at the end of a line. -/
theorem readString?_renderText (text rest : List Char) :
    readString? (renderText text ++ '\n' :: rest) = some (text, '\n' :: rest) := by
  have fits := unescaped_quotingOf text
  unfold renderText
  cases quoting : quotingOf text with
  | basic =>
      have written : '"' :: (renderEscaped false 0 text ++ ['"']) ++ '\n' :: rest =
          '"' :: (renderEscaped false 0 text ++ '"' :: '\n' :: rest) := by
        simp
      have enough :
          text.length < (renderEscaped false 0 text ++ '"' :: '\n' :: rest).length + 1 := by
        have atLeast := length_le_renderEscaped false 0 text
        rw [List.length_append]
        omega
      simp only [written]
      rw [readString?_basic renderEscaped_ne_quotes, readBasic?_renderEscaped enough]
      rfl
  | literal =>
      rw [quoting] at fits
      cases fits with
      | literal plain unquoted =>
          have written : '\x27' :: (text ++ ['\x27']) ++ '\n' :: rest =
              '\x27' :: (text ++ '\x27' :: '\n' :: rest) := by
            simp
          have single : ∀ later, text ++ '\x27' :: '\n' :: rest ≠ '\x27' :: '\x27' :: later := by
            intro later same
            cases text with
            | nil =>
                cases same
            | cons character behind =>
                exact unquoted character List.mem_cons_self
                  (Option.some.inj (congrArg List.head? same))
          simp only [written]
          rw [readString?_literal single, readLiteral?_append plain unquoted]
  | basicLines =>
      exact readString?_basicLines text rest
  | literalLines =>
      rw [quoting] at fits
      cases fits with
      | literalLines plain few =>
          exact readString?_literalLines plain few rest

end Strings

end Parley.Toml
