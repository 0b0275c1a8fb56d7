import Parley.Json.Skip
import Parley.Proofs.Json.Grammar

/-!
# Skipping what can be read

A value that a tree can be read from is skipped, and the same text is left behind. The converse does
not hold, since skipping knows no bounds on nesting or numbers.
-/

namespace Parley.Json

/-! ## Numbers -/

/-- Where neither the end of the text nor another character is met at once, there are digits. -/
theorem ne_nil_of_unstuck {digits after : List Char} (notEmpty : digits = [] → after = [] → False)
    (notStuck : ∀ character rest, digits = [] → after = character :: rest → False) :
    digits ≠ [] := by
  intro none
  cases after with
  | nil => exact notEmpty none rfl
  | cons character rest => exact notStuck character rest none rfl

theorem skipDigits_of_spanDigits {text digits rest : List Char} (some : digits ≠ [])
    (spans : spanDigits text = (digits, rest)) : skipDigits text = .ok rest := by
  obtain ⟨digit, following, rfl⟩ := List.exists_cons_of_ne_nil some
  rw [skipDigits, spans]

theorem skipExponent_of_readExponent {negative : Bool} {significand : Nat} {power : Int}
    {text rest : List Char} {number : Number}
    (read : readExponent negative significand power text = .ok (number, rest)) :
    skipExponent text = .ok rest := by
  unfold readExponent at read
  split at read
  next down unsigned signed =>
    have signless : skipExponent text = skipDigits unsigned := by
      unfold skipExponent
      split at signed <;> cases signed <;> simp_all
    rw [signless]
    split at read
    · cases read
    · cases read
    next digits after notEmpty notStuck spans =>
      have some := ne_nil_of_unstuck notEmpty notStuck
      rw [skipDigits_of_spanDigits some spans]
      simp only at read
      split at read
      · split at read <;> cases read
        rfl
      · obtain ⟨written, -, same⟩ := bind_eq_ok.mp read
        cases same
        rfl

theorem skipScale_of_readScale {negative : Bool} {significand : Nat} {power : Int}
    {text rest : List Char} {number : Number}
    (read : readScale negative significand power text = .ok (number, rest)) :
    skipScale text = .ok rest := by
  unfold readScale at read
  split at read
  · exact skipExponent_of_readExponent read
  · exact skipExponent_of_readExponent read
  next notSmall notGreat =>
    obtain ⟨written, -, same⟩ := bind_eq_ok.mp read
    cases same
    unfold skipScale
    split
    · exact absurd rfl (notSmall _)
    · exact absurd rfl (notGreat _)
    · rfl

theorem skipAfterInteger_of_readAfterInteger {negative : Bool} {integer : Significand}
    {text rest : List Char} {number : Number}
    (read : readAfterInteger negative integer text = .ok (number, rest)) :
    skipAfterInteger text = .ok rest := by
  unfold readAfterInteger at read
  split at read
  · split at read
    · cases read
    · cases read
    next digits after notEmpty notStuck spans =>
      have some := ne_nil_of_unstuck notEmpty notStuck
      exact bind_eq_ok.mpr
        ⟨after, skipDigits_of_spanDigits some spans, skipScale_of_readScale read⟩
  · exact skipExponent_of_readExponent read
  · exact skipExponent_of_readExponent read
  next notPoint notSmall notGreat =>
    have ends : rest = text := by
      split at read
      · obtain ⟨written, -, same⟩ := bind_eq_ok.mp read
        cases same
        rfl
      · split at read
        · cases read
          rfl
        · split at read
          · obtain ⟨written, -, same⟩ := bind_eq_ok.mp read
            cases same
            rfl
          · cases read
            rfl
    rw [ends]
    unfold skipAfterInteger
    split
    · exact absurd rfl (notPoint _)
    · unfold skipScale
      split
      · exact absurd rfl (notSmall _)
      · exact absurd rfl (notGreat _)
      · rfl

theorem skipNumber_of_readUnsigned {negative : Bool} {text rest : List Char} {number : Number}
    (read : readUnsigned negative text = .ok (number, rest)) : skipNumber text = .ok rest := by
  unfold readUnsigned at read
  unfold skipNumber
  split at read
  · cases read
  · cases read
  · cases read
  next digits after notEmpty notStuck notLong spans =>
    rw [spans]
    split
    next isEmpty =>
      cases isEmpty
      exact absurd rfl (ne_nil_of_unstuck notEmpty notStuck)
    next isLong =>
      cases isLong
      exact absurd rfl (notLong _ _)
    next same =>
      cases same
      exact skipAfterInteger_of_readAfterInteger read

/-- A number takes at least one character. -/
theorem length_readUnsigned_lt {negative : Bool} {text rest : List Char} {number : Number}
    (read : readUnsigned negative text = .ok (number, rest)) : rest.length < text.length := by
  unfold readUnsigned at read
  split at read
  · cases read
  · cases read
  · cases read
  next digits after notEmpty notStuck notLong spans =>
    obtain ⟨-, ended⟩ :=
      yieldsNumber_readAfterInteger negative (gather_le (Nat.zero_le _) _) _ number rest read
    obtain ⟨rfl, rfl⟩ := Prod.mk.inj spans
    have whole : (text.takeWhile Char.isDigit).length + (text.dropWhile Char.isDigit).length =
        text.length := by
      rw [← List.length_append, List.takeWhile_append_dropWhile]
    have some := List.length_pos_iff.mpr (ne_nil_of_unstuck notEmpty notStuck)
    omega

/-! ## Strings -/

/-- An escape is skipped at once, or half by half if it is a pair. -/
theorem skipEscape_of_readEscape {text rest : List Char} {character : Char}
    (read : readEscape text = .ok (character, rest)) :
    skipEscape text = .ok rest ∨
      ∃ half, skipEscape text = .ok ('\\' :: half) ∧ skipEscape half = .ok rest := by
  unfold readEscape at read
  split at read
  case h_10 =>
    obtain ⟨⟨unit, after⟩, hex, escaped⟩ := bind_eq_ok.mp read
    simp only at escaped
    split at escaped
    · cases escaped
    · split at escaped
      · unfold readPair at escaped
        split at escaped
        · cases escaped
        · cases escaped
        next following =>
          obtain ⟨⟨low, beyond⟩, lowHex, paired⟩ := bind_eq_ok.mp escaped
          simp only at paired
          split at paired
          · obtain ⟨-, rfl⟩ := Prod.mk.inj (Except.ok.inj paired)
            exact Or.inr ⟨'u' :: following, bind_eq_ok.mpr ⟨_, hex, rfl⟩,
              bind_eq_ok.mpr ⟨_, lowHex, rfl⟩⟩
          · cases paired
        · cases escaped
      · cases escaped
        exact Or.inl (bind_eq_ok.mpr ⟨_, hex, rfl⟩)
  all_goals cases read
  all_goals exact Or.inl rfl

theorem skipCharacters_of_skipEscape {text rest : List Char} (skip : skipEscape text = .ok rest)
    (fuel : Nat) : skipCharacters (fuel + 1) ('\\' :: text) = skipCharacters fuel rest := by
  rw [skipCharacters, if_neg (by decide), if_pos rfl]
  simp only [skip]

theorem skipCharacters_of_readCharacters {fuel : Nat} {read text characters rest : List Char}
    (reads : readCharacters fuel read text = .ok (characters, rest)) {left : Nat}
    (enough : text.length < left) : skipCharacters left text = .ok rest := by
  -- A pair of halves is one step of reading and two of skipping, so each has a fuel of its own.
  induction fuel generalizing read text left with
  | zero => cases reads
  | succ fuel inductionHypothesis =>
      obtain ⟨left, rfl⟩ : ∃ further, left = further + 1 := ⟨left - 1, by omega⟩
      cases text with
      | nil => cases reads
      | cons character following =>
          rw [List.length_cons] at enough
          rw [readCharacters] at reads
          split at reads
          next quote =>
            cases reads
            rw [skipCharacters, if_pos quote]
          next notQuote =>
            split at reads
            next escapes =>
              split at reads
              next escaped after escape =>
                have shorter := length_readEscape_lt escape
                rcases skipEscape_of_readEscape escape with once | ⟨half, first, second⟩
                · rw [escapes, skipCharacters_of_skipEscape once]
                  exact inductionHypothesis reads (by omega)
                · obtain ⟨left, rfl⟩ : ∃ further, left = further + 1 := ⟨left - 1, by omega⟩
                  rw [escapes, skipCharacters_of_skipEscape first,
                    skipCharacters_of_skipEscape second]
                  exact inductionHypothesis reads (by omega)
              · cases reads
            next notEscape =>
              split at reads
              · cases reads
              next notControl =>
                rw [skipCharacters, if_neg notQuote, if_neg notEscape, if_neg notControl]
                exact inductionHypothesis reads (by omega)

theorem skipText_of_readText {text rest : List Char} {content : String}
    (read : readText text = .ok (content, rest)) : skipText text = .ok rest := by
  obtain ⟨⟨characters, after⟩, reads, same⟩ := bind_eq_ok.mp read
  cases same
  exact skipCharacters_of_readCharacters reads (Nat.lt_succ_self _)

/-! ## Whole values -/

/-- What stands between two texts is skipped, whatever is open around it and with any fuel above the
length of the text. -/
def Skips (text rest : List Char) : Prop :=
  ∀ (fuel : Nat) (enclosing : List Bracket), text.length < fuel →
    ∃ left, rest.length < left ∧
      skipInside fuel enclosing text = skipOutward left enclosing rest

theorem skips_of_skipStart {text rest : List Char} (start : skipStart text = .ok (none, rest))
    (shorter : rest.length < text.length) : Skips text rest := by
  intro fuel enclosing enough
  obtain ⟨left, rfl⟩ : ∃ left, fuel = left + 1 := ⟨fuel - 1, by omega⟩
  refine ⟨left, by omega, ?_⟩
  rw [skipInside]
  simp only [start]

section Nested

variable {depth : Nat}

/-- The rest of an array is skipped if its items are. -/
theorem skipOutward_of_moreItems
    (skips : ∀ text tree rest, readValue depth text = .ok (tree, rest) → Skips text rest)
    {text rest : List Char} {items : List Json} (more : MoreItems depth text items rest)
    (enclosing : List Bracket) {fuel : Nat} (enough : text.length < fuel) :
    ∃ left, rest.length < left ∧
      skipOutward fuel (.array :: enclosing) text = skipOutward left enclosing rest := by
  induction more generalizing fuel with
  | closes closing =>
      obtain ⟨left, rfl⟩ : ∃ left, fuel = left + 1 := ⟨fuel - 1, by omega⟩
      have shorter := length_lt_of_skipBlanks closing
      refine ⟨left, by omega, ?_⟩
      rw [skipOutward]
      simp only [closing, Bracket.close, if_true]
  | @item text behind after rest item items comma starts isItem more inductionHypothesis =>
      obtain ⟨left, rfl⟩ : ∃ left, fuel = left + 1 := ⟨fuel - 1, by omega⟩
      have shorter := length_lt_of_skipBlanks comma
      rw [readValue_skipBlanks] at isItem
      obtain ⟨further, enoughLeft, skipped⟩ :=
        skips behind item after isItem left (.array :: enclosing) (by omega)
      rw [skipOutward]
      simp only [comma, Bracket.close, skipKey, skipped]
      exact inductionHypothesis enoughLeft

theorem skipKey_of_member {text quoted rest : List Char} {member : String × Json}
    (quote : skipBlanks text = '"' :: quoted) (isMember : Member depth quoted member rest) :
    ∃ opened, skipKey .object text = .ok opened ∧ opened.length < text.length ∧
      readValue depth opened = .ok (member.2, rest) := by
  obtain ⟨after, opened, isKey, isColon, isValue⟩ := isMember
  have quoteTaken := length_lt_of_skipBlanks quote
  have keyTaken := length_readText_lt isKey
  have colonTaken := length_expectColon_lt isColon
  refine ⟨opened, ?_, by omega, isValue⟩
  rw [skipKey, quote]
  exact bind_eq_ok.mpr ⟨after, skipText_of_readText isKey, isColon⟩

/-- The rest of an object is skipped if the values of its members are. -/
theorem skipOutward_of_moreMembers
    (skips : ∀ text tree rest, readValue depth text = .ok (tree, rest) → Skips text rest)
    {text rest : List Char} {members : List (String × Json)}
    (more : MoreMembers depth text members rest) (enclosing : List Bracket) {fuel : Nat}
    (enough : text.length < fuel) :
    ∃ left, rest.length < left ∧
      skipOutward fuel (.object :: enclosing) text = skipOutward left enclosing rest := by
  induction more generalizing fuel with
  | closes closing =>
      obtain ⟨left, rfl⟩ : ∃ left, fuel = left + 1 := ⟨fuel - 1, by omega⟩
      have shorter := length_lt_of_skipBlanks closing
      refine ⟨left, by omega, ?_⟩
      rw [skipOutward]
      simp only [closing, Bracket.close, if_true]
  | @member text behind quoted after rest member members comma quote isMember more
      inductionHypothesis =>
      obtain ⟨left, rfl⟩ : ∃ left, fuel = left + 1 := ⟨fuel - 1, by omega⟩
      have shorter := length_lt_of_skipBlanks comma
      obtain ⟨opened, isKey, keyTaken, isValue⟩ := skipKey_of_member quote isMember
      obtain ⟨further, enoughLeft, skipped⟩ :=
        skips opened member.2 after isValue left (.object :: enclosing) (by omega)
      rw [skipOutward]
      simp only [comma, Bracket.close, isKey, skipped]
      exact inductionHypothesis enoughLeft

theorem skips_array
    (skips : ∀ text tree rest, readValue depth text = .ok (tree, rest) → Skips text rest)
    {text after rest : List Char} {items : List Json} (starts : skipBlanks text = '[' :: after)
    (areItems : Items depth after items rest) : Skips text rest := by
  intro fuel enclosing enough
  obtain ⟨left, rfl⟩ : ∃ left, fuel = left + 1 := ⟨fuel - 1, by omega⟩
  have taken := length_lt_of_skipBlanks starts
  have opens : skipStart text = .ok (some .array, after) := by
    rw [skipStart, starts]
    rfl
  rw [skipInside]
  simp only [opens]
  cases areItems with
  | closes closing =>
      have closingTaken := length_lt_of_skipBlanks closing
      exact ⟨left, by omega, by simp only [closing, Bracket.close, if_true]⟩
  | item startsItem isItem more =>
      obtain ⟨character, following, shape, notClosing⟩ := startsItem.exists_cons
      rw [readValue_skipBlanks] at isItem
      obtain ⟨further, enoughLeft, skipped⟩ :=
        skips after _ _ isItem left (.array :: enclosing) (by omega)
      simp only [shape, Bracket.close, if_neg notClosing, skipKey, skipped]
      exact skipOutward_of_moreItems skips more enclosing enoughLeft

theorem skips_object
    (skips : ∀ text tree rest, readValue depth text = .ok (tree, rest) → Skips text rest)
    {text after rest : List Char} {members : List (String × Json)}
    (starts : skipBlanks text = '\x7b' :: after)
    (areMembers : Members depth after members rest) : Skips text rest := by
  intro fuel enclosing enough
  obtain ⟨left, rfl⟩ : ∃ left, fuel = left + 1 := ⟨fuel - 1, by omega⟩
  have taken := length_lt_of_skipBlanks starts
  have opens : skipStart text = .ok (some .object, after) := by
    rw [skipStart, starts]
    rfl
  rw [skipInside]
  simp only [opens]
  cases areMembers with
  | closes closing =>
      have closingTaken := length_lt_of_skipBlanks closing
      exact ⟨left, by omega, by simp only [closing, Bracket.close, if_true]⟩
  | member quote isMember more =>
      obtain ⟨opened, isKey, keyTaken, isValue⟩ := skipKey_of_member quote isMember
      obtain ⟨further, enoughLeft, skipped⟩ :=
        skips opened _ _ isValue left (.object :: enclosing) (by omega)
      have notClosing : '"' ≠ '\x7d' := by decide
      simp only [quote, Bracket.close, if_neg notClosing, isKey, skipped]
      exact skipOutward_of_moreMembers skips more enclosing enoughLeft

end Nested

theorem skipStart_of_digit {text after : List Char} {character : Char}
    (starts : skipBlanks text = character :: after) (isDigit : character.isDigit = true) :
    skipStart text = (do .ok (none, ← skipNumber (character :: after))) := by
  rw [skipStart, starts]
  split
  case h_9 same =>
    cases same
    rw [if_pos isDigit]
  all_goals cases ‹_ :: _ = _›
  all_goals exact absurd isDigit (by decide)

/-- Any tree is skipped if all that are nested less deep are. -/
theorem skips_of_stands {depth : Nat} {text rest : List Char} {tree : Json}
    (inner : ∀ inside < depth, ∀ text tree rest, readValue inside text = .ok (tree, rest) →
      Skips text rest)
    (stands : Stands depth text tree rest) : Skips text rest := by
  cases stands with
  | null starts word | yes starts word | no starts word =>
      have taken := length_lt_of_skipBlanks starts
      have wordTaken := length_expectWord_le word
      refine skips_of_skipStart ?_ (by omega)
      rw [skipStart, starts]
      exact bind_eq_ok.mpr ⟨_, word, rfl⟩
  | signed starts isNumber =>
      have taken := length_lt_of_skipBlanks starts
      have numberTaken := length_readUnsigned_lt isNumber
      refine skips_of_skipStart ?_ (by omega)
      rw [skipStart, starts]
      exact bind_eq_ok.mpr ⟨_, skipNumber_of_readUnsigned isNumber, rfl⟩
  | unsigned starts isDigit isNumber =>
      have taken := length_skipBlanks_le text
      have numberTaken := length_readUnsigned_lt isNumber
      rw [starts] at taken
      refine skips_of_skipStart ?_ (by omega)
      rw [skipStart_of_digit starts isDigit]
      exact bind_eq_ok.mpr ⟨_, skipNumber_of_readUnsigned isNumber, rfl⟩
  | string starts isText =>
      have taken := length_lt_of_skipBlanks starts
      have textTaken := length_readText_lt isText
      refine skips_of_skipStart ?_ (by omega)
      rw [skipStart, starts]
      exact bind_eq_ok.mpr ⟨_, skipText_of_readText isText, rfl⟩
  | array starts areItems =>
      exact skips_array (inner _ (Nat.lt_succ_self _)) starts areItems
  | object starts areMembers =>
      exact skips_object (inner _ (Nat.lt_succ_self _)) starts areMembers

/-- Whatever can be read can be skipped. -/
theorem skips_of_readValue (depth : Nat) (text : List Char) (tree : Json) (rest : List Char)
    (read : readValue depth text = .ok (tree, rest)) : Skips text rest := by
  induction depth using Nat.strongRecOn generalizing text tree rest with
  | ind depth inductionHypothesis =>
      exact skips_of_stands inductionHypothesis (stands_of_readValue read)

/-- A value is skipped up to where its tree ends. -/
theorem skipValue_of_readValue {depth : Nat} {text rest : List Char} {tree : Json}
    (read : readValue depth text = .ok (tree, rest)) : skipValue text = .ok rest := by
  obtain ⟨left, enough, skipped⟩ :=
    skips_of_readValue depth text tree rest read (text.length + 1) [] (Nat.lt_succ_self _)
  rw [skipValue, skipped, skipOutward]

end Parley.Json
