import Parley.Proofs.Json.Skip

/-!
# Skipping whatever is grammatical

`Fits` is the grammar of RFC 8259 as it stands: any nesting, numbers of any size, halves of
surrogate pairs alone, blanks wherever they may be. Whatever text has the form of a value is
skipped, which `skipValue_of_fits` says.
-/

namespace Parley.Json

/-! ## Blanks -/

def AreBlanks (text : List Char) : Prop :=
  ∀ character ∈ text, isBlank character = true

instance (text : List Char) : Decidable (AreBlanks text) :=
  List.decidableBAll (isBlank · = true) text

theorem areBlanks_nil : AreBlanks [] :=
  List.forall_mem_nil _

section Blanks

variable {ahead : List Char}

theorem skipBlanks_append (areBlanks : AreBlanks ahead) (text : List Char) :
    skipBlanks (ahead ++ text) = skipBlanks text :=
  List.dropWhile_append_of_pos areBlanks

theorem breaks_append (areBlanks : AreBlanks ahead) {rest : List Char} (breaks : Breaks rest) :
    Breaks (ahead ++ rest) := by
  cases ahead with
  | nil => exact breaks
  | cons blank following =>
      have isBlank := areBlanks blank List.mem_cons_self
      simp only [Json.isBlank, Bool.or_eq_true, beq_iff_eq] at isBlank
      rcases isBlank with ((rfl | rfl) | rfl) | rfl <;> simp [Breaks]

theorem expectColon_append (areBlanks : AreBlanks ahead) (text : List Char) :
    expectColon (ahead ++ ':' :: text) = .ok text := by
  rw [expectColon, skipBlanks_append areBlanks]
  rfl

theorem skipInside_append (areBlanks : AreBlanks ahead) (fuel : Nat) (enclosing : List Bracket)
    (text : List Char) :
    skipInside fuel enclosing (ahead ++ text) = skipInside fuel enclosing text := by
  have start : skipStart (ahead ++ text) = skipStart text := by
    rw [skipStart, skipBlanks_append areBlanks, skipStart]
  cases fuel with
  | zero => rw [skipInside, skipInside]
  | succ fuel => rw [skipInside, start, skipInside]

theorem skipOutward_append (areBlanks : AreBlanks ahead) (fuel : Nat) (bracket : Bracket)
    (enclosing : List Bracket) (text : List Char) :
    skipOutward fuel (bracket :: enclosing) (ahead ++ text) =
      skipOutward fuel (bracket :: enclosing) text := by
  cases fuel with
  | zero => rw [skipOutward, skipOutward]
  | succ fuel => rw [skipOutward, skipBlanks_append areBlanks, skipOutward]

end Blanks

/-! ## Strings -/

/-- Four hexadecimal digits write a code unit. -/
def Codes (digits : List Char) (unit : Nat) : Prop :=
  ∃ one two three four,
    digits.map Text.hexValue? = [some one, some two, some three, some four] ∧
      unit = one * 4096 + two * 256 + three * 16 + four

/-- The characters of a string, up to its closing quote. -/
inductive IsContent : List Char → Prop where
  | closes : IsContent ['"']
  | plain {character : Char} {text : List Char} : character ≠ '"' → character ≠ '\\' →
      0x20 ≤ character.toNat → IsContent text → IsContent (character :: text)
  | short {letter : Char} {text : List Char} :
      letter ∈ ['"', '\\', '/', 'b', 'f', 'n', 'r', 't'] → IsContent text →
      IsContent ('\\' :: letter :: text)
  | code {digits text : List Char} {unit : Nat} : Codes digits unit → IsContent text →
      IsContent ('\\' :: 'u' :: (digits ++ text))

theorem readHex_of_codes {digits : List Char} {unit : Nat} (codes : Codes digits unit)
    (rest : List Char) : readHex (digits ++ rest) = .ok (unit, rest) := by
  obtain ⟨one, two, three, four, values, rfl⟩ := codes
  simp only [List.map_eq_cons_iff, List.map_eq_nil_iff] at values
  obtain ⟨first, _, rfl, isFirst, second, _, rfl, isSecond, third, _, rfl, isThird, fourth, _, rfl,
    isFourth, rfl⟩ := values
  simp only [List.cons_append, List.nil_append, readHex, isFirst, isSecond, isThird, isFourth]

theorem skipCharacters_of_isContent {text : List Char} (isContent : IsContent text)
    (rest : List Char) {fuel : Nat} (enough : text.length < fuel) :
    skipCharacters fuel (text ++ rest) = .ok rest := by
  induction isContent generalizing fuel with
  | closes =>
      obtain ⟨left, rfl⟩ : ∃ left, fuel = left + 1 := ⟨fuel - 1, by omega⟩
      simp [skipCharacters]
  | plain notQuote notBackslash printable _ inductionHypothesis =>
      obtain ⟨left, rfl⟩ : ∃ left, fuel = left + 1 := ⟨fuel - 1, by omega⟩
      rw [List.cons_append, skipCharacters, if_neg notQuote, if_neg notBackslash,
        if_neg (Nat.not_lt.mpr printable)]
      exact inductionHypothesis (Nat.lt_of_succ_lt_succ enough)
  | @short letter text isShort _ inductionHypothesis =>
      obtain ⟨left, rfl⟩ : ∃ left, fuel = left + 1 := ⟨fuel - 1, by omega⟩
      have skip : skipEscape (letter :: (text ++ rest)) = .ok (text ++ rest) := by
        simp only [List.mem_cons, List.not_mem_nil, or_false] at isShort
        rcases isShort with rfl | rfl | rfl | rfl | rfl | rfl | rfl | rfl <;> rfl
      simp only [List.length_cons] at enough
      rw [List.cons_append, List.cons_append, skipCharacters_of_skipEscape skip]
      exact inductionHypothesis (by omega)
  | @code digits text unit codes _ inductionHypothesis =>
      obtain ⟨left, rfl⟩ : ∃ left, fuel = left + 1 := ⟨fuel - 1, by omega⟩
      have skip : skipEscape ('u' :: (digits ++ (text ++ rest))) = .ok (text ++ rest) :=
        bind_eq_ok.mpr ⟨_, readHex_of_codes codes _, rfl⟩
      simp only [List.length_cons, List.length_append] at enough
      rw [List.cons_append, List.cons_append, List.append_assoc, skipCharacters_of_skipEscape skip]
      exact inductionHypothesis (by omega)

theorem skipText_of_isContent {text : List Char} (isContent : IsContent text) (rest : List Char) :
    skipText (text ++ rest) = .ok rest :=
  skipCharacters_of_isContent isContent rest (by rw [List.length_append]; omega)

/-! ## Numbers -/

/-- At least one digit, and nothing else. -/
def AreDigits (text : List Char) : Prop :=
  text ≠ [] ∧ ∀ digit ∈ text, digit.isDigit = true

instance (text : List Char) : Decidable (AreDigits text) :=
  @instDecidableAnd (text ≠ []) _ _ (List.decidableBAll (·.isDigit = true) text)

/-- A point and the digits after it, if there are any. -/
inductive IsFraction : List Char → Prop where
  | absent : IsFraction []
  | present {digits : List Char} : AreDigits digits → IsFraction ('.' :: digits)

/-- A power of ten, if there is any. -/
inductive IsExponent : List Char → Prop where
  | absent : IsExponent []
  | present {letter : Char} {sign digits : List Char} : letter ∈ ['e', 'E'] →
      sign ∈ [[], ['+'], ['-']] → AreDigits digits → IsExponent (letter :: (sign ++ digits))

/-- A number without its sign. No zero stands before the other digits of its integer. -/
inductive IsMagnitude : List Char → Prop where
  | mk {integer fraction exponent : List Char} : AreDigits integer →
      (integer.head? = some '0' → integer = ['0']) → IsFraction fraction → IsExponent exponent →
      IsMagnitude (integer ++ (fraction ++ exponent))

theorem skipDigits_of_areDigits {digits rest : List Char} (areDigits : AreDigits digits)
    (ends : EndsDigits rest) : skipDigits (digits ++ rest) = .ok rest :=
  skipDigits_of_spanDigits areDigits.1 (spanDigits_of_endsDigits areDigits.2 ends)

theorem skipExponent_of_areDigits {sign digits rest : List Char}
    (isSign : sign ∈ [[], ['+'], ['-']]) (areDigits : AreDigits digits) (ends : EndsDigits rest) :
    skipExponent (sign ++ (digits ++ rest)) = .ok rest := by
  have skip := skipDigits_of_areDigits areDigits ends
  simp only [List.mem_cons, List.not_mem_nil, or_false] at isSign
  rcases isSign with rfl | rfl | rfl
  · obtain ⟨digit, following, rfl⟩ := List.exists_cons_of_ne_nil areDigits.1
    have isDigit := areDigits.2 digit List.mem_cons_self
    rw [List.nil_append, List.cons_append] at *
    unfold skipExponent
    split
    next same =>
      cases same
      exact absurd isDigit (by decide)
    next same =>
      cases same
      exact absurd isDigit (by decide)
    · exact skip
  · exact skip
  · exact skip

section Numbers

variable {rest : List Char} (breaks : Breaks rest)
include breaks

theorem skipScale_of_breaks : skipScale rest = .ok rest := by
  unfold skipScale
  split
  · exact absurd rfl breaks.2.2.1
  · exact absurd rfl breaks.2.2.2
  · rfl

theorem skipScale_of_isExponent {exponent : List Char} (isExponent : IsExponent exponent) :
    skipScale (exponent ++ rest) = .ok rest := by
  cases isExponent with
  | absent => exact skipScale_of_breaks breaks
  | @present letter sign digits isLetter isSign areDigits =>
      have skip := skipExponent_of_areDigits isSign areDigits breaks.endsDigits
      simp only [List.mem_cons, List.not_mem_nil, or_false] at isLetter
      rw [List.cons_append, List.append_assoc]
      rcases isLetter with rfl | rfl <;> exact skip

/-- What follows the digits of a number neither goes on with them nor starts with a point. -/
theorem endsDigits_exponent {exponent : List Char} (isExponent : IsExponent exponent) :
    EndsDigits (exponent ++ rest) ∧ ∀ following, exponent ++ rest ≠ '.' :: following := by
  cases isExponent with
  | absent =>
      refine ⟨breaks.endsDigits, ?_⟩
      rintro following rfl
      exact breaks.2.1 rfl
  | present isLetter isSign areDigits =>
      simp only [List.mem_cons, List.not_mem_nil, or_false] at isLetter
      rcases isLetter with rfl | rfl <;> simp [EndsDigits]

theorem skipAfterInteger_of_isFraction {fraction exponent : List Char}
    (isFraction : IsFraction fraction) (isExponent : IsExponent exponent) :
    skipAfterInteger (fraction ++ (exponent ++ rest)) = .ok rest ∧
      EndsDigits (fraction ++ (exponent ++ rest)) := by
  have scale := skipScale_of_isExponent breaks isExponent
  obtain ⟨ends, notPoint⟩ := endsDigits_exponent breaks isExponent
  cases isFraction with
  | absent =>
      refine ⟨?_, ends⟩
      unfold skipAfterInteger
      split
      next point => exact absurd point (notPoint _)
      · exact scale
  | @present digits areDigits =>
      refine ⟨?_, by simp [EndsDigits]⟩
      exact bind_eq_ok.mpr ⟨_, skipDigits_of_areDigits areDigits ends, scale⟩

theorem skipNumber_of_isMagnitude {magnitude : List Char} (isMagnitude : IsMagnitude magnitude) :
    skipNumber (magnitude ++ rest) = .ok rest := by
  cases isMagnitude with
  | @mk integer fraction exponent areDigits notLong isFraction isExponent =>
      obtain ⟨skip, ends⟩ := skipAfterInteger_of_isFraction breaks isFraction isExponent
      rw [List.append_assoc, List.append_assoc, skipNumber,
        spanDigits_of_endsDigits areDigits.2 ends]
      split
      next none =>
        exact absurd (congrArg Prod.fst none) areDigits.1
      next long =>
        obtain ⟨rfl, -⟩ := Prod.mk.inj long
        exact absurd (notLong rfl) (by simp)
      next same =>
        cases same
        exact skip

end Numbers

/-! ## Values -/

def Bracket.opening : Bracket → Char
  | .array => '['
  | .object => '\x7b'

/-- What a piece of a text is: a value, a value with blanks around it, a part between two commas of
an array or object, or all of its parts. -/
inductive Form where
  | value
  | padded
  | part (bracket : Bracket)
  | parts (bracket : Bracket)
deriving DecidableEq, Repr

inductive Fits : Form → List Char → Prop where
  | null : Fits .value ['n', 'u', 'l', 'l']
  | yes : Fits .value ['t', 'r', 'u', 'e']
  | no : Fits .value ['f', 'a', 'l', 's', 'e']
  | unsigned {magnitude : List Char} : IsMagnitude magnitude → Fits .value magnitude
  | signed {magnitude : List Char} : IsMagnitude magnitude → Fits .value ('-' :: magnitude)
  | string {content : List Char} : IsContent content → Fits .value ('"' :: content)
  | hollow (bracket : Bracket) {blanks : List Char} : AreBlanks blanks →
      Fits .value (bracket.opening :: (blanks ++ [bracket.close]))
  | filled {bracket : Bracket} {inside : List Char} : Fits (.parts bracket) inside →
      Fits .value (bracket.opening :: (inside ++ [bracket.close]))
  | padded {ahead value behind : List Char} : AreBlanks ahead → Fits .value value →
      AreBlanks behind → Fits .padded (ahead ++ (value ++ behind))
  | item {text : List Char} : Fits .padded text → Fits (.part .array) text
  | member {ahead key behind text : List Char} : AreBlanks ahead → IsContent key →
      AreBlanks behind → Fits .padded text →
      Fits (.part .object) (ahead ++ '"' :: (key ++ (behind ++ ':' :: text)))
  | last {bracket : Bracket} {part : List Char} : Fits (.part bracket) part →
      Fits (.parts bracket) part
  | more {bracket : Bracket} {part parts : List Char} : Fits (.part bracket) part →
      Fits (.parts bracket) parts → Fits (.parts bracket) (part ++ ',' :: parts)

theorem IsMagnitude.exists_cons {magnitude : List Char} (isMagnitude : IsMagnitude magnitude) :
    ∃ digit following, magnitude = digit :: following ∧ digit.isDigit = true := by
  obtain @⟨integer, fraction, exponent, areDigits, -, -, -⟩ := isMagnitude
  obtain ⟨digit, following, rfl⟩ := List.exists_cons_of_ne_nil areDigits.1
  exact ⟨digit, _, List.cons_append, areDigits.2 digit List.mem_cons_self⟩

theorem opens_of_fits {text : List Char} (fits : Fits .value text) : Opens text := by
  cases fits with
  | unsigned isMagnitude =>
      obtain ⟨digit, following, rfl, isDigit⟩ := isMagnitude.exists_cons
      exact opens_of_isDigit isDigit following
  | hollow bracket | @filled bracket => cases bracket <;> exact ⟨rfl, by decide⟩
  | _ => exact ⟨rfl, by decide⟩

/-- The character at which a part starts does not close what it is in. -/
def StartsPart (bracket : Bracket) (text : List Char) : Prop :=
  ∃ character following, skipBlanks text = character :: following ∧ character ≠ bracket.close

theorem startsPart_of_padded {text : List Char} (fits : Fits .padded text) (rest : List Char) :
    StartsPart .array (text ++ rest) := by
  cases fits with
  | @padded ahead value behind areBlanks isValue _ =>
      have opens := (opens_of_fits isValue).append (behind ++ rest)
      rw [List.append_assoc, List.append_assoc, StartsPart, skipBlanks_append areBlanks,
        skipBlanks_of_opens opens]
      cases whole : value ++ (behind ++ rest) with
      | nil => exact absurd opens (whole ▸ id)
      | cons character following =>
          rw [whole] at opens
          exact ⟨character, following, rfl, opens.2⟩

theorem startsPart_of_part {bracket : Bracket} {part : List Char}
    (fits : Fits (.part bracket) part) (rest : List Char) : StartsPart bracket (part ++ rest) := by
  cases fits with
  | item isPadded => exact startsPart_of_padded isPadded rest
  | member areBlanks =>
      rw [List.append_assoc, StartsPart, skipBlanks_append areBlanks]
      exact ⟨'"', _, rfl, by decide⟩

theorem startsPart_of_parts {bracket : Bracket} {parts : List Char}
    (fits : Fits (.parts bracket) parts) (rest : List Char) :
    StartsPart bracket (parts ++ rest) := by
  cases fits with
  | last isPart => exact startsPart_of_part isPart rest
  | more isPart =>
      rw [List.append_assoc]
      exact startsPart_of_part isPart _

/-- Inside a bracket skipping goes from a text on to the rest, with `still` open of what is open
before. -/
def Leads (bracket : Bracket) (still : List Bracket → List Bracket) (text rest : List Char) :
    Prop :=
  ∀ (fuel : Nat) (enclosing : List Bracket), text.length < fuel →
    ∃ left, rest.length < left ∧
      skipInside fuel (bracket :: enclosing) text =
        skipOutward left (still (bracket :: enclosing)) rest

/-- The same from a part on, which in an object starts with its key. -/
def Passes (bracket : Bracket) (still : List Bracket → List Bracket) (text rest : List Char) :
    Prop :=
  ∃ opened, skipKey bracket text = .ok opened ∧ opened.length ≤ text.length ∧
    Leads bracket still opened rest

/-- What it means for a form that its texts are skipped. -/
def Form.IsSkipped : Form → List Char → Prop
  | .value, text => ∀ rest, Breaks rest → Skips (text ++ rest) rest
  | .padded, text => ∀ rest, Breaks rest → ∀ bracket, Leads bracket id (text ++ rest) rest
  | .part bracket, text => ∀ rest, Breaks rest → Passes bracket id (text ++ rest) rest
  | .parts bracket, text => ∀ rest, Passes bracket List.tail (text ++ bracket.close :: rest) rest

theorem skips_append {text rest : List Char} (notEmpty : text ≠ [])
    (start : skipStart (text ++ rest) = .ok (none, rest)) : Skips (text ++ rest) rest := by
  refine skips_of_skipStart start ?_
  have taken := List.length_pos_iff.mpr notEmpty
  rw [List.length_append]
  omega

theorem skips_unsigned {magnitude rest : List Char} (isMagnitude : IsMagnitude magnitude)
    (breaks : Breaks rest) : Skips (magnitude ++ rest) rest := by
  have skip := skipNumber_of_isMagnitude breaks isMagnitude
  obtain ⟨digit, following, rfl, isDigit⟩ := isMagnitude.exists_cons
  refine skips_append (List.cons_ne_nil _ _) ?_
  rw [List.cons_append,
    skipStart_of_digit (skipBlanks_of_opens (opens_of_isDigit isDigit _)) isDigit]
  exact bind_eq_ok.mpr ⟨_, skip, rfl⟩

theorem skips_hollow (bracket : Bracket) {blanks : List Char} (areBlanks : AreBlanks blanks)
    (rest : List Char) :
    Skips (bracket.opening :: (blanks ++ bracket.close :: rest)) rest := by
  intro fuel enclosing enough
  obtain ⟨left, rfl⟩ : ∃ left, fuel = left + 1 := ⟨fuel - 1, by omega⟩
  have opens : skipStart (bracket.opening :: (blanks ++ bracket.close :: rest)) =
      .ok (some bracket, blanks ++ bracket.close :: rest) := by
    cases bracket <;> rfl
  have closes : skipBlanks (blanks ++ bracket.close :: rest) = bracket.close :: rest := by
    rw [skipBlanks_append areBlanks]
    cases bracket <;> rfl
  simp only [List.length_cons, List.length_append] at enough
  refine ⟨left, by omega, ?_⟩
  rw [skipInside]
  simp only [opens, closes, if_true]

theorem skips_filled {bracket : Bracket} {inside rest : List Char}
    (starts : StartsPart bracket (inside ++ bracket.close :: rest))
    (passes : Passes bracket List.tail (inside ++ bracket.close :: rest) rest) :
    Skips (bracket.opening :: (inside ++ bracket.close :: rest)) rest := by
  intro fuel enclosing enough
  obtain ⟨left, rfl⟩ : ∃ left, fuel = left + 1 := ⟨fuel - 1, by omega⟩
  have opens : skipStart (bracket.opening :: (inside ++ bracket.close :: rest)) =
      .ok (some bracket, inside ++ bracket.close :: rest) := by
    cases bracket <;> rfl
  obtain ⟨character, following, shape, notClosing⟩ := starts
  obtain ⟨opened, isKey, shorter, leads⟩ := passes
  rw [List.length_cons] at enough
  rw [skipInside]
  simp only [opens, shape, if_neg notClosing, isKey]
  exact leads left enclosing (by omega)

theorem leads_padded {ahead value behind rest : List Char} (areAhead : AreBlanks ahead)
    (areBehind : AreBlanks behind) (skips : Skips (value ++ (behind ++ rest)) (behind ++ rest))
    (bracket : Bracket) : Leads bracket id (ahead ++ (value ++ (behind ++ rest))) rest := by
  intro fuel enclosing enough
  rw [List.length_append] at enough
  obtain ⟨left, enoughLeft, skipped⟩ := skips fuel (bracket :: enclosing) (by omega)
  rw [List.length_append] at enoughLeft
  refine ⟨left, by omega, ?_⟩
  rw [skipInside_append areAhead, skipped, skipOutward_append areBehind, id]

theorem passes_member {ahead key behind text rest : List Char} (areAhead : AreBlanks ahead)
    (isKey : IsContent key) (areBehind : AreBlanks behind) (leads : Leads .object id text rest) :
    Passes .object id (ahead ++ '"' :: (key ++ (behind ++ ':' :: text))) rest := by
  refine ⟨text, ?_, by simp only [List.length_append, List.length_cons]; omega, leads⟩
  rw [skipKey, skipBlanks_append areAhead]
  exact bind_eq_ok.mpr ⟨_, skipText_of_isContent isKey _, expectColon_append areBehind text⟩

/-- After the last part the bracket closes. -/
theorem passes_last {bracket : Bracket} {text rest : List Char}
    (passes : Passes bracket id text (bracket.close :: rest)) :
    Passes bracket List.tail text rest := by
  obtain ⟨opened, isKey, shorter, leads⟩ := passes
  refine ⟨opened, isKey, shorter, fun fuel enclosing enough => ?_⟩
  obtain ⟨left, enoughLeft, skipped⟩ := leads fuel enclosing enough
  rw [List.length_cons] at enoughLeft
  obtain ⟨further, rfl⟩ : ∃ further, left = further + 1 := ⟨left - 1, by omega⟩
  refine ⟨further, by omega, ?_⟩
  have closes : skipBlanks (bracket.close :: rest) = bracket.close :: rest := by
    cases bracket <;> rfl
  rw [skipped, id, skipOutward]
  simp only [closes, if_true, List.tail_cons]

/-- After a comma there is another part. -/
theorem passes_more {bracket : Bracket} {text next rest : List Char}
    (passes : Passes bracket id text (',' :: next))
    (passesNext : Passes bracket List.tail next rest) :
    Passes bracket List.tail text rest := by
  obtain ⟨opened, isKey, shorter, leads⟩ := passes
  obtain ⟨openedNext, isKeyNext, shorterNext, leadsNext⟩ := passesNext
  refine ⟨opened, isKey, shorter, fun fuel enclosing enough => ?_⟩
  obtain ⟨left, enoughLeft, skipped⟩ := leads fuel enclosing enough
  rw [List.length_cons] at enoughLeft
  obtain ⟨further, rfl⟩ : ∃ further, left = further + 1 := ⟨left - 1, by omega⟩
  obtain ⟨last, enoughLast, skippedNext⟩ := leadsNext further enclosing (by omega)
  refine ⟨last, enoughLast, ?_⟩
  have comma : skipBlanks (',' :: next) = ',' :: next := rfl
  have notClosing : ',' ≠ bracket.close := by
    cases bracket <;> decide
  rw [skipped, id, skipOutward]
  simp only [comma, if_neg notClosing, if_true, isKeyNext, skippedNext]

/-- Every text that has a form is skipped the way of the form. -/
theorem isSkipped_of_fits {form : Form} {text : List Char} (fits : Fits form text) :
    form.IsSkipped text := by
  -- What comes after a text is chosen last, so that a form can be continued by another.
  induction fits with
  | null | yes | no => exact fun rest _ => skips_append (List.cons_ne_nil _ _) rfl
  | unsigned isMagnitude => exact fun rest breaks => skips_unsigned isMagnitude breaks
  | signed isMagnitude =>
      intro rest breaks
      refine skips_append (List.cons_ne_nil _ _) ?_
      exact bind_eq_ok.mpr ⟨_, skipNumber_of_isMagnitude breaks isMagnitude, rfl⟩
  | string isContent =>
      intro rest _
      refine skips_append (List.cons_ne_nil _ _) ?_
      exact bind_eq_ok.mpr ⟨_, skipText_of_isContent isContent rest, rfl⟩
  | hollow bracket areBlanks =>
      intro rest _
      simpa using skips_hollow bracket areBlanks rest
  | filled isParts passes =>
      intro rest _
      simpa using skips_filled (startsPart_of_parts isParts _) (passes rest)
  | padded areAhead isValue areBehind skips =>
      intro rest breaks bracket
      simpa using leads_padded areAhead areBehind (skips _ (breaks_append areBehind breaks)) bracket
  | item isPadded leads =>
      exact fun rest breaks => ⟨_, rfl, Nat.le_refl _, leads rest breaks .array⟩
  | member areAhead isKey areBehind isPadded leads =>
      intro rest breaks
      simpa using passes_member areAhead isKey areBehind (leads rest breaks .object)
  | @last bracket part isPart passes =>
      intro rest
      have breaks : Breaks (bracket.close :: rest) := by
        cases bracket <;> simp [Bracket.close, Breaks]
      exact passes_last (passes _ breaks)
  | more isPart isParts passes passesRest =>
      intro rest
      rw [List.append_assoc, List.cons_append]
      exact passes_more (passes _ (by simp [Breaks])) (passesRest rest)

/-- A value is skipped up to where it ends, however it is written. -/
theorem skipValue_of_fits {ahead text rest : List Char} (areBlanks : AreBlanks ahead)
    (fits : Fits .value text) (breaks : Breaks rest) :
    skipValue (ahead ++ (text ++ rest)) = .ok rest := by
  have skips : Skips (text ++ rest) rest := isSkipped_of_fits fits rest breaks
  rw [skipValue, skipInside_append areBlanks]
  obtain ⟨left, -, skipped⟩ := skips ((ahead ++ (text ++ rest)).length + 1) []
    (by simp only [List.length_append]; omega)
  rw [skipped, skipOutward]

end Parley.Json
