import Parley.Proofs.Json.Records
import Parley.Proofs.Json.Spelling

/-!
# Records read from any spelling

An object may be written with blanks anywhere, its keys and strings with any escapes, its members
in any order, and members that name no field may hold anything. A record is read from every such
object as it is from the plainest.
-/

namespace Parley.Json

/-! ## Strings -/

/-- The letters of the short escapes, with what they stand for. -/
def shortEscapes : List (Char × Char) :=
  [('"', '"'), ('\\', '\\'), ('/', '/'), ('b', '\x08'), ('f', '\x0c'), ('n', '\n'), ('r', '\r'),
    ('t', '\t')]

/-- The text writes the characters, up to the closing quote. -/
inductive Spells : List Char → List Char → Prop where
  | closes : Spells [] ['"']
  | plain {character : Char} {characters text : List Char} : character ≠ '"' → character ≠ '\\' →
      0x20 ≤ character.toNat → Spells characters text →
      Spells (character :: characters) (character :: text)
  | short {letter character : Char} {characters text : List Char} :
      (letter, character) ∈ shortEscapes → Spells characters text →
      Spells (character :: characters) ('\\' :: letter :: text)
  | code {digits characters text : List Char} {unit : Nat} : Codes digits unit →
      isHighSurrogate unit = false → isLowSurrogate unit = false → Spells characters text →
      Spells (Char.ofNat unit :: characters) ('\\' :: 'u' :: (digits ++ text))
  | pair {first second characters text : List Char} {high low : Nat} : Codes first high →
      isHighSurrogate high = true → Codes second low → isLowSurrogate low = true →
      Spells characters text →
      Spells (Char.ofNat (0x10000 + (high - 0xD800) * 0x400 + (low - 0xDC00)) :: characters)
        ('\\' :: 'u' :: (first ++ '\\' :: 'u' :: (second ++ text)))

/-- The text is a string that holds the content. -/
def WritesText (content : String) (text : List Char) : Prop :=
  ∃ inside, Spells content.toList inside ∧ text = '"' :: inside

theorem readCharacters_of_readEscape {character : Char} {text rest : List Char}
    (escape : readEscape text = .ok (character, rest)) (fuel : Nat) (read : List Char) :
    readCharacters (fuel + 1) read ('\\' :: text) =
      readCharacters fuel (character :: read) rest := by
  rw [readCharacters, if_neg (by decide), if_pos rfl]
  simp only [escape]

theorem readEscape_code {digits : List Char} {unit : Nat} (codes : Codes digits unit)
    (notHigh : isHighSurrogate unit = false) (notLow : isLowSurrogate unit = false)
    (rest : List Char) :
    readEscape ('u' :: (digits ++ rest)) = .ok (Char.ofNat unit, rest) := by
  refine bind_eq_ok.mpr ⟨_, readHex_of_codes codes rest, ?_⟩
  simp [notHigh, notLow]

theorem not_isLowSurrogate_of_high {unit : Nat} (isHigh : isHighSurrogate unit = true) :
    isLowSurrogate unit = false := by
  simp only [isLowSurrogate, isHighSurrogate, Bool.and_eq_true, decide_eq_true_eq,
    Bool.and_eq_false_iff, decide_eq_false_iff_not] at isHigh ⊢
  omega

theorem readEscape_pair {first second : List Char} {high low : Nat}
    (firstCodes : Codes first high) (isHigh : isHighSurrogate high = true)
    (secondCodes : Codes second low) (isLow : isLowSurrogate low = true) (rest : List Char) :
    readEscape ('u' :: (first ++ '\\' :: 'u' :: (second ++ rest))) =
      .ok (Char.ofNat (0x10000 + (high - 0xD800) * 0x400 + (low - 0xDC00)), rest) := by
  have pair : readPair high ('\\' :: 'u' :: (second ++ rest)) =
      .ok (Char.ofNat (0x10000 + (high - 0xD800) * 0x400 + (low - 0xDC00)), rest) := by
    refine bind_eq_ok.mpr ⟨_, readHex_of_codes secondCodes rest, ?_⟩
    simp [isLow]
  refine bind_eq_ok.mpr ⟨_, readHex_of_codes firstCodes _, ?_⟩
  simp [not_isLowSurrogate_of_high isHigh, isHigh, pair]

theorem readCharacters_of_spells {characters text : List Char} (spells : Spells characters text)
    (read rest : List Char) {fuel : Nat} (enough : text.length < fuel) :
    readCharacters fuel read (text ++ rest) = .ok (read.reverse ++ characters, rest) := by
  induction spells generalizing read fuel with
  | closes =>
      obtain ⟨left, rfl⟩ : ∃ left, fuel = left + 1 := ⟨fuel - 1, by omega⟩
      simp [readCharacters]
  | plain notQuote notBackslash printable _ inductionHypothesis =>
      obtain ⟨left, rfl⟩ : ∃ left, fuel = left + 1 := ⟨fuel - 1, by omega⟩
      rw [List.cons_append, readCharacters, if_neg notQuote, if_neg notBackslash,
        if_neg (Nat.not_lt.mpr printable),
        inductionHypothesis _ (Nat.lt_of_succ_lt_succ enough)]
      simp
  | @short letter character characters text isShort _ inductionHypothesis =>
      obtain ⟨left, rfl⟩ : ∃ left, fuel = left + 1 := ⟨fuel - 1, by omega⟩
      have escape : readEscape (letter :: (text ++ rest)) = .ok (character, text ++ rest) := by
        simp only [shortEscapes, List.mem_cons, Prod.mk.injEq, List.not_mem_nil, or_false]
          at isShort
        rcases isShort with ⟨rfl, rfl⟩ | ⟨rfl, rfl⟩ | ⟨rfl, rfl⟩ | ⟨rfl, rfl⟩ | ⟨rfl, rfl⟩ |
          ⟨rfl, rfl⟩ | ⟨rfl, rfl⟩ | ⟨rfl, rfl⟩ <;> rfl
      simp only [List.length_cons] at enough
      rw [List.cons_append, List.cons_append, readCharacters_of_readEscape escape,
        inductionHypothesis _ (by omega)]
      simp
  | @code digits characters text unit codes notHigh notLow _ inductionHypothesis =>
      obtain ⟨left, rfl⟩ : ∃ left, fuel = left + 1 := ⟨fuel - 1, by omega⟩
      simp only [List.length_cons, List.length_append] at enough
      rw [List.cons_append, List.cons_append, List.append_assoc,
        readCharacters_of_readEscape (readEscape_code codes notHigh notLow _),
        inductionHypothesis _ (by omega)]
      simp
  | @pair first second characters text high low firstCodes isHigh secondCodes isLow _
      inductionHypothesis =>
      obtain ⟨left, rfl⟩ : ∃ left, fuel = left + 1 := ⟨fuel - 1, by omega⟩
      simp only [List.length_cons, List.length_append] at enough
      simp only [List.cons_append, List.append_assoc]
      rw [readCharacters_of_readEscape (readEscape_pair firstCodes isHigh secondCodes isLow _),
        inductionHypothesis _ (by omega)]
      simp

theorem readText_of_spells {content : String} {inside : List Char}
    (spells : Spells content.toList inside) (rest : List Char) :
    readText (inside ++ rest) = .ok (content, rest) := by
  refine bind_eq_ok.mpr ⟨_, readCharacters_of_spells spells [] rest ?_, ?_⟩
  · rw [List.length_append]
    omega
  · simp

theorem spells_escape (character : Char) {characters text : List Char}
    (spells : Spells characters text) :
    Spells (character :: characters) (escape character ++ text) := by
  unfold escape
  split
  case h_8 notQuote notBackslash _ _ _ _ _ =>
    split
    next control =>
      have codes : Codes ['0', '0', Text.lowerHexDigit (character.toNat / 16),
          Text.lowerHexDigit (character.toNat % 16)] character.toNat := by
        refine ⟨0, 0, character.toNat / 16, character.toNat % 16, ?_, by omega⟩
        simp [hexValue?_lowerHexDigit (character.toNat / 16) (by omega),
          hexValue?_lowerHexDigit (character.toNat % 16) (Nat.mod_lt _ (by decide)),
          show Text.hexValue? '0' = some 0 by decide]
      obtain ⟨notLow, notHigh⟩ := not_surrogate_of_control control
      simpa using Spells.code codes notHigh notLow spells
    next printable =>
      exact .plain notQuote notBackslash (Nat.not_lt.mp printable) spells
  all_goals exact .short (by simp [shortEscapes]) spells

theorem spells_flatMap_escape (characters : List Char) :
    Spells characters (characters.flatMap escape ++ ['"']) := by
  induction characters with
  | nil => exact .closes
  | cons character rest inductionHypothesis =>
      rw [List.flatMap_cons, List.append_assoc]
      exact spells_escape character inductionHypothesis

/-- The text of a string is one way to write it. -/
theorem writesText_renderText (content : String) : WritesText content (renderText content) :=
  ⟨_, spells_flatMap_escape content.toList, rfl⟩

/-! ## Simple values -/

/-- The decoder finds the value in a text, whatever blanks come before it and whatever follows. -/
def Decoder.Finds {α : Type} (decoder : Decoder α) (depth : Nat) (value : α) (text : List Char) :
    Prop :=
  ∀ ahead rest, AreBlanks ahead → Breaks rest →
    decoder.read depth (ahead ++ (text ++ rest)) = .ok (value, rest)

namespace Decoder

variable (depth : Nat)

theorem finds_text {content : String} {text : List Char} (writes : WritesText content text) :
    Decoder.text.Finds depth content text := by
  intro ahead rest areBlanks _
  obtain ⟨inside, spells, rfl⟩ := writes
  simp only [Decoder.text, skipBlanks_append areBlanks]
  exact readText_of_spells spells rest

theorem finds_bool (value : Bool) : bool.Finds depth value (toString value).toList := by
  intro ahead rest areBlanks _
  simp only [bool, skipBlanks_append areBlanks]
  cases value <;> rfl

theorem finds_natural {greatest value : Nat} (fits : value ≤ greatest)
    (isWord : greatest ≤ greatestWord) :
    (natural greatest).Finds depth value (Nat.toDigits 10 value) := by
  intro ahead rest areBlanks breaks
  have read := readUnsigned_natural (Nat.le_trans fits isWord) breaks
  have opens := (opens_toDigits value).append rest
  simp only [natural, skipBlanks_append areBlanks, skipBlanks_of_opens opens]
  cases digits : Nat.toDigits 10 value with
  | nil => exact absurd digits Nat.toDigits_ne_nil
  | cons first following =>
      have member : first ∈ Nat.toDigits 10 value := digits ▸ List.mem_cons_self
      have isDigit := Nat.isDigit_of_mem_toDigits (by decide) (by decide) member
      rw [digits, List.cons_append] at read
      simp only [List.cons_append, if_pos isDigit, read, if_pos fits]

end Decoder

/-! ## Objects -/

/-- The text is a member with the key, whose value has the text that the entry gives. -/
inductive WritesMember : String × List Char → List Char → Prop where
  | mk {key : String} {value ahead spelled behind before after : List Char} : AreBlanks ahead →
      Spells key.toList spelled → AreBlanks behind → AreBlanks before → AreBlanks after →
      WritesMember (key, value)
        (ahead ++ '"' :: (spelled ++ (behind ++ ':' :: (before ++ (value ++ after)))))

/-- The text is one member for each entry, in order. -/
inductive WritesMembers : List (String × List Char) → List Char → Prop where
  | last {entry : String × List Char} {text : List Char} : WritesMember entry text →
      WritesMembers [entry] text
  | more {entry : String × List Char} {entries : List (String × List Char)}
      {text following : List Char} : WritesMember entry text → WritesMembers entries following →
      WritesMembers (entry :: entries) (text ++ ',' :: following)

/-- The text is an object with one member for each entry, in order. -/
inductive WritesObject : List (String × List Char) → List Char → Prop where
  | empty {blanks : List Char} : AreBlanks blanks →
      WritesObject [] ('\x7b' :: (blanks ++ ['\x7d']))
  | members {entries : List (String × List Char)} {text : List Char} :
      WritesMembers entries text → WritesObject entries ('\x7b' :: (text ++ ['\x7d']))

/-- The text is such an object and nothing else but blanks. -/
def HoldsObject (entries : List (String × List Char)) (text : String) : Prop :=
  ∃ ahead object behind, AreBlanks ahead ∧ WritesObject entries object ∧ AreBlanks behind ∧
    text.toList = ahead ++ (object ++ behind)

theorem writesMember_render (key : String) (value : Json) :
    WritesMember (key, renderValue value) (renderText key ++ ':' :: renderValue value) := by
  have writes : WritesMember (key, renderValue value) _ := .mk areBlanks_nil
    (spells_flatMap_escape key.toList) areBlanks_nil areBlanks_nil areBlanks_nil
  simpa [renderText] using writes

theorem exists_writesMembers_render (key : String) (value : Json)
    (members : List (String × Json)) :
    ∃ text, renderText key ++ ':' :: (renderValue value ++ renderMoreMembers members) =
        text ++ ['\x7d'] ∧
      WritesMembers (((key, value) :: members).map fun (key, value) => (key, renderValue value))
        text := by
  have first := writesMember_render key value
  induction members generalizing key value with
  | nil => exact ⟨_, by simp [renderMoreMembers], .last first⟩
  | cons member following inductionHypothesis =>
      obtain ⟨text, shape, writes⟩ :=
        inductionHypothesis member.1 member.2 (writesMember_render _ _)
      refine ⟨_, ?_, .more first writes⟩
      simp [renderMoreMembers, shape]

/-- The text of an object is one way to write it. -/
theorem writesObject_render (members : List (String × Json)) :
    WritesObject (members.map fun (key, value) => (key, renderValue value))
      (renderValue (.object members)) := by
  rw [renderValue_object]
  cases members with
  | nil => exact .empty areBlanks_nil
  | cons member rest =>
      obtain ⟨text, shape, writes⟩ := exists_writesMembers_render member.1 member.2 rest
      rw [renderMembers, shape]
      exact .members writes

section Folds

variable {σ : Type} {member : σ → String → List Char → Except Fault (σ × List Char)}

/-- The entry takes one state to the next, whatever blanks its member has. -/
def ReadsEntry (member : σ → String → List Char → Except Fault (σ × List Char)) (state : σ)
    (entry : String × List Char) (next : σ) : Prop :=
  ∀ behind before rest, AreBlanks behind → AreBlanks before → Breaks rest →
    member state entry.1 (behind ++ ':' :: (before ++ (entry.2 ++ rest))) = .ok (next, rest)

/-- Each entry is read in the state that those before it lead to. -/
inductive ReadsEntries (member : σ → String → List Char → Except Fault (σ × List Char)) :
    σ → List (String × List Char) → σ → Prop
  | nil (state : σ) : ReadsEntries member state [] state
  | cons {state next last : σ} {entry : String × List Char}
      {entries : List (String × List Char)} : ReadsEntry member state entry next →
      ReadsEntries member next entries last → ReadsEntries member state (entry :: entries) last

theorem foldMoreMembers_append {ahead : List Char} (areBlanks : AreBlanks ahead) (fuel : Nat)
    (state : σ) (text : List Char) :
    foldMoreMembers member fuel state (ahead ++ text) = foldMoreMembers member fuel state text := by
  cases fuel with
  | zero => rw [foldMoreMembers, foldMoreMembers]
  | succ fuel => rw [foldMoreMembers, skipBlanks_append areBlanks, foldMoreMembers]

/-- A member is its key, and from the colon on what the entry reads, up to its last blanks. -/
theorem exists_readText_of_writes {state next : σ} {entry : String × List Char}
    {text rest : List Char} (writes : WritesMember entry text)
    (reads : ReadsEntry member state entry next) (breaks : Breaks rest) :
    ∃ quoted opened after, skipBlanks (text ++ rest) = '"' :: quoted ∧
      readText quoted = .ok (entry.1, opened) ∧
      member state entry.1 opened = .ok (next, after ++ rest) ∧ AreBlanks after := by
  obtain @⟨key, value, ahead, spelled, behind, before, after, areAhead, spells, areBehind,
    areBefore, areAfter⟩ := writes
  refine ⟨spelled ++ (behind ++ ':' :: (before ++ (value ++ (after ++ rest)))),
    behind ++ ':' :: (before ++ (value ++ (after ++ rest))), after, ?_,
    readText_of_spells spells _,
    reads behind before (after ++ rest) areBehind areBefore (breaks_append areAfter breaks),
    areAfter⟩
  simp only [List.append_assoc, List.cons_append]
  rw [skipBlanks_append areAhead]
  rfl

theorem foldMoreMembers_of_writes {state next : σ} {entry : String × List Char}
    {text rest : List Char} (writes : WritesMember entry text)
    (reads : ReadsEntry member state entry next) (breaks : Breaks rest) (fuel : Nat) :
    foldMoreMembers member (fuel + 1) state (',' :: (text ++ rest)) =
      foldMoreMembers member fuel next rest := by
  obtain ⟨quoted, opened, after, shape, isKey, isMember, areBlanks⟩ :=
    exists_readText_of_writes writes reads breaks
  rw [foldMoreMembers, show skipBlanks (',' :: (text ++ rest)) = ',' :: (text ++ rest) from rfl]
  simp only [shape, isKey, isMember]
  exact foldMoreMembers_append areBlanks fuel next rest

theorem foldMembers_of_writes {state next : σ} {entry : String × List Char}
    {text rest : List Char} (writes : WritesMember entry text)
    (reads : ReadsEntry member state entry next) (breaks : Breaks rest) :
    ∃ fuel, rest.length < fuel ∧
      foldMembers member state (text ++ rest) = foldMoreMembers member fuel next rest := by
  obtain ⟨quoted, opened, after, shape, isKey, isMember, areBlanks⟩ :=
    exists_readText_of_writes writes reads breaks
  refine ⟨(after ++ rest).length + 1, by rw [List.length_append]; omega, ?_⟩
  rw [foldMembers]
  simp only [shape, isKey, isMember]
  exact foldMoreMembers_append areBlanks _ next rest

theorem foldMoreMembers_closes (state : σ) (rest : List Char) {fuel : Nat}
    (enough : ('\x7d' :: rest).length < fuel) :
    foldMoreMembers member fuel state ('\x7d' :: rest) = .ok (state, rest) := by
  obtain ⟨left, rfl⟩ : ∃ left, fuel = left + 1 := ⟨fuel - 1, by omega⟩
  rfl

theorem breaks_comma (text : List Char) : Breaks (',' :: text) := by
  simp [Breaks]

theorem breaks_brace (text : List Char) : Breaks ('\x7d' :: text) := by
  simp [Breaks]

theorem foldMoreMembers_of_writesMembers {entries : List (String × List Char)} {text : List Char}
    (writes : WritesMembers entries text) {state last : σ}
    (reads : ReadsEntries member state entries last) (rest : List Char) {fuel : Nat}
    (enough : (',' :: (text ++ '\x7d' :: rest)).length < fuel) :
    foldMoreMembers member fuel state (',' :: (text ++ '\x7d' :: rest)) = .ok (last, rest) := by
  induction writes generalizing state fuel with
  | last isMember =>
      obtain ⟨left, rfl⟩ : ∃ left, fuel = left + 1 := ⟨fuel - 1, by omega⟩
      obtain _ | ⟨readsEntry, _ | _⟩ := reads
      rw [foldMoreMembers_of_writes isMember readsEntry (breaks_brace rest)]
      refine foldMoreMembers_closes last rest ?_
      simp only [List.length_cons, List.length_append] at enough ⊢
      omega
  | more isMember _ inductionHypothesis =>
      obtain ⟨left, rfl⟩ : ∃ left, fuel = left + 1 := ⟨fuel - 1, by omega⟩
      obtain _ | ⟨readsEntry, readsFollowing⟩ := reads
      rw [List.append_assoc, List.cons_append,
        foldMoreMembers_of_writes isMember readsEntry (breaks_comma _)]
      refine inductionHypothesis readsFollowing ?_
      simp only [List.length_cons, List.length_append] at enough ⊢
      omega

/-- The members of a written object are read one after the other up to its closing brace. -/
theorem foldMembers_of_writesObject {entries : List (String × List Char)} {text : List Char}
    (writes : WritesObject entries text) {state last : σ}
    (reads : ReadsEntries member state entries last) (rest : List Char) :
    ∃ inside, text ++ rest = '\x7b' :: inside ∧
      foldMembers member state inside = .ok (last, rest) := by
  cases writes with
  | @empty blanks areBlanks =>
      obtain _ | _ := reads
      refine ⟨blanks ++ '\x7d' :: rest, by simp, ?_⟩
      rw [foldMembers, skipBlanks_append areBlanks]
      rfl
  | @members _ inside areMembers =>
      refine ⟨inside ++ '\x7d' :: rest, by simp, ?_⟩
      cases areMembers with
      | last isMember =>
          obtain _ | ⟨readsEntry, _ | _⟩ := reads
          obtain ⟨fuel, enough, step⟩ :=
            foldMembers_of_writes isMember readsEntry (breaks_brace rest)
          rw [step]
          exact foldMoreMembers_closes last rest enough
      | more isMember areFollowing =>
          obtain _ | ⟨readsEntry, readsFollowing⟩ := reads
          obtain ⟨fuel, enough, step⟩ :=
            foldMembers_of_writes isMember readsEntry (breaks_comma _)
          rw [List.append_assoc, List.cons_append, step]
          exact foldMoreMembers_of_writesMembers areFollowing readsFollowing rest enough

end Folds

/-! ## Records -/

def GivesOnce (keys : List String) (entries : List (String × List Char)) : Prop :=
  ∀ key ∈ keys, (entries.map Prod.fst).count key ≤ 1

instance (keys : List String) (entries : List (String × List Char)) :
    Decidable (GivesOnce keys entries) :=
  List.decidableBAll (fun key => (entries.map Prod.fst).count key ≤ 1) keys

namespace Record

variable {α : Type}

def keys (record : Record α) : List String :=
  record.fields.map (·.key)

/-- What the record is after the keys seen so far: it starts as the record does and depends on
nothing but which fields are among them. -/
structure IsOverlay (record : Record α) (target : List String → α) : Prop where
  start : target [] = record.start
  depends : ∀ first second, (∀ key ∈ record.keys, key ∈ first ↔ key ∈ second) →
    target first = target second

/-- A field that the entry names is read and takes the target on; a key that names no field may
stand before any value. -/
def Suits (record : Record α) (depth : Nat) (target : List String → α)
    (entry : String × List Char) : Prop :=
  match record.fields.find? (·.key == entry.1) with
  | some field => ∀ seen, ∃ change, change (target seen) = target (entry.1 :: seen) ∧
      ∀ ahead rest, AreBlanks ahead → Breaks rest →
        field.read depth (ahead ++ (entry.2 ++ rest)) = .ok (change, rest)
  | none => Fits .value entry.2

def draftOf (record : Record α) (target : List String → α) (seen : List String) : Draft α :=
  ⟨target seen, seen.filter record.keys.contains⟩

variable {record : Record α} {depth : Nat} {target : List String → α}

theorem suits_of_field {β : Type} {decoder : Decoder β} {put : β → α → α} {key : String}
    {required : Bool} {value : β} {text : List Char}
    (found : record.fields.find? (·.key == key) = some (.of key required decoder put))
    (finds : decoder.Finds depth value text)
    (covers : ∀ seen, put value (target seen) = target (key :: seen)) :
    record.Suits depth target (key, text) := by
  unfold Suits
  rw [found]
  refine fun seen => ⟨put value, covers seen, fun ahead rest areBlanks breaks => ?_⟩
  exact bind_eq_ok.mpr ⟨_, finds ahead rest areBlanks breaks, rfl⟩

theorem find?_eq_none_iff {key : String} :
    record.fields.find? (·.key == key) = none ↔ key ∉ record.keys := by
  simp [keys]

theorem suits_of_other {key : String} {text : List Char} (other : key ∉ record.keys)
    (fits : Fits .value text) : record.Suits depth target (key, text) := by
  unfold Suits
  rw [find?_eq_none_iff.mpr other]
  exact fits

theorem IsOverlay.eq_of_other (isOverlay : record.IsOverlay target) {key : String}
    (other : key ∉ record.keys) (seen : List String) : target (key :: seen) = target seen := by
  refine isOverlay.depends _ _ fun known member => ?_
  have differs : known ≠ key := fun same => other (same ▸ member)
  simp [differs]

/-- The values of members that name no field are skipped. -/
abbrev skipOther (_ : String) (value : α) (text : List Char) : Except Fault (α × List Char) := do
  .ok (value, ← skipValue text)

theorem readsEntry_of_suits (isOverlay : record.IsOverlay target)
    {entry : String × List Char} (suits : record.Suits depth target entry) {seen : List String}
    (fresh : entry.1 ∈ record.keys → entry.1 ∉ seen) :
    ReadsEntry (record.readMember skipOther depth) (record.draftOf target seen) entry
      (record.draftOf target (entry.1 :: seen)) := by
  intro behind before rest areBehind areBefore breaks
  have colon := expectColon_append areBehind (before ++ (entry.2 ++ rest))
  unfold Suits at suits
  unfold readMember
  cases found : record.fields.find? (·.key == entry.1) with
  | none =>
      have other := find?_eq_none_iff.mp found
      simp only [found] at suits
      have skip := skipValue_of_fits areBefore suits breaks
      simp [colon, skipOther, skip, draftOf, isOverlay.eq_of_other other, other, Bind.bind,
        Except.bind]
  | some field =>
      have known : entry.1 ∈ record.keys := by
        by_contra other
        rw [find?_eq_none_iff.mpr other] at found
        cases found
      simp only [found] at suits
      obtain ⟨change, covers, read⟩ := suits seen
      simp [colon, draftOf, fresh known, known, read before rest areBefore breaks, covers,
        Bind.bind, Except.bind]

theorem readsEntries_of_suits (isOverlay : record.IsOverlay target)
    {entries : List (String × List Char)}
    (suits : ∀ entry ∈ entries, record.Suits depth target entry) (seen : List String)
    (once : ∀ key ∈ record.keys, (seen ++ entries.map Prod.fst).count key ≤ 1) :
    ReadsEntries (record.readMember skipOther depth) (record.draftOf target seen) entries
      (record.draftOf target ((entries.map Prod.fst).reverse ++ seen)) := by
  -- The keys seen and those to come name each field at most once between them.
  induction entries generalizing seen with
  | nil => exact .nil _
  | cons entry rest inductionHypothesis =>
      obtain ⟨suitsEntry, suitsRest⟩ := List.forall_mem_cons.mp suits
      have fresh : entry.1 ∈ record.keys → entry.1 ∉ seen := by
        intro known isSeen
        have atMost := once entry.1 known
        have atLeast := List.count_pos_iff.mpr isSeen
        simp only [List.map_cons, List.count_append, List.count_cons_self] at atMost
        omega
      have onceRest : ∀ key ∈ record.keys,
          (entry.1 :: seen ++ rest.map Prod.fst).count key ≤ 1 := by
        intro key known
        have atMost := once key known
        simp only [List.map_cons, List.cons_append, List.count_append, List.count_cons]
          at atMost ⊢
        omega
      rw [List.map_cons, List.reverse_cons, List.append_assoc, List.singleton_append]
      exact .cons (readsEntry_of_suits isOverlay suitsEntry fresh)
        (inductionHypothesis suitsRest (entry.1 :: seen) onceRest)

/-- A record none of whose fields has to be given is found in every object whose members suit it. -/
theorem finds_of_suits {entries : List (String × List Char)} {text : List Char}
    (isOverlay : record.IsOverlay target)
    (optional : ∀ field ∈ record.fields, field.required = false)
    (suits : ∀ entry ∈ entries, record.Suits depth target entry)
    (once : GivesOnce record.keys entries) (writes : WritesObject entries text) :
    record.decoder.Finds (depth + 1) (target (entries.map Prod.fst)) text := by
  intro ahead rest areBlanks _
  obtain ⟨inside, shape, folded⟩ :=
    foldMembers_of_writesObject writes (readsEntries_of_suits isOverlay suits [] once) rest
  have complete : ∀ draft, record.isComplete draft = true := by
    intro draft
    simpa [isComplete] using fun field member => Or.inl (optional field member)
  have opens : skipBlanks ('\x7b' :: inside) = '\x7b' :: inside := rfl
  have order : target (entries.map Prod.fst) = target (entries.map Prod.fst).reverse :=
    isOverlay.depends _ _ fun key _ => List.mem_reverse.symm
  rw [List.append_nil, draftOf, isOverlay.start, List.filter_nil] at folded
  simp only [decoder, skipBlanks_append areBlanks, shape, opens]
  rw [readMembers, order]
  exact bind_eq_ok.mpr ⟨_, folded, if_pos (complete _)⟩

theorem parse_of_suits {entries : List (String × List Char)} {text : String}
    (isOverlay : record.IsOverlay target)
    (optional : ∀ field ∈ record.fields, field.required = false)
    (suits : ∀ entry ∈ entries, record.Suits 126 target entry)
    (once : GivesOnce record.keys entries) (holds : HoldsObject entries text) :
    record.decoder.parse text = .ok (target (entries.map Prod.fst)) := by
  obtain ⟨ahead, object, behind, areAhead, writes, areBehind, whole⟩ := holds
  have finds := finds_of_suits isOverlay optional suits once writes
  have breaks : Breaks (behind ++ []) := breaks_append areBehind trivial
  have ends : skipBlanks (behind ++ []) = [] := skipBlanks_append areBehind []
  rw [List.append_nil] at breaks ends
  rw [Decoder.parse, whole]
  exact bind_eq_ok.mpr ⟨_, finds ahead behind areAhead breaks, if_pos (by rw [ends]; rfl)⟩

end Record

end Parley.Json
