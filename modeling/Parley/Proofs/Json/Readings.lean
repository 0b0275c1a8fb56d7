import Parley.Proofs.Json.Values
import Parley.Proofs.Number.Doubles

/-!
# What reading yields

Whatever a text is, the tree read from it holds no more characters than were taken from the text,
is nested no deeper than it may be, and every number in it is an integer that fits a word or a
double. The main statement is `yieldsTree_readValue`.
-/

namespace Parley.Json

/-- A step and what follows it succeed together. -/
theorem bind_eq_ok {α β : Type} {first : Except Fault α} {next : α → Except Fault β} {result : β} :
    (first >>= next) = .ok result ↔ ∃ value, first = .ok value ∧ next value = .ok result := by
  cases first with
  | error fault => simp [Bind.bind, Except.bind]
  | ok value => simp [Bind.bind, Except.bind]

theorem length_skipBlanks_le (text : List Char) : (skipBlanks text).length ≤ text.length :=
  (List.dropWhile_sublist isBlank).length_le

theorem length_expectWord_le {word text rest : List Char}
    (read : expectWord word text = .ok rest) : rest.length ≤ text.length := by
  induction word generalizing text with
  | nil =>
      cases read
      exact Nat.le_refl _
  | cons wanted following inductionHypothesis =>
      cases text with
      | nil => cases read
      | cons character text =>
          rw [expectWord] at read
          split at read
          · exact Nat.le_succ_of_le (inductionHypothesis read)
          · cases read

theorem length_expectColon_lt {text rest : List Char} (read : expectColon text = .ok rest) :
    rest.length < text.length := by
  have blanks := length_skipBlanks_le text
  unfold expectColon at read
  split at read
  · cases read
  next colon =>
    cases read
    rw [colon, List.length_cons] at blanks
    exact blanks
  · cases read

/-! ## Numbers -/

theorem gather_le {value : Nat} (fits : value ≤ greatestWord) (digits : List Char) :
    (gather value digits).value ≤ greatestWord := by
  induction digits generalizing value with
  | nil => exact fits
  | cons digit rest inductionHypothesis =>
      simp only [gather]
      split
      next next => exact inductionHypothesis next
      next => exact fits

theorem readable_binaryNumber {negative : Bool} {significand : Nat} {power : Int} {number : Number}
    (read : binaryNumber negative significand power = .ok number) : number.Readable := by
  unfold binaryNumber at read
  split at read
  next magnitude decimal =>
    cases read
    exact Magnitude.ofDecimal?_isDouble decimal
  · cases read

theorem length_le_of_spanDigits {text digits rest : List Char}
    (spans : spanDigits text = (digits, rest)) : rest.length ≤ text.length := by
  rw [← (Prod.mk.inj spans).2]
  exact (List.dropWhile_sublist Char.isDigit).length_le

/-- The outcome of reading a number: one that is readable, and no more text than before. -/
def YieldsNumber (text : List Char) (outcome : Except Fault (Number × List Char)) : Prop :=
  ∀ number rest, outcome = .ok (number, rest) → number.Readable ∧ rest.length ≤ text.length

theorem yieldsNumber_readExponent (negative : Bool) (significand : Nat) (power : Int)
    (text : List Char) : YieldsNumber text (readExponent negative significand power text) := by
  intro number rest read
  unfold readExponent at read
  split at read
  next down unsigned signed =>
    have shorter : unsigned.length ≤ text.length := by
      split at signed <;> cases signed <;> simp
    split at read
    · cases read
    · cases read
    next digits after _ _ spans =>
      have ended := length_le_of_spanDigits spans
      simp only at read
      split at read
      · split at read
        · cases read
          exact ⟨Magnitude.zero_isDouble, by omega⟩
        · cases read
      · obtain ⟨written, isNumber, same⟩ := bind_eq_ok.mp read
        cases same
        exact ⟨readable_binaryNumber isNumber, by omega⟩

theorem yieldsNumber_readScale (negative : Bool) (significand : Nat) (power : Int)
    (text : List Char) : YieldsNumber text (readScale negative significand power text) := by
  intro number rest read
  unfold readScale at read
  split at read
  · exact (yieldsNumber_readExponent _ _ _ _ number rest read).imp_right Nat.le_succ_of_le
  · exact (yieldsNumber_readExponent _ _ _ _ number rest read).imp_right Nat.le_succ_of_le
  · obtain ⟨written, isNumber, same⟩ := bind_eq_ok.mp read
    cases same
    exact ⟨readable_binaryNumber isNumber, Nat.le_refl _⟩

theorem yieldsNumber_readAfterInteger (negative : Bool) {integer : Significand}
    (fits : integer.value ≤ greatestWord) (text : List Char) :
    YieldsNumber text (readAfterInteger negative integer text) := by
  intro number rest read
  unfold readAfterInteger at read
  split at read
  next fraction =>
    split at read
    · cases read
    · cases read
    next spans =>
      have ended := length_le_of_spanDigits spans
      obtain ⟨readable, shorter⟩ := yieldsNumber_readScale _ _ _ _ number rest read
      exact ⟨readable, by rw [List.length_cons]; omega⟩
  · exact (yieldsNumber_readExponent _ _ _ _ number rest read).imp_right Nat.le_succ_of_le
  · exact (yieldsNumber_readExponent _ _ _ _ number rest read).imp_right Nat.le_succ_of_le
  · split at read
    · obtain ⟨written, isNumber, same⟩ := bind_eq_ok.mp read
      cases same
      exact ⟨readable_binaryNumber isNumber, Nat.le_refl _⟩
    · split at read
      · cases read
        exact ⟨fits, Nat.le_refl _⟩
      · split at read
        · obtain ⟨written, isNumber, same⟩ := bind_eq_ok.mp read
          cases same
          exact ⟨readable_binaryNumber isNumber, Nat.le_refl _⟩
        next inRange =>
          cases read
          exact ⟨by simp only [Number.Readable]; omega, Nat.le_refl _⟩

theorem yieldsNumber_readUnsigned (negative : Bool) (text : List Char) :
    YieldsNumber text (readUnsigned negative text) := by
  intro number rest read
  unfold readUnsigned at read
  split at read
  · cases read
  · cases read
  · cases read
  next spans =>
    have ended := length_le_of_spanDigits spans
    obtain ⟨readable, shorter⟩ :=
      yieldsNumber_readAfterInteger negative (gather_le (Nat.zero_le _) _) _ number rest read
    exact ⟨readable, by omega⟩

/-! ## Strings -/

theorem length_readHex_lt {text rest : List Char} {unit : Nat}
    (read : readHex text = .ok (unit, rest)) : rest.length < text.length := by
  unfold readHex at read
  split at read
  · split at read
    · cases read
      simp only [List.length_cons]
      omega
    · cases read
  · split at read <;> cases read

theorem length_readPair_lt {high : Nat} {text rest : List Char} {character : Char}
    (read : readPair high text = .ok (character, rest)) : rest.length < text.length := by
  unfold readPair at read
  split at read
  · cases read
  · cases read
  · obtain ⟨⟨low, after⟩, hex, paired⟩ := bind_eq_ok.mp read
    have shorter := length_readHex_lt hex
    simp only at paired
    split at paired
    · obtain ⟨_, rfl⟩ := Prod.mk.inj (Except.ok.inj paired)
      simp only [List.length_cons]
      omega
    · cases paired
  · cases read

theorem length_readEscape_lt {text rest : List Char} {character : Char}
    (read : readEscape text = .ok (character, rest)) : rest.length < text.length := by
  unfold readEscape at read
  split at read
  case h_10 =>
    obtain ⟨⟨unit, after⟩, hex, escaped⟩ := bind_eq_ok.mp read
    have shorter := length_readHex_lt hex
    simp only at escaped
    rw [List.length_cons]
    split at escaped
    · cases escaped
    · split at escaped
      · have pair := length_readPair_lt escaped
        omega
      · cases escaped
        omega
  all_goals cases read
  all_goals exact Nat.lt_succ_self _

theorem length_readCharacters_le {fuel : Nat} {read text characters rest : List Char}
    (reads : readCharacters fuel read text = .ok (characters, rest)) :
    characters.length + rest.length < read.length + text.length := by
  induction fuel generalizing read text with
  | zero => cases reads
  | succ fuel inductionHypothesis =>
      cases text with
      | nil => cases reads
      | cons character following =>
          rw [readCharacters] at reads
          split at reads
          · cases reads
            simp
          · split at reads
            · split at reads
              next escaped after escape =>
                have shorter := length_readEscape_lt escape
                have more := inductionHypothesis reads
                simp only [List.length_cons] at more ⊢
                omega
              · cases reads
            · split at reads
              · cases reads
              · have more := inductionHypothesis reads
                simp only [List.length_cons] at more ⊢
                omega

/-- A string has fewer characters than its text. -/
theorem length_readText_lt {text rest : List Char} {content : String}
    (read : readText text = .ok (content, rest)) :
    content.length + rest.length < text.length := by
  obtain ⟨⟨characters, after⟩, reads, same⟩ := bind_eq_ok.mp read
  cases same
  have shorter := length_readCharacters_le reads
  simpa using shorter

/-! ## Arrays and objects -/

section Folds

variable {σ : Type} (Kept : σ → List Char → Prop)

/-- What a list of items keeps if every item does, and if it does not depend on text that is left
behind. -/
theorem kept_skipBlanks
    (shrinks : ∀ state character text, Kept state (character :: text) → Kept state text)
    {state : σ} {text : List Char} (kept : Kept state text) : Kept state (skipBlanks text) := by
  induction text with
  | nil => exact kept
  | cons character rest inductionHypothesis =>
      rw [skipBlanks, List.dropWhile_cons]
      split
      · exact inductionHypothesis (shrinks _ _ _ kept)
      · exact kept

theorem kept_foldMoreItems {item : σ → List Char → Except Fault (σ × List Char)}
    (shrinks : ∀ state character text, Kept state (character :: text) → Kept state text)
    (keeps : ∀ state text next rest, Kept state text → item state text = .ok (next, rest) →
      Kept next rest)
    {fuel : Nat} {state last : σ} {text rest : List Char} (kept : Kept state text)
    (read : foldMoreItems item fuel state text = .ok (last, rest)) : Kept last rest := by
  induction fuel generalizing state text with
  | zero => cases read
  | succ fuel inductionHypothesis =>
      have started := kept_skipBlanks Kept shrinks kept
      rw [foldMoreItems] at read
      split at read
      · cases read
      next closes =>
        cases read
        exact shrinks _ _ _ (closes ▸ started)
      next after comma =>
        have following := kept_skipBlanks Kept shrinks (shrinks _ _ _ (comma ▸ started))
        split at read
        · cases read
        · cases read
        · split at read
          next next left isItem =>
            exact inductionHypothesis (keeps _ _ _ _ following isItem) read
          · cases read
      · cases read

theorem kept_foldItems {item : σ → List Char → Except Fault (σ × List Char)}
    (shrinks : ∀ state character text, Kept state (character :: text) → Kept state text)
    (keeps : ∀ state text next rest, Kept state text → item state text = .ok (next, rest) →
      Kept next rest)
    {state last : σ} {text rest : List Char} (kept : Kept state text)
    (read : foldItems item state text = .ok (last, rest)) : Kept last rest := by
  have started := kept_skipBlanks Kept shrinks kept
  unfold foldItems at read
  split at read
  · cases read
  next closes =>
    cases read
    exact shrinks _ _ _ (closes ▸ started)
  · split at read
    next next left isItem =>
      exact kept_foldMoreItems Kept shrinks keeps (keeps _ _ _ _ started isItem) read
    · cases read

variable {member : σ → String → List Char → Except Fault (σ × List Char)}

theorem kept_foldMoreMembers
    (shrinks : ∀ state character text, Kept state (character :: text) → Kept state text)
    (keeps : ∀ state text key following next rest, Kept state text →
      readText text = .ok (key, following) → member state key following = .ok (next, rest) →
      Kept next rest)
    {fuel : Nat} {state last : σ} {text rest : List Char} (kept : Kept state text)
    (read : foldMoreMembers member fuel state text = .ok (last, rest)) : Kept last rest := by
  induction fuel generalizing state text with
  | zero => cases read
  | succ fuel inductionHypothesis =>
      have started := kept_skipBlanks Kept shrinks kept
      rw [foldMoreMembers] at read
      split at read
      · cases read
      next closes =>
        cases read
        exact shrinks _ _ _ (closes ▸ started)
      next after comma =>
        have following := kept_skipBlanks Kept shrinks (shrinks _ _ _ (comma ▸ started))
        split at read
        · cases read
        next quoted quote =>
          split at read
          · cases read
          next key left isKey =>
            split at read
            next next after isMember =>
              exact inductionHypothesis
                (keeps _ _ _ _ _ _ (shrinks _ _ _ (quote ▸ following)) isKey isMember) read
            · cases read
        · cases read
      · cases read

theorem kept_foldMembers
    (shrinks : ∀ state character text, Kept state (character :: text) → Kept state text)
    (keeps : ∀ state text key following next rest, Kept state text →
      readText text = .ok (key, following) → member state key following = .ok (next, rest) →
      Kept next rest)
    {state last : σ} {text rest : List Char} (kept : Kept state text)
    (read : foldMembers member state text = .ok (last, rest)) : Kept last rest := by
  have started := kept_skipBlanks Kept shrinks kept
  unfold foldMembers at read
  split at read
  · cases read
  next closes =>
    cases read
    exact shrinks _ _ _ (closes ▸ started)
  next quoted quote =>
    split at read
    · cases read
    next key left isKey =>
      split at read
      next next after isMember =>
        exact kept_foldMoreMembers Kept shrinks keeps
          (keeps _ _ _ _ _ _ (shrinks _ _ _ (quote ▸ started)) isKey isMember) read
      · cases read
  · cases read

end Folds

/-! ## Whole trees -/

mutual

/-- How many characters the texts and keys inside have. -/
def weight : Json → Nat
  | .null => 0
  | .bool _ => 0
  | .number _ => 0
  | .string text => text.length
  | .array items => weightOfItems items
  | .object members => weightOfMembers members

def weightOfItems : List Json → Nat
  | [] => 0
  | item :: rest => item.weight + weightOfItems rest

def weightOfMembers : List (String × Json) → Nat
  | [] => 0
  | (key, value) :: rest => key.length + value.weight + weightOfMembers rest

end

theorem weightOfItems_eq_sum (items : List Json) :
    weightOfItems items = (items.map weight).sum := by
  induction items with
  | nil => simp [weightOfItems]
  | cons item rest inductionHypothesis => simp [weightOfItems, inductionHypothesis]

theorem weightOfMembers_eq_sum (members : List (String × Json)) :
    weightOfMembers members =
      (members.map fun member => member.1.length + member.2.weight).sum := by
  induction members with
  | nil => simp [weightOfMembers]
  | cons member rest inductionHypothesis => simp [weightOfMembers, inductionHypothesis]

/-- The outcome of reading a tree: one with readable numbers, nested no deeper than `depth`, whose
characters are taken from the text. -/
def YieldsTree (depth : Nat) (text : List Char) (outcome : Except Fault (Json × List Char)) :
    Prop :=
  ∀ tree rest, outcome = .ok (tree, rest) →
    tree.EveryNumber Number.Readable ∧ tree.depth ≤ depth ∧
      tree.weight + rest.length ≤ text.length

section Nested

variable {depth : Nat} {nested : List Char → Except Fault (Json × List Char)}

theorem yields_items (yields : ∀ text, YieldsTree depth text (nested text))
    {text rest : List Char} {items : List Json}
    (read : foldItems (fun items text => do
        let (item, rest) ← nested text
        .ok (item :: items, rest)) [] text = .ok (items, rest)) :
    (∀ item ∈ items, item.EveryNumber Number.Readable ∧ item.depth ≤ depth) ∧
      weightOfItems items + rest.length ≤ text.length := by
  refine kept_foldItems
    (fun items rest =>
      (∀ item ∈ items, item.EveryNumber Number.Readable ∧ item.depth ≤ depth) ∧
        weightOfItems items + rest.length ≤ text.length) ?_ ?_ ?_ read
  · rintro items character rest ⟨good, light⟩
    rw [List.length_cons] at light
    exact ⟨good, by omega⟩
  · rintro items before next after ⟨good, light⟩ isItem
    obtain ⟨⟨item, left⟩, once, same⟩ := bind_eq_ok.mp isItem
    cases same
    obtain ⟨readable, shallow, itemLight⟩ := yields before item _ once
    exact ⟨List.forall_mem_cons.mpr ⟨⟨readable, shallow⟩, good⟩, by rw [weightOfItems]; omega⟩
  · simp [weightOfItems]

theorem yields_members (yields : ∀ text, YieldsTree depth text (nested text))
    {text rest : List Char} {members : List (String × Json)}
    (read : foldMembers (fun members key text => do
        let (value, rest) ← nested (← expectColon text)
        .ok ((key, value) :: members, rest)) [] text = .ok (members, rest)) :
    (∀ member ∈ members,
        member.2.EveryNumber Number.Readable ∧ member.2.depth ≤ depth) ∧
      weightOfMembers members + rest.length ≤ text.length := by
  refine kept_foldMembers
    (fun members rest =>
      (∀ member ∈ members,
          member.2.EveryNumber Number.Readable ∧ member.2.depth ≤ depth) ∧
        weightOfMembers members + rest.length ≤ text.length) ?_ ?_ ?_ read
  · rintro members character rest ⟨good, light⟩
    rw [List.length_cons] at light
    exact ⟨good, by omega⟩
  · rintro members before key following next after ⟨good, light⟩ isKey isMember
    obtain ⟨colon, isColon, isMember⟩ := bind_eq_ok.mp isMember
    obtain ⟨⟨value, left⟩, once, same⟩ := bind_eq_ok.mp isMember
    cases same
    have keyLight := length_readText_lt isKey
    have colonLight := length_expectColon_lt isColon
    obtain ⟨readable, shallow, valueLight⟩ := yields colon value _ once
    exact ⟨List.forall_mem_cons.mpr ⟨⟨readable, shallow⟩, good⟩,
      by rw [weightOfMembers]; omega⟩
  · simp [weightOfMembers]

end Nested

/-- A flat value is nested no deeper than any bound. -/
theorem yieldsTree_of_simple {depth : Nat} {text rest : List Char} {tree : Json}
    (readable : tree.EveryNumber Number.Readable) (flat : tree.depth = 0)
    (light : tree.weight + rest.length ≤ text.length) :
    tree.EveryNumber Number.Readable ∧ tree.depth ≤ depth ∧
      tree.weight + rest.length ≤ text.length :=
  ⟨readable, flat ▸ Nat.zero_le depth, light⟩

theorem yieldsTree_readWith {depth : Nat}
    {nested : Option (List Char → Except Fault (Json × List Char))}
    (yields : ∀ read ∈ nested, ∃ inner, depth = inner + 1 ∧
      ∀ text, YieldsTree inner text (read text)) (text : List Char) :
    YieldsTree depth text (readWith nested text) := by
  intro tree rest read
  have blanks := length_skipBlanks_le text
  unfold readWith at read
  split at read
  · cases read
  next starts =>
    obtain ⟨after, word, same⟩ := bind_eq_ok.mp read
    cases same
    have ended := length_expectWord_le word
    rw [starts, List.length_cons] at blanks
    exact yieldsTree_of_simple trivial rfl (by rw [weight]; omega)
  next starts =>
    obtain ⟨after, word, same⟩ := bind_eq_ok.mp read
    cases same
    have ended := length_expectWord_le word
    rw [starts, List.length_cons] at blanks
    exact yieldsTree_of_simple trivial rfl (by rw [weight]; omega)
  next starts =>
    obtain ⟨after, word, same⟩ := bind_eq_ok.mp read
    cases same
    have ended := length_expectWord_le word
    rw [starts, List.length_cons] at blanks
    exact yieldsTree_of_simple trivial rfl (by rw [weight]; omega)
  next starts =>
    obtain ⟨⟨number, after⟩, isNumber, same⟩ := bind_eq_ok.mp read
    cases same
    obtain ⟨readable, ended⟩ := yieldsNumber_readUnsigned _ _ number _ isNumber
    rw [starts, List.length_cons] at blanks
    exact yieldsTree_of_simple (by rw [EveryNumber]; exact readable) rfl (by rw [weight]; omega)
  next starts =>
    obtain ⟨⟨content, after⟩, isText, same⟩ := bind_eq_ok.mp read
    cases same
    have ended := length_readText_lt isText
    rw [starts, List.length_cons] at blanks
    exact yieldsTree_of_simple trivial rfl (by rw [weight]; omega)
  next starts =>
    split at read
    · cases read
    next nested =>
      obtain ⟨inner, rfl, yieldsInner⟩ := yields nested rfl
      obtain ⟨⟨items, after⟩, areItems, same⟩ := bind_eq_ok.mp read
      cases same
      obtain ⟨good, light⟩ := yields_items yieldsInner areItems
      rw [starts, List.length_cons] at blanks
      rw [weightOfItems_eq_sum] at light
      refine ⟨everyNumber_array.mpr ?_, depth_array_le.mpr ?_, ?_⟩
      · exact fun item member => (good item (List.mem_reverse.mp member)).1
      · exact fun item member => (good item (List.mem_reverse.mp member)).2
      · rw [weight, weightOfItems_eq_sum, List.map_reverse, List.sum_reverse]
        omega
  next starts =>
    split at read
    · cases read
    next nested =>
      obtain ⟨inner, rfl, yieldsInner⟩ := yields nested rfl
      obtain ⟨⟨members, after⟩, areMembers, same⟩ := bind_eq_ok.mp read
      cases same
      obtain ⟨good, light⟩ := yields_members yieldsInner areMembers
      rw [starts, List.length_cons] at blanks
      rw [weightOfMembers_eq_sum] at light
      refine ⟨everyNumber_object.mpr ?_, depth_object_le.mpr ?_, ?_⟩
      · exact fun member inside => (good member (List.mem_reverse.mp inside)).1
      · exact fun member inside => (good member (List.mem_reverse.mp inside)).2
      · rw [weight, weightOfMembers_eq_sum, List.map_reverse, List.sum_reverse]
        omega
  next starts =>
    split at read
    · obtain ⟨⟨number, after⟩, isNumber, same⟩ := bind_eq_ok.mp read
      cases same
      obtain ⟨readable, ended⟩ := yieldsNumber_readUnsigned _ _ number _ isNumber
      rw [starts] at blanks
      exact yieldsTree_of_simple (by rw [EveryNumber]; exact readable) rfl (by rw [weight]; omega)
    · cases read

theorem yieldsTree_readValue (depth : Nat) (text : List Char) :
    YieldsTree depth text (readValue depth text) := by
  induction depth generalizing text with
  | zero =>
      exact yieldsTree_readWith (fun read isNone => by cases isNone) text
  | succ depth inductionHypothesis =>
      refine yieldsTree_readWith (fun read isNested => ?_) text
      cases isNested
      exact ⟨depth, rfl, inductionHypothesis⟩

/-- A whole text is read if nothing but blanks is left. -/
theorem complete_eq_ok {α : Type} {reading : Except Fault (α × List Char)} {value : α} :
    complete reading = .ok value ↔
      ∃ rest, reading = .ok (value, rest) ∧ (skipBlanks rest).isEmpty = true := by
  constructor
  · intro read
    obtain ⟨⟨found, rest⟩, isFound, ends⟩ := bind_eq_ok.mp read
    simp only at ends
    split at ends
    next blank =>
      cases ends
      exact ⟨rest, isFound, blank⟩
    · cases ends
  · rintro ⟨rest, rfl, blank⟩
    exact bind_eq_ok.mpr ⟨(value, rest), rfl, if_pos blank⟩

/-- The tree of a whole text. -/
theorem yields_parseTree {depth : Nat} {text : String} {tree : Json}
    (read : parseTree depth text = .ok tree) :
    tree.EveryNumber Number.Readable ∧ tree.depth ≤ depth ∧ tree.weight ≤ text.length := by
  obtain ⟨rest, isTree, -⟩ := complete_eq_ok.mp read
  obtain ⟨readable, shallow, light⟩ := yieldsTree_readValue depth text.toList tree rest isTree
  rw [String.length_toList] at light
  exact ⟨readable, shallow, by omega⟩

end Parley.Json
