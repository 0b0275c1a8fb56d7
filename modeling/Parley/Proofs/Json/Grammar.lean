import Parley.Proofs.Json.Lockstep
import Parley.Proofs.Json.Settling
import Parley.Proofs.Json.Trees

/-!
# Where values stand

Once a tree is read from a text, it is known where every item and every member stands in that text.
Other readings of the same text go along these places: a reading that makes something of every item
or member makes of the whole array or object what its steps make of the trees.
-/

namespace Parley.Json

/-- The text goes on, and not with the end of an array. -/
structure StartsItem (text : List Char) : Prop where
  notEmpty : text ≠ []
  notClosing : ∀ rest, text ≠ ']' :: rest

theorem StartsItem.exists_cons {text : List Char} (starts : StartsItem text) :
    ∃ character rest, text = character :: rest ∧ character ≠ ']' := by
  obtain ⟨character, rest, rfl⟩ := List.exists_cons_of_ne_nil starts.notEmpty
  exact ⟨character, rest, rfl, fun same => starts.notClosing rest (same ▸ rfl)⟩

/-! ## Places -/

section Places

variable (depth : Nat)

/-- Further items of an array stand in a text, up to its closing bracket. -/
inductive MoreItems : List Char → List Json → List Char → Prop where
  | closes {text rest : List Char} (closing : skipBlanks text = ']' :: rest) :
      MoreItems text [] rest
  | item {text behind left rest : List Char} {item : Json} {items : List Json}
      (comma : skipBlanks text = ',' :: behind) (starts : StartsItem (skipBlanks behind))
      (isItem : readValue depth (skipBlanks behind) = .ok (item, left))
      (more : MoreItems left items rest) : MoreItems text (item :: items) rest

/-- The items of an array stand in a text after the opening bracket. -/
inductive Items : List Char → List Json → List Char → Prop where
  | closes {text rest : List Char} (closing : skipBlanks text = ']' :: rest) : Items text [] rest
  | item {text left rest : List Char} {item : Json} {items : List Json}
      (starts : StartsItem (skipBlanks text))
      (isItem : readValue depth (skipBlanks text) = .ok (item, left))
      (more : MoreItems depth left items rest) : Items text (item :: items) rest

/-- A member stands in a text from after the opening quote of its key on. -/
def Member (text : List Char) (member : String × Json) (rest : List Char) : Prop :=
  ∃ after opened, readText text = .ok (member.1, after) ∧ expectColon after = .ok opened ∧
    readValue depth opened = .ok (member.2, rest)

/-- Further members of an object stand in a text, up to its closing brace. -/
inductive MoreMembers : List Char → List (String × Json) → List Char → Prop where
  | closes {text rest : List Char} (closing : skipBlanks text = '\x7d' :: rest) :
      MoreMembers text [] rest
  | member {text behind quoted left rest : List Char} {member : String × Json}
      {members : List (String × Json)} (comma : skipBlanks text = ',' :: behind)
      (quote : skipBlanks behind = '"' :: quoted) (isMember : Member depth quoted member left)
      (more : MoreMembers left members rest) : MoreMembers text (member :: members) rest

/-- The members of an object stand in a text after the opening brace. -/
inductive Members : List Char → List (String × Json) → List Char → Prop where
  | closes {text rest : List Char} (closing : skipBlanks text = '\x7d' :: rest) :
      Members text [] rest
  | member {text quoted left rest : List Char} {member : String × Json}
      {members : List (String × Json)} (quote : skipBlanks text = '"' :: quoted)
      (isMember : Member depth quoted member left) (more : MoreMembers depth left members rest) :
      Members text (member :: members) rest

end Places

inductive Stands : Nat → List Char → Json → List Char → Prop where
  | null {depth : Nat} {text after rest : List Char} (starts : skipBlanks text = 'n' :: after)
      (word : expectWord ['u', 'l', 'l'] after = .ok rest) : Stands depth text .null rest
  | yes {depth : Nat} {text after rest : List Char} (starts : skipBlanks text = 't' :: after)
      (word : expectWord ['r', 'u', 'e'] after = .ok rest) : Stands depth text (.bool true) rest
  | no {depth : Nat} {text after rest : List Char} (starts : skipBlanks text = 'f' :: after)
      (word : expectWord ['a', 'l', 's', 'e'] after = .ok rest) :
      Stands depth text (.bool false) rest
  | signed {depth : Nat} {text after rest : List Char} {number : Number}
      (starts : skipBlanks text = '-' :: after)
      (isNumber : readUnsigned true after = .ok (number, rest)) :
      Stands depth text (.number number) rest
  | unsigned {depth : Nat} {text after rest : List Char} {character : Char} {number : Number}
      (starts : skipBlanks text = character :: after) (isDigit : character.isDigit = true)
      (isNumber : readUnsigned false (character :: after) = .ok (number, rest)) :
      Stands depth text (.number number) rest
  | string {depth : Nat} {text after rest : List Char} {content : String}
      (starts : skipBlanks text = '"' :: after) (isText : readText after = .ok (content, rest)) :
      Stands depth text (.string content) rest
  | array {depth : Nat} {text after rest : List Char} {items : List Json}
      (starts : skipBlanks text = '[' :: after) (areItems : Items depth after items rest) :
      Stands (depth + 1) text (.array items) rest
  | object {depth : Nat} {text after rest : List Char} {members : List (String × Json)}
      (starts : skipBlanks text = '\x7b' :: after)
      (areMembers : Members depth after members rest) :
      Stands (depth + 1) text (.object members) rest

/-! ## Where a tree that is read stands -/

section Reading

variable {depth : Nat}

theorem moreItems_of_foldMoreItems {fuel : Nat} {collected trees : List Json}
    {text rest : List Char}
    (read : foldMoreItems (collectItem (readValue depth)) fuel collected text =
      .ok (trees, rest)) :
    ∃ items, trees = items.reverse ++ collected ∧ MoreItems depth text items rest := by
  induction fuel generalizing collected text with
  | zero => cases read
  | succ fuel inductionHypothesis =>
      rw [foldMoreItems] at read
      split at read
      · cases read
      next closing =>
        cases read
        exact ⟨[], rfl, .closes closing⟩
      next behind comma =>
        split at read
        · cases read
        · cases read
        next notEmpty notClosing =>
          split at read
          next next left isItem =>
            obtain ⟨⟨item, after⟩, isTree, same⟩ := bind_eq_ok.mp isItem
            cases same
            obtain ⟨items, rfl, more⟩ := inductionHypothesis read
            exact ⟨item :: items, by simp,
              .item comma ⟨notEmpty, notClosing⟩ isTree more⟩
          · cases read
      · cases read

theorem items_of_foldItems {trees : List Json} {text rest : List Char}
    (read : foldItems (collectItem (readValue depth)) [] text = .ok (trees, rest)) :
    Items depth text trees.reverse rest := by
  unfold foldItems at read
  split at read
  · cases read
  next closing =>
    cases read
    exact .closes closing
  next notEmpty notClosing =>
    split at read
    next next left isItem =>
      obtain ⟨⟨item, after⟩, isTree, same⟩ := bind_eq_ok.mp isItem
      cases same
      obtain ⟨items, rfl, more⟩ := moreItems_of_foldMoreItems read
      rw [List.reverse_append, List.reverse_reverse]
      exact .item ⟨notEmpty, notClosing⟩ isTree more
    · cases read

/-- Reads one more of the members of an object, which are collected last one first. -/
abbrev collectMember (read : List Char → Except Fault (Json × List Char))
    (members : List (String × Json)) (key : String) (text : List Char) :
    Except Fault (List (String × Json) × List Char) := do
  let (value, rest) ← read (← expectColon text)
  .ok ((key, value) :: members, rest)

theorem moreMembers_of_foldMoreMembers {fuel : Nat} {collected trees : List (String × Json)}
    {text rest : List Char}
    (read : foldMoreMembers (collectMember (readValue depth)) fuel collected text =
      .ok (trees, rest)) :
    ∃ members, trees = members.reverse ++ collected ∧ MoreMembers depth text members rest := by
  induction fuel generalizing collected text with
  | zero => cases read
  | succ fuel inductionHypothesis =>
      rw [foldMoreMembers] at read
      split at read
      · cases read
      next closing =>
        cases read
        exact ⟨[], rfl, .closes closing⟩
      next behind comma =>
        split at read
        · cases read
        next quoted quote =>
          split at read
          · cases read
          next key after isKey =>
            split at read
            next next left isMember =>
              obtain ⟨opened, isColon, isValue⟩ := bind_eq_ok.mp isMember
              obtain ⟨⟨value, beyond⟩, isTree, same⟩ := bind_eq_ok.mp isValue
              cases same
              obtain ⟨members, rfl, more⟩ := inductionHypothesis read
              exact ⟨(key, value) :: members, by simp,
                .member comma quote ⟨after, opened, isKey, isColon, isTree⟩ more⟩
            · cases read
        · cases read
      · cases read

theorem members_of_foldMembers {trees : List (String × Json)} {text rest : List Char}
    (read : foldMembers (collectMember (readValue depth)) [] text = .ok (trees, rest)) :
    Members depth text trees.reverse rest := by
  unfold foldMembers at read
  split at read
  · cases read
  next closing =>
    cases read
    exact .closes closing
  next quoted quote =>
    split at read
    · cases read
    next key after isKey =>
      split at read
      next next left isMember =>
        obtain ⟨opened, isColon, isValue⟩ := bind_eq_ok.mp isMember
        obtain ⟨⟨value, beyond⟩, isTree, same⟩ := bind_eq_ok.mp isValue
        cases same
        obtain ⟨members, rfl, more⟩ := moreMembers_of_foldMoreMembers read
        rw [List.reverse_append, List.reverse_reverse]
        exact .member quote ⟨after, opened, isKey, isColon, isTree⟩ more
      · cases read
  · cases read

theorem stands_of_readValue {text rest : List Char} {tree : Json}
    (read : readValue depth text = .ok (tree, rest)) : Stands depth text tree rest := by
  obtain ⟨nested, isReading, deeper⟩ : ∃ nested, readValue depth = readWith nested ∧
      ∀ inside ∈ nested, ∃ inner, depth = inner + 1 ∧ inside = readValue inner := by
    cases depth with
    | zero => exact ⟨none, rfl, fun inside isNone => by cases isNone⟩
    | succ inner => exact ⟨some (readValue inner), rfl, fun inside same =>
        ⟨inner, rfl, (Option.some_inj.mp same).symm⟩⟩
  rw [isReading, readWith] at read
  split at read
  · cases read
  next starts =>
    obtain ⟨after, word, same⟩ := bind_eq_ok.mp read
    cases same
    exact .null starts word
  next starts =>
    obtain ⟨after, word, same⟩ := bind_eq_ok.mp read
    cases same
    exact .yes starts word
  next starts =>
    obtain ⟨after, word, same⟩ := bind_eq_ok.mp read
    cases same
    exact .no starts word
  next starts =>
    obtain ⟨⟨number, after⟩, isNumber, same⟩ := bind_eq_ok.mp read
    cases same
    exact .signed starts isNumber
  next starts =>
    obtain ⟨⟨content, after⟩, isText, same⟩ := bind_eq_ok.mp read
    cases same
    exact .string starts isText
  next starts =>
    split at read
    · cases read
    next inside =>
      obtain ⟨inner, rfl, rfl⟩ := deeper inside rfl
      obtain ⟨⟨trees, after⟩, areItems, same⟩ := bind_eq_ok.mp read
      cases same
      exact .array starts (items_of_foldItems areItems)
  next starts =>
    split at read
    · cases read
    next inside =>
      obtain ⟨inner, rfl, rfl⟩ := deeper inside rfl
      obtain ⟨⟨trees, after⟩, areMembers, same⟩ := bind_eq_ok.mp read
      cases same
      exact .object starts (members_of_foldMembers areMembers)
  next starts =>
    split at read
    next isDigit =>
      obtain ⟨⟨number, after⟩, isNumber, same⟩ := bind_eq_ok.mp read
      cases same
      exact .unsigned starts isDigit isNumber
    · cases read

/-! ## What places take -/

theorem length_readValue_le {text rest : List Char} {tree : Json}
    (read : readValue depth text = .ok (tree, rest)) : rest.length ≤ text.length := by
  obtain ⟨-, -, light⟩ := yieldsTree_readValue depth text tree rest read
  omega

theorem length_lt_of_skipBlanks {text rest : List Char} {character : Char}
    (starts : skipBlanks text = character :: rest) : rest.length < text.length := by
  have blanks := length_skipBlanks_le text
  rw [starts, List.length_cons] at blanks
  exact blanks

theorem MoreItems.length_lt {text rest : List Char} {items : List Json}
    (more : MoreItems depth text items rest) : items.length + rest.length < text.length := by
  induction more with
  | closes closing =>
      rw [List.length_nil, Nat.zero_add]
      exact length_lt_of_skipBlanks closing
  | @item text behind left rest item items comma starts isItem more inductionHypothesis =>
      have taken := length_lt_of_skipBlanks comma
      have blanks := length_skipBlanks_le behind
      have itemTaken := length_readValue_le isItem
      rw [List.length_cons]
      omega

theorem Member.length_lt {text rest : List Char} {member : String × Json}
    (stands : Member depth text member rest) : rest.length < text.length := by
  obtain ⟨after, opened, isKey, isColon, isValue⟩ := stands
  have keyTaken := length_readText_lt isKey
  have colonTaken := length_expectColon_lt isColon
  have valueTaken := length_readValue_le isValue
  omega

theorem MoreMembers.length_lt {text rest : List Char} {members : List (String × Json)}
    (more : MoreMembers depth text members rest) :
    members.length + rest.length < text.length := by
  induction more with
  | closes closing =>
      rw [List.length_nil, Nat.zero_add]
      exact length_lt_of_skipBlanks closing
  | member comma quote isMember more inductionHypothesis =>
      have taken := length_lt_of_skipBlanks comma
      have quoteTaken := length_lt_of_skipBlanks quote
      have memberTaken := isMember.length_lt
      rw [List.length_cons]
      omega

end Reading

/-! ## Other readings along the same places -/

/-- A reading that agrees with an option ends where it says, or fails if there is none. -/
theorem ok_or_error_of_toOption {α : Type} {outcome : Except Fault (α × List Char)}
    {found : Option α} {rest : List Char} (agrees : outcome.toOption = found.map (·, rest)) :
    (∃ value, outcome = .ok (value, rest) ∧ found = some value) ∨
      (∃ fault, outcome = .error fault ∧ found = none) := by
  cases outcome with
  | error fault =>
      exact Or.inr ⟨fault, rfl, Option.map_eq_none_iff.mp agrees.symm⟩
  | ok result =>
      obtain ⟨value, isFound, same⟩ := Option.map_eq_some_iff.mp agrees.symm
      cases same
      exact Or.inl ⟨value, rfl, isFound⟩

section Along

variable {σ : Type} {depth : Nat} {good : Json → Prop}

section OfItems

variable {item : σ → List Char → Except Fault (σ × List Char)} {step : σ → Json → Option σ}

theorem MoreItems.foldMoreItems_eq {text rest : List Char} {items : List Json}
    (more : MoreItems depth text items rest) (areGood : ∀ tree ∈ items, good tree)
    (agrees : ∀ state text tree rest, readValue depth text = .ok (tree, rest) → good tree →
      (item state text).toOption = (step state tree).map (·, rest))
    {fuel : Nat} (enough : items.length < fuel) (state : σ) :
    (foldMoreItems item fuel state text).toOption = (items.foldlM step state).map (·, rest) := by
  induction more generalizing fuel state with
  | closes closing =>
      obtain ⟨further, rfl⟩ : ∃ further, fuel = further + 1 := ⟨fuel - 1, by omega⟩
      rw [foldMoreItems, closing]
      rfl
  | @item text behind left rest tree items comma starts isItem more inductionHypothesis =>
      obtain ⟨further, rfl⟩ : ∃ further, fuel = further + 1 := ⟨fuel - 1, by omega⟩
      obtain ⟨goodFirst, goodRest⟩ := List.forall_mem_cons.mp areGood
      have once := ok_or_error_of_toOption (agrees state _ tree left isItem goodFirst)
      rw [foldMoreItems, List.foldlM_cons]
      simp only [comma]
      split
      next isEmpty => exact absurd isEmpty starts.notEmpty
      next isClosing => exact absurd isClosing (starts.notClosing _)
      · rcases once with ⟨next, isNext, isStep⟩ | ⟨fault, isFault, noStep⟩
        · rw [isStep]
          simp only [isNext]
          exact inductionHypothesis goodRest (Nat.lt_of_succ_lt_succ enough) next
        · rw [noStep]
          simp only [isFault]
          rfl

/-- What a reading makes of an array is what its steps make of the items. -/
theorem Items.foldItems_eq {text rest : List Char} {items : List Json}
    (are : Items depth text items rest) (areGood : ∀ tree ∈ items, good tree)
    (agrees : ∀ state text tree rest, readValue depth text = .ok (tree, rest) → good tree →
      (item state text).toOption = (step state tree).map (·, rest)) (state : σ) :
    (foldItems item state text).toOption = (items.foldlM step state).map (·, rest) := by
  cases are with
  | closes closing =>
      rw [foldItems, closing]
      rfl
  | item starts isItem more =>
      obtain ⟨goodFirst, goodRest⟩ := List.forall_mem_cons.mp areGood
      have once := ok_or_error_of_toOption (agrees state _ _ _ isItem goodFirst)
      have shorter := more.length_lt
      rw [List.foldlM_cons]
      unfold foldItems
      split
      next isEmpty => exact absurd isEmpty starts.notEmpty
      next isClosing => exact absurd isClosing (starts.notClosing _)
      · rcases once with ⟨next, isNext, isStep⟩ | ⟨fault, isFault, noStep⟩
        · rw [isStep]
          simp only [isNext]
          exact more.foldMoreItems_eq goodRest agrees (by omega) next
        · rw [noStep]
          simp only [isFault]
          rfl

end OfItems

/-- The reading makes of a member what the step makes of its key and tree. -/
def AgreesOnMembers {σ : Type} (depth : Nat) (good : Json → Prop)
    (member : σ → String → List Char → Except Fault (σ × List Char))
    (step : σ → String × Json → Option σ) : Prop :=
  ∀ state key text opened tree rest, expectColon text = .ok opened →
    readValue depth opened = .ok (tree, rest) → good tree →
    (member state key text).toOption = (step state (key, tree)).map (·, rest)

section OfMembers

variable {member : σ → String → List Char → Except Fault (σ × List Char)}
  {step : σ → String × Json → Option σ}

theorem MoreMembers.foldMoreMembers_eq {text rest : List Char} {members : List (String × Json)}
    (more : MoreMembers depth text members rest) (areGood : ∀ held ∈ members, good held.2)
    (agrees : AgreesOnMembers depth good member step) {fuel : Nat}
    (enough : members.length < fuel) (state : σ) :
    (foldMoreMembers member fuel state text).toOption =
      (members.foldlM step state).map (·, rest) := by
  induction more generalizing fuel state with
  | closes closing =>
      obtain ⟨further, rfl⟩ : ∃ further, fuel = further + 1 := ⟨fuel - 1, by omega⟩
      rw [foldMoreMembers, closing]
      rfl
  | @member text behind quoted left rest held members comma quote isMember more
      inductionHypothesis =>
      obtain ⟨further, rfl⟩ : ∃ further, fuel = further + 1 := ⟨fuel - 1, by omega⟩
      obtain ⟨goodFirst, goodRest⟩ := List.forall_mem_cons.mp areGood
      obtain ⟨after, opened, isKey, isColon, isTree⟩ := isMember
      rw [foldMoreMembers, List.foldlM_cons]
      simp only [comma, quote, isKey]
      rcases ok_or_error_of_toOption
          (agrees state held.1 after opened held.2 left isColon isTree goodFirst) with
        ⟨next, isNext, isStep⟩ | ⟨fault, isFault, noStep⟩
      · rw [isStep]
        simp only [isNext]
        exact inductionHypothesis goodRest (Nat.lt_of_succ_lt_succ enough) next
      · rw [noStep]
        simp only [isFault]
        rfl

/-- What a reading makes of an object is what its steps make of the members. -/
theorem Members.foldMembers_eq {text rest : List Char} {members : List (String × Json)}
    (are : Members depth text members rest) (areGood : ∀ held ∈ members, good held.2)
    (agrees : AgreesOnMembers depth good member step) (state : σ) :
    (foldMembers member state text).toOption = (members.foldlM step state).map (·, rest) := by
  cases are with
  | closes closing =>
      rw [foldMembers, closing]
      rfl
  | member quote isMember more =>
      obtain ⟨goodFirst, goodRest⟩ := List.forall_mem_cons.mp areGood
      obtain ⟨after, opened, isKey, isColon, isTree⟩ := isMember
      have shorter := more.length_lt
      rw [foldMembers, List.foldlM_cons]
      simp only [quote, isKey]
      rcases ok_or_error_of_toOption
          (agrees state _ after opened _ _ isColon isTree goodFirst) with
        ⟨next, isNext, isStep⟩ | ⟨fault, isFault, noStep⟩
      · rw [isStep]
        simp only [isNext]
        exact more.foldMoreMembers_eq goodRest agrees (by omega) next
      · rw [noStep]
        simp only [isFault]
        rfl

end OfMembers

end Along

end Parley.Json
