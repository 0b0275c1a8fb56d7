import Parley.Json.Printer
import Parley.Proofs.Json.Scalars
import Parley.Proofs.Json.Values

/-!
# Trees read back

The text of a value all of whose numbers are integers is read back as that very tree, whatever
order its members are in, if it may be nested so deeply. So no two such values have one text.
-/

namespace Parley.Json

/-! ## Where a value starts -/

/-- A value starts here: at a character that is no blank and closes no array. -/
def Opens : List Char → Prop
  | [] => False
  | character :: _ => isBlank character = false ∧ character ≠ ']'

theorem skipBlanks_of_opens {text : List Char} (opens : Opens text) : skipBlanks text = text := by
  cases text with
  | nil => exact opens.elim
  | cons character rest => simp [skipBlanks, opens.1]

theorem Opens.append {text : List Char} (opens : Opens text) (rest : List Char) :
    Opens (text ++ rest) := by
  cases text with
  | nil => exact opens.elim
  | cons character following => exact opens

theorem opens_of_isDigit {character : Char} (isDigit : character.isDigit = true)
    (rest : List Char) : Opens (character :: rest) := by
  constructor
  · rw [← Bool.not_eq_true]
    intro blank
    simp only [isBlank, Bool.or_eq_true, beq_iff_eq] at blank
    rcases blank with ((rfl | rfl) | rfl) | rfl <;> simp at isDigit
  · rintro rfl
    simp at isDigit

theorem opens_toDigits (value : Nat) : Opens (Nat.toDigits 10 value) := by
  cases digits : Nat.toDigits 10 value with
  | nil =>
      exact absurd digits Nat.toDigits_ne_nil
  | cons first rest =>
      have member : first ∈ Nat.toDigits 10 value := digits ▸ List.mem_cons_self
      exact opens_of_isDigit (Nat.isDigit_of_mem_toDigits (by decide) (by decide) member) rest

theorem opens_renderNumber {number : Number} (isInteger : number.IsInteger) :
    Opens (renderNumber number) := by
  cases number with
  | natural value => exact opens_toDigits value
  | negative magnitude => exact ⟨rfl, by decide⟩
  | binary value => exact isInteger.elim

theorem opens_renderValue {value : Json} (integral : value.EveryNumber Number.IsInteger) :
    Opens (renderValue value) := by
  cases value with
  | null =>
      simp only [renderValue]
      exact ⟨rfl, by decide⟩
  | bool value =>
      cases value <;> simp only [renderValue] <;> exact ⟨rfl, by decide⟩
  | number number =>
      simp only [renderValue, EveryNumber] at integral ⊢
      exact opens_renderNumber integral
  | string text =>
      simp only [renderValue]
      exact ⟨rfl, by decide⟩
  | array items =>
      cases items <;> simp only [renderValue] <;> exact ⟨rfl, by decide⟩
  | object members =>
      cases members <;> simp only [renderValue] <;> exact ⟨rfl, by decide⟩

/-! ## Arrays -/

section Folds

variable {σ : Type}

/-- The items of an array after its opening bracket. -/
def renderItems : List Json → List Char
  | [] => [']']
  | item :: rest => renderValue item ++ renderMoreItems rest

theorem renderValue_array (items : List Json) :
    renderValue (.array items) = '[' :: renderItems items := by
  cases items with
  | nil => simp only [renderValue, renderItems]
  | cons item rest => simp only [renderValue, renderItems]

theorem breaks_renderMoreItems (items : List Json) (rest : List Char) :
    Breaks (renderMoreItems items ++ rest) := by
  cases items with
  | nil => simp [renderMoreItems, Breaks]
  | cons item following => simp [renderMoreItems, Breaks]

theorem length_le_renderMoreItems (items : List Json) :
    items.length ≤ (renderMoreItems items).length := by
  induction items with
  | nil => simp
  | cons item rest inductionHypothesis =>
      simp only [renderMoreItems, List.length_cons, List.length_append]
      omega

variable (item : σ → List Char → Except Fault (σ × List Char))

theorem foldItems_of_opens {text : List Char} (opens : Opens text) (state : σ) :
    foldItems item state text =
      match item state text with
      | .ok (state, rest) => foldMoreItems item (rest.length + 1) state rest
      | .error fault => .error fault := by
  unfold foldItems
  rw [skipBlanks_of_opens opens]
  split
  · exact opens.elim
  · exact absurd rfl opens.2
  · rfl

theorem foldMoreItems_of_opens {text : List Char} (opens : Opens text) (fuel : Nat) (state : σ) :
    foldMoreItems item (fuel + 1) state (',' :: text) =
      match item state text with
      | .ok (state, rest) => foldMoreItems item fuel state rest
      | .error fault => .error fault := by
  rw [foldMoreItems, show skipBlanks (',' :: text) = ',' :: text from rfl]
  simp only [skipBlanks_of_opens opens]
  split
  · exact opens.elim
  · exact absurd rfl opens.2
  · rfl

/-- Items that are each read back are read back one after the other. -/
theorem foldMoreItems_render {α : Type} (encode : α → Json) (next : σ → α → σ) {items : List α}
    (opens : ∀ value ∈ items, Opens (renderValue (encode value)))
    (reads : ∀ value ∈ items, ∀ state rest, Breaks rest →
      item state (renderValue (encode value) ++ rest) = .ok (next state value, rest))
    (state : σ) (rest : List Char) {fuel : Nat} (enough : items.length < fuel) :
    foldMoreItems item fuel state (renderMoreItems (items.map encode) ++ rest) =
      .ok (items.foldl next state, rest) := by
  induction items generalizing state fuel with
  | nil =>
      obtain ⟨left, rfl⟩ : ∃ left, fuel = left + 1 := ⟨fuel - 1, by omega⟩
      rfl
  | cons value following inductionHypothesis =>
      obtain ⟨left, rfl⟩ : ∃ left, fuel = left + 1 := ⟨fuel - 1, by omega⟩
      obtain ⟨opensFirst, opensRest⟩ := List.forall_mem_cons.mp opens
      obtain ⟨readsFirst, readsRest⟩ := List.forall_mem_cons.mp reads
      rw [List.map_cons, renderMoreItems, List.cons_append, List.append_assoc,
        foldMoreItems_of_opens item (opensFirst.append _),
        readsFirst state _ (breaks_renderMoreItems _ rest)]
      exact inductionHypothesis opensRest readsRest (next state value)
        (Nat.lt_of_succ_lt_succ enough)

/-- The items of an array are read back up to its closing bracket. -/
theorem foldItems_render {α : Type} (encode : α → Json) (next : σ → α → σ) {items : List α}
    (opens : ∀ value ∈ items, Opens (renderValue (encode value)))
    (reads : ∀ value ∈ items, ∀ state rest, Breaks rest →
      item state (renderValue (encode value) ++ rest) = .ok (next state value, rest))
    (state : σ) (rest : List Char) :
    foldItems item state (renderItems (items.map encode) ++ rest) =
      .ok (items.foldl next state, rest) := by
  cases items with
  | nil =>
      rfl
  | cons value following =>
      obtain ⟨opensFirst, opensRest⟩ := List.forall_mem_cons.mp opens
      obtain ⟨readsFirst, readsRest⟩ := List.forall_mem_cons.mp reads
      have enough :
          following.length < (renderMoreItems (following.map encode) ++ rest).length + 1 := by
        have longer := length_le_renderMoreItems (following.map encode)
        simp only [List.length_append, List.length_map] at longer ⊢
        omega
      rw [List.map_cons, renderItems, List.append_assoc,
        foldItems_of_opens item (opensFirst.append _),
        readsFirst state _ (breaks_renderMoreItems _ rest)]
      exact foldMoreItems_render item encode next opensRest readsRest (next state value) rest enough

/-! ## Objects -/

/-- The members of an object after its opening brace. -/
def renderMembers : List (String × Json) → List Char
  | [] => ['\x7d']
  | (key, value) :: rest => renderText key ++ ':' :: (renderValue value ++ renderMoreMembers rest)

theorem renderValue_object (members : List (String × Json)) :
    renderValue (.object members) = '\x7b' :: renderMembers members := by
  cases members with
  | nil => simp only [renderValue, renderMembers]
  | cons member rest => simp only [renderValue, renderMembers]

theorem breaks_renderMoreMembers (members : List (String × Json)) (rest : List Char) :
    Breaks (renderMoreMembers members ++ rest) := by
  cases members with
  | nil => simp [renderMoreMembers, Breaks]
  | cons member following => simp [renderMoreMembers, Breaks]

theorem length_le_renderMoreMembers (members : List (String × Json)) :
    members.length ≤ (renderMoreMembers members).length := by
  induction members with
  | nil => simp
  | cons member rest inductionHypothesis =>
      simp only [renderMoreMembers, List.length_cons, List.length_append]
      omega

variable {member : σ → String → List Char → Except Fault (σ × List Char)}

/-- Each member is read back, from its colon on, in the state that those before it lead to. -/
inductive ReadsMembers (member : σ → String → List Char → Except Fault (σ × List Char)) :
    σ → List (String × Json) → σ → Prop
  | nil (state : σ) : ReadsMembers member state [] state
  | cons {state next last : σ} {key : String} {value : Json} {rest : List (String × Json)} :
      (∀ after, Breaks after →
        member state key (':' :: (renderValue value ++ after)) = .ok (next, after)) →
      ReadsMembers member next rest last →
      ReadsMembers member state ((key, value) :: rest) last

theorem readText_of_renderText (text : String) (rest : List Char) :
    ∃ following, renderText text ++ rest = '"' :: following ∧
      readText following = .ok (text, rest) := by
  refine ⟨text.toList.flatMap escape ++ '"' :: rest, ?_, readText_renderText text rest⟩
  rw [renderText, List.cons_append, List.append_assoc, List.singleton_append]

theorem foldMoreMembers_render {state last : σ} {members : List (String × Json)}
    (reads : ReadsMembers member state members last) (rest : List Char) {fuel : Nat}
    (enough : members.length < fuel) :
    foldMoreMembers member fuel state (renderMoreMembers members ++ rest) = .ok (last, rest) := by
  induction reads generalizing fuel with
  | nil state =>
      obtain ⟨left, rfl⟩ : ∃ left, fuel = left + 1 := ⟨fuel - 1, by omega⟩
      rfl
  | @cons state next last key value following readsFirst _ inductionHypothesis =>
      obtain ⟨left, rfl⟩ : ∃ left, fuel = left + 1 := ⟨fuel - 1, by omega⟩
      obtain ⟨text, shape, read⟩ := readText_of_renderText key
        (':' :: (renderValue value ++ (renderMoreMembers following ++ rest)))
      have more : renderMoreMembers ((key, value) :: following) ++ rest = ',' :: '"' :: text := by
        simp only [renderMoreMembers, List.cons_append, List.append_assoc, shape]
      rw [more, foldMoreMembers, show skipBlanks (',' :: '"' :: text) = ',' :: '"' :: text from rfl]
      simp only [show skipBlanks ('"' :: text) = '"' :: text from rfl, read,
        readsFirst _ (breaks_renderMoreMembers following rest)]
      exact inductionHypothesis (Nat.lt_of_succ_lt_succ enough)

/-- The members of an object are read back up to its closing brace. -/
theorem foldMembers_render {state last : σ} {members : List (String × Json)}
    (reads : ReadsMembers member state members last) (rest : List Char) :
    foldMembers member state (renderMembers members ++ rest) = .ok (last, rest) := by
  cases reads with
  | nil =>
      rfl
  | @cons _ next _ key value following readsFirst readsRest =>
      obtain ⟨text, shape, read⟩ := readText_of_renderText key
        (':' :: (renderValue value ++ (renderMoreMembers following ++ rest)))
      have whole : renderMembers ((key, value) :: following) ++ rest = '"' :: text := by
        simp only [renderMembers, List.cons_append, List.append_assoc, shape]
      have enough :
          following.length < (renderMoreMembers following ++ rest).length + 1 := by
        have longer := length_le_renderMoreMembers following
        simp only [List.length_append]
        omega
      rw [whole, foldMembers, show skipBlanks ('"' :: text) = '"' :: text from rfl]
      simp only [read, readsFirst _ (breaks_renderMoreMembers following rest)]
      exact foldMoreMembers_render readsRest rest enough

end Folds

/-! ## Where parts are written -/

theorem renderValue_infix_renderMoreItems {item : Json} {items : List Json}
    (inside : item ∈ items) : renderValue item <:+: renderMoreItems items := by
  induction items with
  | nil => exact absurd inside List.not_mem_nil
  | cons head rest inductionHypothesis =>
      rw [renderMoreItems]
      rcases List.mem_cons.mp inside with rfl | later
      · exact ⟨[','], renderMoreItems rest, by simp⟩
      · exact (inductionHypothesis later).trans ((List.suffix_append _ _).trans
          (List.suffix_cons _ _)).isInfix

/-- The text of an item is a piece of the text of its array. -/
theorem renderValue_infix_of_mem {item : Json} {items : List Json} (inside : item ∈ items) :
    renderValue item <:+: renderValue (.array items) := by
  cases items with
  | nil => exact absurd inside List.not_mem_nil
  | cons head rest =>
      rw [renderValue]
      rcases List.mem_cons.mp inside with rfl | later
      · exact ⟨['['], renderMoreItems rest, by simp⟩
      · exact (renderValue_infix_renderMoreItems later).trans ((List.suffix_append _ _).trans
          (List.suffix_cons _ _)).isInfix

theorem renderMember_infix_renderMoreMembers {member : String × Json}
    {members : List (String × Json)} (inside : member ∈ members) :
    renderText member.1 ++ ':' :: renderValue member.2 <:+: renderMoreMembers members := by
  induction members with
  | nil => exact absurd inside List.not_mem_nil
  | cons head rest inductionHypothesis =>
      rw [renderMoreMembers]
      rcases List.mem_cons.mp inside with rfl | later
      · exact ⟨[','], renderMoreMembers rest, by simp⟩
      · exact (inductionHypothesis later).trans ((List.suffix_append _ _).trans
          ((List.suffix_cons _ _).trans ((List.suffix_append _ _).trans
            (List.suffix_cons _ _)))).isInfix

/-- The text of a member is a piece of the text of its object. -/
theorem renderMember_infix_of_mem {member : String × Json} {members : List (String × Json)}
    (inside : member ∈ members) :
    renderText member.1 ++ ':' :: renderValue member.2 <:+: renderValue (.object members) := by
  cases members with
  | nil => exact absurd inside List.not_mem_nil
  | cons head rest =>
      rw [renderValue]
      rcases List.mem_cons.mp inside with rfl | later
      · exact ⟨['\x7b'], renderMoreMembers rest, by simp⟩
      · exact (renderMember_infix_renderMoreMembers later).trans ((List.suffix_append _ _).trans
          ((List.suffix_cons _ _).trans ((List.suffix_append _ _).trans
            (List.suffix_cons _ _)))).isInfix

/-! ## Whole trees -/

theorem readWith_of_isDigit {character : Char} (isDigit : character.isDigit = true)
    (nested : Option (List Char → Except Fault (Json × List Char))) (rest : List Char) :
    readWith nested (character :: rest) =
      (readUnsigned false (character :: rest)).bind fun (written, rest) =>
        .ok (.number written, rest) := by
  unfold readWith
  rw [skipBlanks_of_opens (opens_of_isDigit isDigit rest)]
  split
  case h_9 same =>
    obtain ⟨rfl, rfl⟩ := List.cons.inj same
    rw [if_pos isDigit]
    rfl
  all_goals
    next same =>
      cases same <;> simp at isDigit

theorem readWith_renderNumber {number : Number} (isInteger : number.IsInteger)
    (nested : Option (List Char → Except Fault (Json × List Char))) {rest : List Char}
    (breaks : Breaks rest) :
    readWith nested (renderNumber number ++ rest) = .ok (.number number, rest) := by
  cases number with
  | natural value =>
      have read := readUnsigned_natural isInteger breaks
      rw [renderNumber]
      cases digits : Nat.toDigits 10 value with
      | nil =>
          exact absurd digits Nat.toDigits_ne_nil
      | cons first following =>
          have member : first ∈ Nat.toDigits 10 value := digits ▸ List.mem_cons_self
          rw [digits, List.cons_append] at read
          rw [List.cons_append, readWith_of_isDigit
            (Nat.isDigit_of_mem_toDigits (by decide) (by decide) member), read]
          rfl
  | negative magnitude =>
      obtain ⟨positive, fits⟩ := isInteger
      have read := readUnsigned_negative positive fits breaks
      rw [renderNumber, List.cons_append, readWith,
        show ∀ text, skipBlanks ('-' :: text) = '-' :: text from fun _ => rfl]
      simp only [read]
      rfl
  | binary value =>
      exact isInteger.elim

theorem readWith_renderText
    (nested : Option (List Char → Except Fault (Json × List Char))) (text : String)
    (rest : List Char) :
    readWith nested (renderText text ++ rest) = .ok (.string text, rest) := by
  obtain ⟨following, shape, read⟩ := readText_of_renderText text rest
  rw [shape, readWith, show skipBlanks ('"' :: following) = '"' :: following from rfl]
  simp only [read]
  rfl

/-- Reads one more of the items of an array, which are collected last one first. -/
abbrev collectItem {α : Type} (read : List Char → Except Fault (α × List Char))
    (items : List α) (text : List Char) : Except Fault (List α × List Char) := do
  let (item, rest) ← read text
  .ok (item :: items, rest)

theorem collectItem_of_reads {α : Type} {read : List Char → Except Fault (α × List Char)}
    {text rest : List Char} {item : α} (reads : read text = .ok (item, rest)) (items : List α) :
    collectItem read items text = .ok (item :: items, rest) := by
  simp only [collectItem, reads, Bind.bind, Except.bind]

theorem readWith_renderItems {nested : List Char → Except Fault (Json × List Char)}
    {items : List Json} (opens : ∀ item ∈ items, Opens (renderValue item))
    (reads : ∀ item ∈ items, ∀ rest, Breaks rest →
      nested (renderValue item ++ rest) = .ok (item, rest))
    (rest : List Char) :
    readWith (some nested) ('[' :: renderItems items ++ rest) = .ok (.array items, rest) := by
  have folded := foldItems_render (collectItem nested) id (fun items item => item :: items) opens
    (fun item member state rest breaks =>
      collectItem_of_reads (reads item member rest breaks) state)
    [] rest
  rw [List.map_id, List.foldl_flip_cons_eq_append', List.append_nil] at folded
  rw [List.cons_append, readWith,
    show ∀ text, skipBlanks ('[' :: text) = '[' :: text from fun _ => rfl]
  simp only [folded]
  simp only [Bind.bind, Except.bind, List.reverse_reverse]

theorem readsMembers_collected {nested : List Char → Except Fault (Json × List Char)}
    {members : List (String × Json)}
    (reads : ∀ member ∈ members, ∀ rest, Breaks rest →
      nested (renderValue member.2 ++ rest) = .ok (member.2, rest))
    (collected : List (String × Json)) :
    ReadsMembers (fun members key text => do
        let (value, rest) ← nested (← expectColon text)
        .ok ((key, value) :: members, rest))
      collected members (members.reverse ++ collected) := by
  induction members generalizing collected with
  | nil =>
      exact .nil collected
  | cons member following inductionHypothesis =>
      obtain ⟨readsFirst, readsRest⟩ := List.forall_mem_cons.mp reads
      rw [List.reverse_cons, List.append_assoc, List.singleton_append]
      refine .cons ?_ (inductionHypothesis readsRest (member :: collected))
      intro rest breaks
      simp only [show ∀ text, expectColon (':' :: text) = .ok text from fun _ => rfl,
        readsFirst rest breaks, Bind.bind, Except.bind]

theorem readWith_renderMembers {nested : List Char → Except Fault (Json × List Char)}
    {members : List (String × Json)}
    (reads : ∀ member ∈ members, ∀ rest, Breaks rest →
      nested (renderValue member.2 ++ rest) = .ok (member.2, rest))
    (rest : List Char) :
    readWith (some nested) ('\x7b' :: renderMembers members ++ rest) =
      .ok (.object members, rest) := by
  have folded := foldMembers_render (readsMembers_collected reads []) rest
  rw [List.append_nil] at folded
  rw [List.cons_append, readWith,
    show ∀ text, skipBlanks ('\x7b' :: text) = '\x7b' :: text from fun _ => rfl]
  simp only [folded]
  simp only [Bind.bind, Except.bind, List.reverse_reverse]

/-- The text of a value is read back as that value, if all numbers in it are integers and it may
be nested so deeply. -/
theorem readValue_renderValue {value : Json} (integral : value.EveryNumber Number.IsInteger)
    {depth : Nat} (shallow : value.depth ≤ depth) {rest : List Char} (breaks : Breaks rest) :
    readValue depth (renderValue value ++ rest) = .ok (value, rest) := by
  induction value generalizing depth rest with
  | null =>
      cases depth <;> simp only [renderValue] <;> rfl
  | bool value =>
      cases depth <;> cases value <;> simp only [renderValue] <;> rfl
  | number number =>
      simp only [renderValue, EveryNumber] at integral ⊢
      cases depth <;> exact readWith_renderNumber integral _ breaks
  | string text =>
      simp only [renderValue]
      cases depth <;> exact readWith_renderText _ text rest
  | array items inductionHypothesis =>
      cases depth with
      | zero =>
          simp only [Json.depth] at shallow
          omega
      | succ depth =>
          rw [everyNumber_array] at integral
          rw [depth_array_le] at shallow
          rw [renderValue_array]
          exact readWith_renderItems (fun item member => opens_renderValue (integral item member))
            (fun item member rest breaks =>
              inductionHypothesis item member (integral item member) (shallow item member) breaks)
            rest
  | object members inductionHypothesis =>
      cases depth with
      | zero =>
          simp only [Json.depth] at shallow
          omega
      | succ depth =>
          rw [everyNumber_object] at integral
          rw [depth_object_le] at shallow
          rw [renderValue_object]
          exact readWith_renderMembers
            (fun member inside rest breaks =>
              inductionHypothesis member inside (integral member inside) (shallow member inside)
                breaks)
            rest

/-- The compact text of a value without fractions is read as the value. -/
theorem parseTree_render {value : Json} (integral : value.EveryNumber Number.IsInteger)
    {depth : Nat} (shallow : value.depth ≤ depth) : parseTree depth value.render = .ok value := by
  have read := readValue_renderValue integral shallow (show Breaks [] from trivial)
  rw [List.append_nil] at read
  rw [parseTree, render, String.toList_ofList, read]
  rfl

/-- Values without doubles that have one text are one value. -/
theorem renderValue_injective {value other : Json}
    (integral : value.EveryNumber Number.IsInteger)
    (otherIntegral : other.EveryNumber Number.IsInteger)
    (sameText : renderValue value = renderValue other) : value = other := by
  have read := readValue_renderValue integral (Nat.le_max_left value.depth other.depth)
    (show Breaks [] from trivial)
  have otherRead := readValue_renderValue otherIntegral
    (Nat.le_max_right value.depth other.depth) (show Breaks [] from trivial)
  rw [sameText, otherRead] at read
  simpa using read.symm

end Parley.Json
