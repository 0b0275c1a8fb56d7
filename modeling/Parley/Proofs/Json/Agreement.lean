import Parley.Proofs.Json.Skip

/-!
# Texts and trees decoded alike

A decoder makes of a text what it makes of the tree that stands in it, if the tree repeats no key:
both fail, or both yield the same value.
-/

namespace Parley.Json

/-- No object inside has two members under one key. -/
def KeysDistinct : Json → Prop :=
  EveryObject fun members => (members.map Prod.fst).Nodup

/-- A reading of a text and one of its tree have the same outcome. -/
def AgreeOnTrees {α : Type} (read : Nat → List Char → Except Fault (α × List Char))
    (ofValue? : Json → Option α) : Prop :=
  ∀ depth text tree rest, readValue depth text = .ok (tree, rest) → tree.KeysDistinct →
    (read depth text).toOption = (ofValue? tree).map (·, rest)

theorem toOption_map {α β : Type} {outcome : Except Fault (α × List Char)} {found : Option α}
    {rest : List Char} (agrees : outcome.toOption = found.map (·, rest)) (change : α → β) :
    (do let (value, rest) ← outcome
        .ok (change value, rest) : Except Fault (β × List Char)).toOption =
      (found.map change).map (·, rest) := by
  rcases ok_or_error_of_toOption agrees with ⟨value, rfl, rfl⟩ | ⟨fault, rfl, rfl⟩
  · rfl
  · rfl

namespace Decoder

/-- The decoder makes of a text what it makes of its tree. -/
def Agrees {α : Type} (decoder : Decoder α) : Prop :=
  AgreeOnTrees decoder.read (decoder.ofValue? .refused)

/-! ## Simple values -/

/-- A text that starts with a digit starts with no other kind of character. -/
theorem cons_ne_of_isDigit {character other : Char} {text rest : List Char}
    (isDigit : character.isDigit = true) (noDigit : other.isDigit = false) :
    character :: text ≠ other :: rest := by
  intro same
  rw [(List.cons.inj same).1, noDigit] at isDigit
  cases isDigit

theorem agrees_text : text.Agrees := by
  intro depth text tree rest read _
  cases stands_of_readValue read with
  | string starts isText =>
      simp only [Decoder.text, starts, isText]
      rfl
  | unsigned starts isDigit isNumber =>
      simp only [Decoder.text, starts]
      split
      next quote => exact absurd quote (cons_ne_of_isDigit isDigit rfl)
      · rfl
  | null starts | yes starts | no starts | signed starts | array starts | object starts =>
      simp only [Decoder.text, starts]
      rfl

section Signed

variable {text rest : List Char} {number : Number}

theorem natural?_of_binaryNumber {negative : Bool} {significand : Nat} {power : Int}
    (isNumber : binaryNumber negative significand power = .ok number) :
    (Json.number number).natural? = none := by
  unfold binaryNumber at isNumber
  split at isNumber <;> cases isNumber
  rfl

theorem natural?_of_readExponent {negative : Bool} {significand : Nat} {power : Int}
    (read : readExponent negative significand power text = .ok (number, rest)) :
    (Json.number number).natural? = none := by
  unfold readExponent at read
  split at read
  split at read
  · cases read
  · cases read
  · simp only at read
    split at read
    · split at read <;> cases read
      rfl
    · obtain ⟨written, isNumber, same⟩ := bind_eq_ok.mp read
      cases same
      exact natural?_of_binaryNumber isNumber

theorem natural?_of_readScale {negative : Bool} {significand : Nat} {power : Int}
    (read : readScale negative significand power text = .ok (number, rest)) :
    (Json.number number).natural? = none := by
  unfold readScale at read
  split at read
  · exact natural?_of_readExponent read
  · exact natural?_of_readExponent read
  · obtain ⟨written, isNumber, same⟩ := bind_eq_ok.mp read
    cases same
    exact natural?_of_binaryNumber isNumber

/-- A number with a sign is no natural number, not even zero. -/
theorem natural?_of_signed (read : readUnsigned true text = .ok (number, rest)) :
    (Json.number number).natural? = none := by
  unfold readUnsigned at read
  split at read
  · cases read
  · cases read
  · cases read
  · unfold readAfterInteger at read
    split at read
    · split at read
      · cases read
      · cases read
      · exact natural?_of_readScale read
    · exact natural?_of_readExponent read
    · exact natural?_of_readExponent read
    · split at read
      · obtain ⟨written, isNumber, same⟩ := bind_eq_ok.mp read
        cases same
        exact natural?_of_binaryNumber isNumber
      · simp only [Bool.not_true, Bool.false_eq_true, if_false] at read
        split at read
        · obtain ⟨written, isNumber, same⟩ := bind_eq_ok.mp read
          cases same
          exact natural?_of_binaryNumber isNumber
        · cases read
          rfl

end Signed

theorem agrees_natural (greatest : Nat) : (natural greatest).Agrees := by
  intro depth text tree rest read _
  cases stands_of_readValue read with
  | @unsigned _ _ _ _ _ number starts isDigit isNumber =>
      simp only [natural, starts, isDigit, if_true, isNumber]
      cases number with
      | natural value =>
          by_cases fits : value ≤ greatest
          · simp [natural?, fits, Except.toOption]
          · simp [natural?, Option.filter, fits, Except.toOption]
      | negative magnitude => rfl
      | binary value => rfl
  | signed starts isNumber =>
      simp only [natural, starts, natural?_of_signed isNumber]
      rfl
  | null starts | yes starts | no starts | array starts | object starts | string starts =>
      simp only [natural, starts]
      rfl

variable {α : Type} {decoder : Decoder α}

theorem agrees_optional (agrees : decoder.Agrees) : decoder.optional.Agrees := by
  intro depth text tree rest read distinct
  have present : (∀ following, skipBlanks text ≠ 'n' :: following) → tree ≠ .null →
      (decoder.optional.read depth text).toOption =
        (decoder.optional.ofValue? .refused tree).map (·, rest) := by
    intro notNull isValue
    have inner := agrees depth (skipBlanks text) tree rest (readValue_skipBlanks depth text ▸ read)
      distinct
    simp only [optional]
    exact toOption_map inner some
  cases stands_of_readValue read with
  | null starts word =>
      simp only [optional, starts, word]
      rfl
  | unsigned starts isDigit isNumber =>
      refine present (fun following same => ?_) (by simp)
      rw [starts] at same
      exact absurd same (cons_ne_of_isDigit isDigit rfl)
  | yes starts | no starts | signed starts | array starts | object starts | string starts =>
      refine present (fun following same => ?_) (by simp)
      rw [starts] at same
      cases same

theorem foldlM_collect {β : Type} (read : Json → Option β) (items : List Json)
    (collected : List β) :
    items.foldlM (fun collected item => (read item).map (· :: collected)) collected =
      (items.mapM read).map (·.reverse ++ collected) := by
  induction items generalizing collected with
  | nil => rfl
  | cons item rest inductionHypothesis =>
      rw [List.foldlM_cons, List.mapM_cons]
      cases read item with
      | none => rfl
      | some value =>
          simp only [Option.map_some, Option.bind_eq_bind, Option.bind_some, inductionHypothesis]
          cases rest.mapM read with
          | none => rfl
          | some values => simp

theorem agrees_list (agrees : decoder.Agrees) : decoder.list.Agrees := by
  intro depth text tree rest read distinct
  cases stands_of_readValue read with
  | array starts areItems =>
      have folded := areItems.foldItems_eq (everyObject_array.mp distinct)
        (fun collected text tree rest isTree isDistinct =>
          toOption_map (agrees _ text tree rest isTree isDistinct) (· :: collected)) []
      have whole := toOption_map folded List.reverse
      rw [foldlM_collect] at whole
      simp only [Option.map_map, Function.comp_def, List.append_nil, List.reverse_reverse] at whole
      simp only [list, starts]
      exact whole
  | unsigned starts isDigit isNumber =>
      simp only [list, starts]
      split
      next opens => exact absurd opens (Decoder.cons_ne_of_isDigit isDigit rfl)
      next opens => exact absurd opens (cons_ne_of_isDigit isDigit rfl)
      · rfl
  | null starts | yes starts | no starts | signed starts | object starts | string starts =>
      simp only [list, starts]
      rfl

end Decoder

/-! ## Fields -/

namespace Field

variable {α β γ : Type}

/-- The field makes of a text what it makes of its tree. -/
def Agrees (field : Field α) : Prop :=
  AgreeOnTrees field.read (field.ofValue? .refused)

theorem agrees_of {decoder : Decoder β} (agrees : decoder.Agrees) (key : String) (required : Bool)
    (put : β → α → α) : (Field.of key required decoder put).Agrees :=
  fun depth text tree rest isTree distinct =>
    toOption_map (agrees depth text tree rest isTree distinct) put

/-- How a field changes a record if this is what is given for it, or nothing is. -/
def change? (field : Field α) (surplus : Surplus) : Option Json → Option (α → α)
  | some given => field.ofValue? surplus given
  | none => if field.required then none else some id

theorem change?_eq_some {field : Field α} {surplus : Surplus} {given : Option Json}
    {change : α → α} (isChange : field.change? surplus given = some change) :
    (∃ tree, field.ofValue? surplus tree = some change) ∨ change = id := by
  cases given with
  | some tree => exact Or.inl ⟨tree, isChange⟩
  | none =>
      rw [change?] at isChange
      split at isChange <;> cases isChange
      exact Or.inr rfl

/-- It does not matter which of two fields changes a record first. -/
def Commutes (field other : Field α) : Prop :=
  ∀ tree twin change otherChange, field.ofValue? .refused tree = some change →
    other.ofValue? .refused twin = some otherChange →
    ∀ value, change (otherChange value) = otherChange (change value)

theorem commutes_of {first : Decoder β} {second : Decoder γ} {put : β → α → α}
    {otherPut : γ → α → α} {key otherKey : String} {required otherRequired : Bool}
    (commute : ∀ held otherHeld value,
      put held (otherPut otherHeld value) = otherPut otherHeld (put held value)) :
    (Field.of key required first put).Commutes
      (Field.of otherKey otherRequired second otherPut) := by
  intro tree twin change otherChange isChange isOther value
  obtain ⟨held, -, rfl⟩ := Option.map_eq_some_iff.mp isChange
  obtain ⟨otherHeld, -, rfl⟩ := Option.map_eq_some_iff.mp isOther
  exact commute held otherHeld value

end Field

theorem lookup?_cons_self (key : String) (tree : Json) (members : List (String × Json)) :
    lookup? key ((key, tree) :: members) = some tree := by
  simp [lookup?]

theorem lookup?_cons_of_ne {key other : String} (different : other ≠ key) (tree : Json)
    (members : List (String × Json)) :
    lookup? key ((other, tree) :: members) = lookup? key members := by
  simp [lookup?, different]

/-! ## Records -/

namespace Record

variable {α : Type}

theorem ofMembers?_eq (surplus : Surplus) (members : List (String × Json)) (field : Field α)
    (fields : List (Field α)) (value : α) :
    ofMembers? surplus members (field :: fields) value =
      (field.change? surplus (lookup? field.key members)).bind fun change =>
        ofMembers? surplus members fields (change value) := by
  rw [ofMembers?]
  cases lookup? field.key members with
  | none =>
      simp only [Field.change?]
      split <;> rfl
  | some given =>
      simp only [Field.change?]
      cases field.ofValue? surplus given <;> rfl

theorem ofMembers?_congr {surplus : Surplus} {fields : List (Field α)}
    {members others : List (String × Json)}
    (same : ∀ field ∈ fields, lookup? field.key members = lookup? field.key others) (value : α) :
    ofMembers? surplus members fields value = ofMembers? surplus others fields value := by
  induction fields generalizing value with
  | nil => rfl
  | cons field rest inductionHypothesis =>
      obtain ⟨sameFirst, sameRest⟩ := List.forall_mem_cons.mp same
      rw [ofMembers?_eq, ofMembers?_eq, sameFirst]
      exact Option.bind_congr fun change _ => inductionHypothesis sameRest (change value)

/-- What commutes with all changes may be done after them. -/
theorem ofMembers?_map {surplus : Surplus} {fields : List (Field α)} {finish : α → α}
    (commute : ∀ field ∈ fields, ∀ tree change, field.ofValue? surplus tree = some change →
      ∀ value, change (finish value) = finish (change value))
    (members : List (String × Json)) (value : α) :
    ofMembers? surplus members fields (finish value) =
      (ofMembers? surplus members fields value).map finish := by
  induction fields generalizing value with
  | nil => rfl
  | cons field rest inductionHypothesis =>
      obtain ⟨commuteFirst, commuteRest⟩ := List.forall_mem_cons.mp commute
      rw [ofMembers?_eq, ofMembers?_eq, Option.map_bind]
      refine Option.bind_congr fun change isChange => ?_
      have swapped : change (finish value) = finish (change value) := by
        rcases Field.change?_eq_some isChange with ⟨tree, isTree⟩ | rfl
        · exact commuteFirst tree change isTree value
        · rfl
      rw [swapped, inductionHypothesis commuteRest]
      rfl

/-- The change of the first member may be made before all others. -/
theorem ofMembers?_cons {fields : List (Field α)} {field : Field α} (inside : field ∈ fields)
    (keys : (fields.map Field.key).Nodup) (commute : fields.Pairwise Field.Commutes) (tree : Json)
    (members : List (String × Json)) (value : α) :
    ofMembers? .refused ((field.key, tree) :: members) fields value =
      (field.ofValue? .refused tree).bind fun change =>
        ofMembers? .refused members (fields.filter (·.key != field.key)) (change value) := by
  induction fields generalizing value with
  | nil => exact absurd inside List.not_mem_nil
  | cons head rest inductionHypothesis =>
      rw [List.map_cons, List.nodup_cons] at keys
      obtain ⟨headCommutes, restCommute⟩ := List.pairwise_cons.mp commute
      rw [ofMembers?_eq]
      rcases List.mem_cons.mp inside with rfl | later
      · have apart : ∀ other ∈ rest, field.key ≠ other.key := fun other isOther same =>
          keys.1 (same ▸ List.mem_map_of_mem isOther)
        have others : (field :: rest).filter (·.key != field.key) = rest := by
          rw [List.filter_cons_of_neg (by simp), List.filter_eq_self]
          intro other isOther
          simpa using (apart other isOther).symm
        rw [lookup?_cons_self, others]
        exact Option.bind_congr fun change _ => ofMembers?_congr
          (fun other isOther => lookup?_cons_of_ne (apart other isOther) tree members) _
      · have different : head.key ≠ field.key := fun same =>
          keys.1 (same ▸ List.mem_map_of_mem later)
        have kept : (head :: rest).filter (·.key != field.key) =
            head :: rest.filter (·.key != field.key) :=
          List.filter_cons_of_pos (by simpa using different)
        rw [lookup?_cons_of_ne different.symm, kept]
        simp only [inductionHypothesis later keys.2 restCommute, ofMembers?_eq]
        rw [Option.bind_comm]
        refine Option.bind_congr fun change isChange => Option.bind_congr fun other isOther => ?_
        rcases Field.change?_eq_some isOther with ⟨twin, isTwin⟩ | rfl
        · rw [headCommutes field later twin tree other change isTwin isChange]
        · rfl

/-- The fields of a record agree on trees, stand under keys of their own, and change it in any
order. -/
structure Agrees (record : Record α) : Prop where
  fields : ∀ field ∈ record.fields, field.Agrees
  keys : (record.fields.map Field.key).Nodup
  commute : record.fields.Pairwise Field.Commutes

/-! ### Objects -/

/-- Whatever is read at a member that names no field is noted, and no field minds. -/
structure Notes (record : Record α)
    (other : String → α → List Char → Except Fault (α × List Char)) (depth : Nat)
    (note : String × Json → α → α) : Prop where
  reads : ∀ key value text tree rest, readValue depth text = .ok (tree, rest) →
    other key value text = .ok (note (key, tree) value, rest)
  commute : ∀ field ∈ record.fields, ∀ tree change,
    field.ofValue? .refused tree = some change →
      ∀ member value, change (note member value) = note member (change value)

variable {record : Record α}
  {other : String → α → List Char → Except Fault (α × List Char)} {depth : Nat}
  {note : String × Json → α → α}

/-- What becomes of a record in the making at a member. -/
def takeMember (record : Record α) (note : String × Json → α → α) (draft : Draft α)
    (member : String × Json) : Option (Draft α) :=
  match record.fields.find? (·.key == member.1) with
  | some field =>
      if draft.given.contains member.1 then none
      else (field.ofValue? .refused member.2).map fun change =>
        ⟨change draft.value, member.1 :: draft.given⟩
  | none => some ⟨note member draft.value, draft.given⟩

theorem agreesOnMembers (agrees : record.Agrees) (notes : record.Notes other depth note) :
    AgreesOnMembers depth KeysDistinct (record.readMember other depth)
      (record.takeMember note) := by
  intro draft key text opened tree rest isColon isTree distinct
  rw [readMember, takeMember]
  cases found : record.fields.find? (·.key == key) with
  | some field =>
      have once := toOption_map (agrees.fields field (List.mem_of_find?_eq_some found) depth opened
        tree rest isTree distinct)
        fun change => (⟨change draft.value, key :: draft.given⟩ : Draft α)
      simp only [isColon]
      split
      · rfl
      · exact once
  | none =>
      simp only [isColon, notes.reads key draft.value opened tree rest isTree, Bind.bind,
        Except.bind]
      rfl

/-- The value with all members noted that name no field. -/
def noteMembers (record : Record α) (note : String × Json → α → α)
    (members : List (String × Json)) (value : α) : α :=
  (members.filter fun member => ! record.fields.any (·.key == member.1)).foldl
    (fun value member => note member value) value

theorem noteMembers_cons_of_field {member : String × Json} {field : Field α}
    (found : record.fields.find? (·.key == member.1) = some field)
    (members : List (String × Json)) (value : α) :
    record.noteMembers note (member :: members) value = record.noteMembers note members value := by
  have matched := List.find?_some found
  have named : record.fields.any (·.key == member.1) = true :=
    List.any_eq_true.mpr ⟨field, List.mem_of_find?_eq_some found, matched⟩
  rw [noteMembers, List.filter_cons_of_neg (by simp [named])]
  rfl

theorem noteMembers_cons_of_none {member : String × Json}
    (found : record.fields.find? (·.key == member.1) = none) (members : List (String × Json))
    (value : α) :
    record.noteMembers note (member :: members) value =
      record.noteMembers note members (note member value) := by
  have unnamed : record.fields.any (·.key == member.1) = false :=
    List.any_eq_false.mpr (List.find?_eq_none.mp found)
  rw [noteMembers, List.filter_cons_of_pos (by simp [unnamed]), List.foldl_cons]
  rfl

theorem change_noteMembers (notes : record.Notes other depth note) {field : Field α}
    (inside : field ∈ record.fields) {tree : Json} {change : α → α}
    (isChange : field.ofValue? .refused tree = some change) (members : List (String × Json))
    (value : α) :
    change (record.noteMembers note members value) =
      record.noteMembers note members (change value) := by
  rw [noteMembers, noteMembers]
  induction members.filter fun member => ! record.fields.any (·.key == member.1)
      generalizing value with
  | nil => rfl
  | cons member rest inductionHypothesis =>
      rw [List.foldl_cons, List.foldl_cons, inductionHypothesis,
        notes.commute field inside tree change isChange]

def pending (record : Record α) (given : List String) : List (Field α) :=
  record.fields.filter fun field => ! given.contains field.key

theorem pending_cons (record : Record α) (key : String) (given : List String) :
    record.pending (key :: given) = (record.pending given).filter (·.key != key) := by
  rw [pending, pending, List.filter_filter]
  refine List.filter_congr fun field _ => ?_
  rw [List.contains_cons, Bool.not_or]
  rfl

theorem ofMembers?_nil (surplus : Surplus) (fields : List (Field α)) (value : α) :
    ofMembers? surplus [] fields value =
      if fields.all (! ·.required) then some value else none := by
  induction fields with
  | nil => rfl
  | cons field rest inductionHypothesis =>
      rw [ofMembers?, inductionHypothesis, List.all_cons]
      cases field.required <;> rfl

/-- The members taken in the order in which they stand make the record that the fields make of
them in theirs. -/
theorem foldlM_takeMember (agrees : record.Agrees) (notes : record.Notes other depth note)
    {members : List (String × Json)} (distinct : (members.map Prod.fst).Nodup) (draft : Draft α)
    (fresh : ∀ member ∈ members, member.1 ∉ draft.given) :
    ((members.foldlM (record.takeMember note) draft).filter record.isComplete).map Draft.value =
      ofMembers? .refused members (record.pending draft.given)
        (record.noteMembers note members draft.value) := by
  -- What carries the induction is which fields still wait: a member that names one takes it away,
  -- and its change is moved in front of those of the fields that come before it.
  induction members generalizing draft with
  | nil =>
      have waiting : record.isComplete draft = (record.pending draft.given).all (! ·.required) := by
        rw [isComplete, pending, List.all_filter]
        refine congrArg _ (funext fun field => ?_)
        rw [Bool.not_not, Bool.or_comm]
      rw [ofMembers?_nil, ← waiting]
      cases complete : record.isComplete draft <;> simp [Option.filter, complete, noteMembers]
  | cons member rest inductionHypothesis =>
      obtain ⟨key, tree⟩ := member
      rw [List.map_cons, List.nodup_cons] at distinct
      obtain ⟨freshFirst, freshRest⟩ := List.forall_mem_cons.mp fresh
      rw [List.foldlM_cons, takeMember]
      cases found : record.fields.find? (·.key == key) with
      | some field =>
          have isField := List.mem_of_find?_eq_some found
          obtain rfl : field.key = key := by simpa using List.find?_some found
          have waits : field ∈ record.pending draft.given := by
            rw [pending, List.mem_filter]
            exact ⟨isField, by simpa using freshFirst⟩
          have notGiven : draft.given.contains field.key = false := by simpa using freshFirst
          have keys : ((record.pending draft.given).map Field.key).Nodup :=
            agrees.keys.sublist (List.filter_sublist.map Field.key)
          rw [ofMembers?_cons waits keys (agrees.commute.filter _), ← pending_cons,
            noteMembers_cons_of_field found]
          simp only [notGiven, Bool.false_eq_true, if_false]
          cases isChange : field.ofValue? .refused tree with
          | none => rfl
          | some change =>
              have later := inductionHypothesis distinct.2
                ⟨change draft.value, field.key :: draft.given⟩
                (fun later inside => List.not_mem_cons_of_ne_of_not_mem
                  (fun same => distinct.1 (List.mem_map.mpr ⟨later, inside, same⟩))
                  (freshRest later inside))
              rw [Option.bind_some, change_noteMembers notes isField isChange]
              exact later
      | none =>
          have later := inductionHypothesis distinct.2 ⟨note (key, tree) draft.value, draft.given⟩
            freshRest
          rw [noteMembers_cons_of_none found]
          refine later.trans (ofMembers?_congr (fun field inside => ?_) _)
          have apart : field.key ≠ key := by
            simpa using List.find?_eq_none.mp found field (List.mem_filter.mp inside).1
          exact (lookup?_cons_of_ne apart.symm tree rest).symm

/-- What is read of the members of an object is what the fields make of them. -/
theorem readMembers_eq (agrees : record.Agrees) (notes : record.Notes other depth note)
    {text rest : List Char} {members : List (String × Json)}
    (are : Members depth text members rest) (distinct : (Json.object members).KeysDistinct) :
    (record.readMembers other depth text).toOption =
      (ofMembers? .refused members record.fields
        (record.noteMembers note members record.start)).map (·, rest) := by
  obtain ⟨keys, inside⟩ := everyObject_object.mp distinct
  have folded := are.foldMembers_eq inside (agreesOnMembers agrees notes) ⟨record.start, []⟩
  have taken := foldlM_takeMember agrees notes keys ⟨record.start, []⟩ (by simp)
  have all : record.pending [] = record.fields := List.filter_eq_self.mpr fun _ _ => rfl
  rw [all] at taken
  rw [← taken, readMembers]
  rcases ok_or_error_of_toOption folded with ⟨draft, isRead, isTaken⟩ | ⟨fault, isFault, none⟩
  · rw [isRead, isTaken]
    cases complete : record.isComplete draft <;>
      simp [Bind.bind, Except.bind, Option.filter, complete, Except.toOption]
  · rw [isFault, none]
    rfl

theorem notes_skipped (record : Record α) (depth : Nat) :
    record.Notes (fun _ value text => do .ok (value, ← skipValue text)) depth
      fun _ value => value where
  reads := fun _ _ _ _ rest isTree =>
    bind_eq_ok.mpr ⟨rest, skipValue_of_readValue isTree, rfl⟩
  commute := fun _ _ _ _ _ _ _ => rfl

/-! ### Arrays -/

theorem ofItems?_nil (surplus : Surplus) (fields : List (Field α)) (value : α) :
    ofItems? surplus fields [] value =
      if fields.any (·.required) then none else some value := by
  cases fields <;> rfl

theorem ofItems?_cons (surplus : Surplus) (field : Field α) (fields : List (Field α)) (item : Json)
    (items : List Json) (value : α) :
    ofItems? surplus (field :: fields) (item :: items) value =
      (field.ofValue? surplus item).bind fun change =>
        ofItems? surplus fields items (change value) := by
  rw [ofItems?]
  cases field.ofValue? surplus item <;> rfl

theorem readMoreItems_eq {fields : List (Field α)} (agree : ∀ field ∈ fields, field.Agrees)
    {text rest : List Char} {items : List Json} (more : MoreItems depth text items rest)
    (distinct : ∀ item ∈ items, item.KeysDistinct) (value : α) :
    (readMoreItems depth fields value text).toOption =
      (ofItems? .refused fields items value).map (·, rest) := by
  induction more generalizing fields value with
  | closes closing =>
      rw [ofItems?_nil]
      cases fields with
      | nil =>
          simp only [readMoreItems, readEnd, closing]
          rfl
      | cons field fields =>
          simp only [readMoreItems, closing]
          split <;> rfl
  | item comma starts isItem more inductionHypothesis =>
      cases fields with
      | nil =>
          simp only [readMoreItems, readEnd, comma]
          rfl
      | cons field fields =>
          obtain ⟨agreesFirst, agreeRest⟩ := List.forall_mem_cons.mp agree
          obtain ⟨distinctFirst, distinctRest⟩ := List.forall_mem_cons.mp distinct
          have once := ok_or_error_of_toOption (agreesFirst _ _ _ _ isItem distinctFirst)
          rw [readMoreItems, ofItems?_cons]
          simp only [comma]
          split
          next isEmpty => exact absurd isEmpty starts.notEmpty
          next isClosing => exact absurd isClosing (starts.notClosing _)
          · rcases once with ⟨change, isRead, isChange⟩ | ⟨fault, isFault, noChange⟩
            · rw [isChange]
              simp only [isRead]
              exact inductionHypothesis agreeRest distinctRest (change value)
            · rw [noChange]
              simp only [isFault]
              rfl

/-- What is read of the items of an array is what the fields make of them one by one. -/
theorem readItems_eq (agree : ∀ field ∈ record.fields, field.Agrees) {text rest : List Char}
    {items : List Json} (are : Items depth text items rest)
    (distinct : ∀ item ∈ items, item.KeysDistinct) :
    (record.readItems depth text).toOption =
      (ofItems? .refused record.fields items record.start).map (·, rest) := by
  rw [readItems]
  cases are with
  | closes closing =>
      rw [ofItems?_nil]
      simp only [closing]
      cases record.fields with
      | nil => rfl
      | cons field fields =>
          simp only
          split <;> rfl
  | item starts isItem more =>
      obtain ⟨distinctFirst, distinctRest⟩ := List.forall_mem_cons.mp distinct
      cases fields : record.fields with
      | nil =>
          obtain ⟨character, following, shape, notClosing⟩ := starts.exists_cons
          have again : skipBlanks (character :: following) = character :: following := by
            rw [← shape]
            exact List.dropWhile_idempotent isBlank text
          simp only [shape, readEnd, again]
          split
          next isEmpty => cases isEmpty
          next isClosing => exact absurd (List.cons.inj isClosing).1 notClosing
          · rfl
      | cons field others =>
          rw [fields] at agree
          obtain ⟨agreesFirst, agreeRest⟩ := List.forall_mem_cons.mp agree
          have once := ok_or_error_of_toOption (agreesFirst _ _ _ _ isItem distinctFirst)
          rw [ofItems?_cons]
          split
          next isEmpty => exact absurd isEmpty starts.notEmpty
          next noField _ => cases noField
          next isClosing => exact absurd isClosing (starts.notClosing _)
          next same _ _ =>
            cases same
            rcases once with ⟨change, isRead, isChange⟩ | ⟨fault, isFault, noChange⟩
            · rw [isChange]
              simp only [isRead]
              exact readMoreItems_eq agreeRest more distinctRest (change record.start)
            · rw [noChange]
              simp only [isFault]
              rfl

/-- A record is decoded from a text as from its tree if its fields are. -/
theorem agrees_decoder (agrees : record.Agrees) : record.decoder.Agrees := by
  intro depth text tree rest read distinct
  cases stands_of_readValue read with
  | object starts areMembers =>
      have whole := readMembers_eq agrees (notes_skipped record _) areMembers distinct
      have unnoted : ∀ members value, record.noteMembers (fun _ value => value) members value =
          value := fun members value => List.foldl_fixed' (fun _ => rfl) _
      rw [unnoted] at whole
      simp only [decoder, starts]
      exact whole
  | array starts areItems =>
      simp only [decoder, starts]
      exact readItems_eq agrees.fields areItems (everyObject_array.mp distinct)
  | unsigned starts isDigit isNumber =>
      simp only [decoder, starts]
      split
      next opens => exact absurd opens (Decoder.cons_ne_of_isDigit isDigit rfl)
      next opens => exact absurd opens (Decoder.cons_ne_of_isDigit isDigit rfl)
      next opens => exact absurd opens (Decoder.cons_ne_of_isDigit isDigit rfl)
      next opens => exact absurd opens (Decoder.cons_ne_of_isDigit isDigit rfl)
      · rfl
  | null starts | yes starts | no starts | signed starts | string starts =>
      simp only [decoder, starts]
      rfl

end Record

/-- A decoder makes of a whole text what it makes of the tree of the text. -/
theorem Decoder.Agrees.toOption_parse {α : Type} {decoder : Decoder α} (agrees : decoder.Agrees)
    {text : String} {tree : Json} (isTree : parseTree nestingLimit text = .ok tree)
    (distinct : tree.KeysDistinct) :
    (decoder.parse text).toOption = decoder.ofValue? .refused tree := by
  obtain ⟨rest, isValue, blank⟩ := complete_eq_ok.mp isTree
  rw [Decoder.parse]
  rcases ok_or_error_of_toOption (agrees nestingLimit text.toList tree rest isValue distinct) with
    ⟨value, isRead, isDecoded⟩ | ⟨fault, isFault, none⟩
  · rw [isRead, isDecoded, complete_eq_ok.mpr ⟨rest, rfl, blank⟩]
    rfl
  · rw [isFault, none]
    rfl

end Parley.Json
