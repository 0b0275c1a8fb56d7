import Parley.Proofs.Json.Readings

/-!
# Settled values

The value that a text holds has ascending keys and readable numbers everywhere, and no more
characters than the text. A value that has ascending keys already stands for itself, unless an
object in it begins with the reserved key: then it never does.
-/

namespace Parley.Json

/-! ## Plain values -/

mutual

/-- The members of every object inside have the property. -/
def EveryObject (good : List (String × Json) → Prop) : Json → Prop
  | .null => True
  | .bool _ => True
  | .number _ => True
  | .string _ => True
  | .array items => EveryObjectOfItems good items
  | .object members => good members ∧ EveryObjectOfMembers good members

def EveryObjectOfItems (good : List (String × Json) → Prop) : List Json → Prop
  | [] => True
  | item :: rest => item.EveryObject good ∧ EveryObjectOfItems good rest

def EveryObjectOfMembers (good : List (String × Json) → Prop) : List (String × Json) → Prop
  | [] => True
  | (_, value) :: rest => value.EveryObject good ∧ EveryObjectOfMembers good rest

end

theorem everyObject_array {good : List (String × Json) → Prop} {items : List Json} :
    (Json.array items).EveryObject good ↔ ∀ item ∈ items, item.EveryObject good := by
  rw [EveryObject]
  induction items with
  | nil => simp [EveryObjectOfItems]
  | cons item rest inductionHypothesis =>
      rw [EveryObjectOfItems, inductionHypothesis, List.forall_mem_cons]

theorem everyObject_object {good : List (String × Json) → Prop}
    {members : List (String × Json)} :
    (Json.object members).EveryObject good ↔
      good members ∧ ∀ member ∈ members, member.2.EveryObject good := by
  rw [EveryObject]
  refine and_congr_right' ?_
  induction members with
  | nil => simp [EveryObjectOfMembers]
  | cons member rest inductionHypothesis =>
      rw [EveryObjectOfMembers, inductionHypothesis, List.forall_mem_cons]

/-- No object inside begins with the reserved key. -/
def IsPlain : Json → Prop :=
  EveryObject fun members => opensEmbedding members = false

/-- No object inside has a member under the reserved key. -/
def IsUnreserved : Json → Prop :=
  EveryObject fun members => ∀ member ∈ members, member.1 ≠ embeddingKey

theorem opensEmbedding_eq_false {members : List (String × Json)}
    (unreserved : ∀ member ∈ members, member.1 ≠ embeddingKey) :
    opensEmbedding members = false := by
  cases members with
  | nil => rfl
  | cons member rest => simpa [opensEmbedding] using unreserved member List.mem_cons_self

theorem IsUnreserved.isPlain {value : Json} (unreserved : value.IsUnreserved) :
    value.IsPlain := by
  induction value with
  | null | bool value | number value | string text => trivial
  | array items inductionHypothesis =>
      have inside := everyObject_array.mp unreserved
      exact everyObject_array.mpr fun item member =>
        inductionHypothesis item member (inside item member)
  | object members inductionHypothesis =>
      obtain ⟨keys, values⟩ := everyObject_object.mp unreserved
      exact everyObject_object.mpr ⟨opensEmbedding_eq_false keys, fun member inside =>
        inductionHypothesis member inside (values member inside)⟩

/-! ## One by one -/

theorem settleItems_eq_some {expand : String → Option Json} {items settled : List Json} :
    settleItems expand items = some settled ↔
      List.Forall₂ (fun item value => settle expand item = some value) items settled := by
  induction items generalizing settled with
  | nil =>
      rw [settleItems, List.forall₂_nil_left_iff, Option.some_inj]
      exact eq_comm
  | cons item rest inductionHypothesis =>
      rw [List.forall₂_cons_left_iff]
      simp only [settleItems, Option.bind_eq_bind, Option.bind_eq_some_iff, inductionHypothesis,
        Option.some_inj]
      constructor
      · rintro ⟨value, isValue, following, areFollowing, rfl⟩
        exact ⟨value, following, isValue, areFollowing, rfl⟩
      · rintro ⟨value, following, isValue, areFollowing, rfl⟩
        exact ⟨value, isValue, following, areFollowing, rfl⟩

theorem settleMembers_eq_some {expand : String → Option Json}
    {members settled : List (String × Json)} :
    settleMembers expand members = some settled ↔
      List.Forall₂
        (fun member value => member.1 = value.1 ∧ settle expand member.2 = some value.2)
        members settled := by
  induction members generalizing settled with
  | nil =>
      rw [settleMembers, List.forall₂_nil_left_iff, Option.some_inj]
      exact eq_comm
  | cons member rest inductionHypothesis =>
      obtain ⟨key, held⟩ := member
      rw [List.forall₂_cons_left_iff]
      simp only [settleMembers, Option.bind_eq_bind, Option.bind_eq_some_iff,
        inductionHypothesis, Option.some_inj]
      constructor
      · rintro ⟨value, isValue, following, areFollowing, rfl⟩
        exact ⟨(key, value), following, ⟨rfl, isValue⟩, areFollowing, rfl⟩
      · rintro ⟨⟨_, value⟩, following, ⟨rfl, isValue⟩, areFollowing, rfl⟩
        exact ⟨value, isValue, following, areFollowing, rfl⟩

theorem keys_settleMembers {expand : String → Option Json}
    {members settled : List (String × Json)} (are : settleMembers expand members = some settled) :
    settled.map Prod.fst = members.map Prod.fst := by
  have pairs := settleMembers_eq_some.mp are
  clear are
  induction pairs with
  | nil => rfl
  | cons same _ inductionHypothesis =>
      rw [List.map_cons, List.map_cons, inductionHypothesis, same.1]

theorem exists_of_mem_forall₂ {α β : Type} {related : α → β → Prop} {items : List α}
    {values : List β} (pairs : List.Forall₂ related items values) {value : β}
    (member : value ∈ values) : ∃ item ∈ items, related item value := by
  induction pairs with
  | nil =>
      exact absurd member List.not_mem_nil
  | cons first _ inductionHypothesis =>
      rcases List.mem_cons.mp member with rfl | later
      · exact ⟨_, List.mem_cons_self, first⟩
      · obtain ⟨item, inside, isRelated⟩ := inductionHypothesis later
        exact ⟨item, List.mem_cons_of_mem _ inside, isRelated⟩

/-! ## What settled values are -/

theorem weight_insertMember_le (key : String) (value : Json) (members : List (String × Json)) :
    weightOfMembers (insertMember key value members) ≤
      key.length + value.weight + weightOfMembers members := by
  induction members with
  | nil =>
      exact Nat.le_refl _
  | cons member rest inductionHypothesis =>
      obtain ⟨other, held⟩ := member
      unfold insertMember
      split
      · exact Nat.le_refl _
      · split <;> simp only [weightOfMembers] <;> omega

theorem weight_sortMembers_le (members : List (String × Json)) :
    weightOfMembers (sortMembers members) ≤ weightOfMembers members := by
  suffices grows : ∀ sorted,
      weightOfMembers (members.foldl
          (fun sorted member => insertMember member.1 member.2 sorted) sorted) ≤
        weightOfMembers sorted + weightOfMembers members by
    have whole := grows []
    rwa [weightOfMembers, Nat.zero_add] at whole
  induction members with
  | nil =>
      exact fun sorted => Nat.le_refl _
  | cons member rest inductionHypothesis =>
      intro sorted
      have following := inductionHypothesis (insertMember member.1 member.2 sorted)
      have inserted := weight_insertMember_le member.1 member.2 sorted
      rw [List.foldl_cons, weightOfMembers]
      omega

/-- Every embedded text stands for an ordered value that weighs no more. -/
def Expands (expand : String → Option Json) : Prop :=
  ∀ text value, expand text = some value → value.Ordered ∧ value.weight ≤ text.length

section Settle

variable {expand : String → Option Json}

theorem settled_items {items values : List Json}
    (each : ∀ item ∈ items, ∀ value, settle expand item = some value →
      value.Ordered ∧ value.weight ≤ item.weight)
    (are : List.Forall₂ (fun item value => settle expand item = some value) items values) :
    (∀ value ∈ values, value.Ordered) ∧ weightOfItems values ≤ weightOfItems items := by
  induction are with
  | nil =>
      exact ⟨fun value member => absurd member List.not_mem_nil, Nat.le_refl _⟩
  | cons isValue _ inductionHypothesis =>
      obtain ⟨eachFirst, eachRest⟩ := List.forall_mem_cons.mp each
      obtain ⟨ordered, light⟩ := eachFirst _ isValue
      obtain ⟨restOrdered, restLight⟩ := inductionHypothesis eachRest
      exact ⟨List.forall_mem_cons.mpr ⟨ordered, restOrdered⟩,
        by simp only [weightOfItems]; omega⟩

theorem settled_members {members values : List (String × Json)}
    (each : ∀ member ∈ members, ∀ value, settle expand member.2 = some value →
      value.Ordered ∧ value.weight ≤ member.2.weight)
    (are : List.Forall₂
      (fun member value => member.1 = value.1 ∧ settle expand member.2 = some value.2)
      members values) :
    (∀ value ∈ values, value.2.Ordered) ∧ weightOfMembers values ≤ weightOfMembers members := by
  induction are with
  | nil =>
      exact ⟨fun value member => absurd member List.not_mem_nil, Nat.le_refl _⟩
  | @cons member value _ _ isValue _ inductionHypothesis =>
      obtain ⟨eachFirst, eachRest⟩ := List.forall_mem_cons.mp each
      obtain ⟨ordered, light⟩ := eachFirst _ isValue.2
      obtain ⟨restOrdered, restLight⟩ := inductionHypothesis eachRest
      refine ⟨List.forall_mem_cons.mpr ⟨ordered, restOrdered⟩, ?_⟩
      rw [weightOfMembers, weightOfMembers, isValue.1]
      omega

theorem embeddedText?_eq_some {members : List (String × Json)} {text : String} :
    embeddedText? members = some text ↔ ∃ key, members = [(key, .string text)] := by
  constructor
  · intro isText
    unfold embeddedText? at isText
    split at isText <;> cases isText
    exact ⟨_, rfl⟩
  · rintro ⟨key, rfl⟩
    rfl

/-- The value of a tree is ordered and weighs no more. -/
theorem settle_ordered (expands : Expands expand) {tree value : Json}
    (readable : tree.EveryNumber Number.Readable) (settled : settle expand tree = some value) :
    value.Ordered ∧ value.weight ≤ tree.weight := by
  induction tree generalizing value with
  | null =>
      cases settled
      exact ⟨trivial, Nat.le_refl _⟩
  | bool truth =>
      cases settled
      exact ⟨trivial, Nat.le_refl _⟩
  | number number =>
      cases settled
      rw [EveryNumber] at readable
      exact ⟨readable, Nat.le_refl _⟩
  | string text =>
      cases settled
      exact ⟨trivial, Nat.le_refl _⟩
  | array items inductionHypothesis =>
      rw [everyNumber_array] at readable
      obtain ⟨values, are, rfl⟩ := Option.map_eq_some_iff.mp settled
      obtain ⟨ordered, light⟩ := settled_items
        (fun item member value => inductionHypothesis item member (readable item member))
        (settleItems_eq_some.mp are)
      exact ⟨ordered_array.mpr ordered, light⟩
  | object members inductionHypothesis =>
      rw [everyNumber_object] at readable
      rw [settle] at settled
      split at settled
      · obtain ⟨text, isText, expanded⟩ := Option.bind_eq_some_iff.mp settled
        obtain ⟨key, rfl⟩ := embeddedText?_eq_some.mp isText
        obtain ⟨ordered, light⟩ := expands text value expanded
        refine ⟨ordered, ?_⟩
        simp only [weight, weightOfMembers]
        omega
      · obtain ⟨values, are, rfl⟩ := Option.map_eq_some_iff.mp settled
        obtain ⟨ordered, light⟩ := settled_members
          (fun member inside value => inductionHypothesis member inside (readable member inside))
          (settleMembers_eq_some.mp are)
        refine ⟨ordered_object.mpr ⟨keysAscend_sortMembers values, ?_⟩, ?_⟩
        · exact fun member inside => ordered member (mem_of_mem_sortMembers inside)
        · exact Nat.le_trans (weight_sortMembers_le values) light

/-- A tree that embeds no text stands for a value that is nested no deeper. -/
theorem depth_settle_le {tree value : Json} (plain : tree.IsPlain)
    (settled : settle expand tree = some value) {depth : Nat} (shallow : tree.depth ≤ depth) :
    value.depth ≤ depth := by
  induction tree generalizing value depth with
  | null | bool truth | number number | string text =>
      cases settled
      exact shallow
  | array items inductionHypothesis =>
      have plainItems := everyObject_array.mp plain
      obtain ⟨values, are, rfl⟩ := Option.map_eq_some_iff.mp settled
      obtain ⟨inner, rfl⟩ : ∃ inner, depth = inner + 1 :=
        ⟨depth - 1, by rw [Json.depth] at shallow; omega⟩
      rw [depth_array_le] at shallow ⊢
      intro value member
      obtain ⟨item, inside, isValue⟩ :=
        exists_of_mem_forall₂ (settleItems_eq_some.mp are) member
      exact inductionHypothesis item inside (plainItems item inside) isValue (shallow item inside)
  | object members inductionHypothesis =>
      obtain ⟨opens, plainMembers⟩ := everyObject_object.mp plain
      rw [settle, opens, if_neg Bool.false_ne_true] at settled
      obtain ⟨values, are, rfl⟩ := Option.map_eq_some_iff.mp settled
      obtain ⟨inner, rfl⟩ : ∃ inner, depth = inner + 1 :=
        ⟨depth - 1, by rw [Json.depth] at shallow; omega⟩
      rw [depth_object_le] at shallow ⊢
      intro value member
      obtain ⟨other, inside, _, isValue⟩ :=
        exists_of_mem_forall₂ (settleMembers_eq_some.mp are) (mem_of_mem_sortMembers member)
      exact inductionHypothesis other inside (plainMembers other inside) isValue
        (shallow other inside)

/-- A tree without the reserved key stands for a value without it. -/
theorem isUnreserved_settle {tree value : Json} (unreserved : tree.IsUnreserved)
    (settled : settle expand tree = some value) : value.IsUnreserved := by
  induction tree generalizing value with
  | null | bool truth | number number | string text =>
      cases settled
      trivial
  | array items inductionHypothesis =>
      have inside := everyObject_array.mp unreserved
      obtain ⟨values, are, rfl⟩ := Option.map_eq_some_iff.mp settled
      refine everyObject_array.mpr fun value member => ?_
      obtain ⟨item, isItem, isValue⟩ :=
        exists_of_mem_forall₂ (settleItems_eq_some.mp are) member
      exact inductionHypothesis item isItem (inside item isItem) isValue
  | object members inductionHypothesis =>
      obtain ⟨keys, inside⟩ := everyObject_object.mp unreserved
      rw [settle, opensEmbedding_eq_false keys, if_neg Bool.false_ne_true] at settled
      obtain ⟨values, are, rfl⟩ := Option.map_eq_some_iff.mp settled
      have origin := fun member (isMember : member ∈ sortMembers values) =>
        exists_of_mem_forall₂ (settleMembers_eq_some.mp are) (mem_of_mem_sortMembers isMember)
      refine everyObject_object.mpr ⟨fun member isMember => ?_, fun member isMember => ?_⟩
      · obtain ⟨other, isOther, sameKey, -⟩ := origin member isMember
        exact sameKey ▸ keys other isOther
      · obtain ⟨other, isOther, -, isValue⟩ := origin member isMember
        exact inductionHypothesis other isOther (inside other isOther) isValue

/-! ## Values that stand for themselves -/

theorem settleMembers_of_each {members : List (String × Json)}
    (each : ∀ member ∈ members, settle expand member.2 = some member.2) :
    settleMembers expand members = some members :=
  settleMembers_eq_some.mpr (List.forall₂_same.mpr fun member inside =>
    ⟨rfl, each member inside⟩)

theorem settle_of_isPlain {value : Json} (ordered : value.Ordered) (plain : value.IsPlain) :
    settle expand value = some value := by
  induction value with
  | null => rfl
  | bool truth => rfl
  | number number => rfl
  | string text => rfl
  | array items inductionHypothesis =>
      have orderedItems := ordered_array.mp ordered
      have plainItems := everyObject_array.mp plain
      have each : settleItems expand items = some items :=
        settleItems_eq_some.mpr (List.forall₂_same.mpr fun item member =>
          inductionHypothesis item member (orderedItems item member) (plainItems item member))
      rw [settle, each, Option.map_some]
  | object members inductionHypothesis =>
      obtain ⟨ascend, orderedMembers⟩ := ordered_object.mp ordered
      obtain ⟨opens, plainMembers⟩ := everyObject_object.mp plain
      have each := settleMembers_of_each fun member inside =>
        inductionHypothesis member inside (orderedMembers member inside)
          (plainMembers member inside)
      rw [settle, opens, if_neg Bool.false_ne_true, each, Option.map_some,
        sortMembers_of_keysAscend ascend]

theorem keysAscend_settleMembers {members values : List (String × Json)}
    (are : settleMembers expand members = some values) (ascend : KeysAscend members) :
    KeysAscend values := by
  rw [keysAscend_iff_pairwise] at ascend ⊢
  rwa [keys_settleMembers are]

/-- Members that stand for themselves once sorted do so one by one. -/
theorem settle_member_of_sortMembers {members values : List (String × Json)}
    (are : settleMembers expand members = some values) (ascend : KeysAscend members)
    (same : sortMembers values = members) :
    ∀ member ∈ members, settle expand member.2 = some member.2 := by
  obtain rfl : values = members := by
    rw [← same, sortMembers_of_keysAscend (keysAscend_settleMembers are ascend)]
  exact fun member inside => (List.forall₂_same.mp (settleMembers_eq_some.mp are) member inside).2

/-- An object that begins with the reserved key does not stand for itself: the value of the text
under that key is lighter than the object. -/
theorem isPlain_of_settle (expands : Expands expand) {value : Json} (ordered : value.Ordered)
    (same : settle expand value = some value) : value.IsPlain := by
  induction value with
  | null | bool truth | number number | string text =>
      trivial
  | array items inductionHypothesis =>
      rw [ordered_array] at ordered
      obtain ⟨values, are, sameItems⟩ := Option.map_eq_some_iff.mp same
      obtain rfl := Json.array.inj sameItems
      have each := List.forall₂_same.mp (settleItems_eq_some.mp are)
      exact everyObject_array.mpr fun item member =>
        inductionHypothesis item member (ordered item member) (each item member)
  | object members inductionHypothesis =>
      rw [ordered_object] at ordered
      rw [settle] at same
      split at same
      next opens =>
        obtain ⟨text, isText, expanded⟩ := Option.bind_eq_some_iff.mp same
        obtain ⟨key, rfl⟩ := embeddedText?_eq_some.mp isText
        have light := (expands text _ expanded).2
        have reserved : key = embeddingKey := by simpa [opensEmbedding] using opens
        have long : 0 < embeddingKey.length := by decide
        simp only [weight, weightOfMembers, reserved] at light
        omega
      next opens =>
        obtain ⟨values, are, sameMembers⟩ := Option.map_eq_some_iff.mp same
        have each := settle_member_of_sortMembers are ordered.1 (Json.object.inj sameMembers)
        refine everyObject_object.mpr ⟨Bool.not_eq_true _ ▸ opens, fun member inside => ?_⟩
        exact inductionHypothesis member inside (ordered.2 member inside) (each member inside)

end Settle

/-! ## Embedded texts -/

theorem toOption_eq_some {α : Type} {outcome : Except Fault α} {value : α} :
    outcome.toOption = some value ↔ outcome = .ok value := by
  cases outcome <;> simp [Except.toOption]

/-- The value of a text is ordered and weighs no more than the text. -/
theorem expands_valueWithin (fuel : Nat) : Expands (valueWithin fuel) := by
  induction fuel with
  | zero =>
      intro text value isValue
      cases isValue
  | succ fuel inductionHypothesis =>
      intro text value isValue
      rw [valueWithin] at isValue
      obtain ⟨tree, isTree, settled⟩ := Option.bind_eq_some_iff.mp isValue
      obtain ⟨readable, -, light⟩ := yields_parseTree (toOption_eq_some.mp isTree)
      obtain ⟨ordered, lighter⟩ := settle_ordered inductionHypothesis readable settled
      exact ⟨ordered, Nat.le_trans lighter light⟩

theorem expands_value? : Expands value? :=
  fun text => expands_valueWithin (text.length + 1) text

/-- A value with ascending keys stands for itself if it is plain, and else for another one or
none. -/
theorem settle_eq_self_iff {value : Json} (ordered : value.Ordered) :
    settle value? value = some value ↔ value.IsPlain :=
  ⟨isPlain_of_settle expands_value? ordered, settle_of_isPlain ordered⟩

end Parley.Json
