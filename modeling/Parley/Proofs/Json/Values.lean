import Parley.Json.Embedding

/-!
# Values and their members

Induction over values, what it means for a value that something holds all over it, and lists of
members under ascending keys: sorting makes any list one, and leaves one as it is.
-/

namespace Parley.Json

/-- Induction over a value, which assumes the property of every item and of the value of every
member. -/
@[elab_as_elim, induction_eliminator]
theorem induct
    {motive : Json → Prop}
    (null : motive .null)
    (bool : ∀ value, motive (.bool value))
    (number : ∀ value, motive (.number value))
    (string : ∀ text, motive (.string text))
    (array : ∀ items, (∀ item ∈ items, motive item) → motive (.array items))
    (object : ∀ members, (∀ member ∈ members, motive member.2) → motive (.object members))
    (value : Json) : motive value :=
  match value with
  | .null => null
  | .bool value => bool value
  | .number value => number value
  | .string text => string text
  | .array items =>
      array items fun item _ => induct null bool number string array object item
  | .object members =>
      object members fun member _ => induct null bool number string array object member.2
termination_by sizeOf value
decreasing_by
  · next inside =>
    have smaller := List.sizeOf_lt_of_mem inside
    simp only [Json.array.sizeOf_spec]
    omega
  · next inside =>
    have smaller := List.sizeOf_lt_of_mem inside
    have part : sizeOf member = 1 + sizeOf member.1 + sizeOf member.2 := rfl
    simp only [Json.object.sizeOf_spec]
    omega

/-! ## All over a value -/

mutual

def EveryNumber (good : Number → Prop) : Json → Prop
  | .null => True
  | .bool _ => True
  | .number value => good value
  | .string _ => True
  | .array items => EveryNumberOfItems good items
  | .object members => EveryNumberOfMembers good members

def EveryNumberOfItems (good : Number → Prop) : List Json → Prop
  | [] => True
  | item :: rest => item.EveryNumber good ∧ EveryNumberOfItems good rest

def EveryNumberOfMembers (good : Number → Prop) : List (String × Json) → Prop
  | [] => True
  | (_, value) :: rest => value.EveryNumber good ∧ EveryNumberOfMembers good rest

end

theorem everyNumber_array {good : Number → Prop} {items : List Json} :
    (Json.array items).EveryNumber good ↔ ∀ item ∈ items, item.EveryNumber good := by
  rw [EveryNumber]
  induction items with
  | nil => simp [EveryNumberOfItems]
  | cons item rest inductionHypothesis =>
      rw [EveryNumberOfItems, inductionHypothesis, List.forall_mem_cons]

theorem everyNumber_object {good : Number → Prop} {members : List (String × Json)} :
    (Json.object members).EveryNumber good ↔
      ∀ member ∈ members, member.2.EveryNumber good := by
  rw [EveryNumber]
  induction members with
  | nil => simp [EveryNumberOfMembers]
  | cons member rest inductionHypothesis =>
      rw [EveryNumberOfMembers, inductionHypothesis, List.forall_mem_cons]

theorem ordered_array {items : List Json} :
    (Json.array items).Ordered ↔ ∀ item ∈ items, item.Ordered := by
  rw [Ordered]
  induction items with
  | nil => simp [OrderedItems]
  | cons item rest inductionHypothesis =>
      rw [OrderedItems, inductionHypothesis, List.forall_mem_cons]

theorem ordered_object {members : List (String × Json)} :
    (Json.object members).Ordered ↔
      KeysAscend members ∧ ∀ member ∈ members, member.2.Ordered := by
  rw [Ordered]
  refine and_congr_right' ?_
  induction members with
  | nil => simp [OrderedMembers]
  | cons member rest inductionHypothesis =>
      rw [OrderedMembers, inductionHypothesis, List.forall_mem_cons]

theorem depth_array_le {items : List Json} {depth : Nat} :
    (Json.array items).depth ≤ depth + 1 ↔ ∀ item ∈ items, item.depth ≤ depth := by
  rw [Json.depth, Nat.add_le_add_iff_right]
  induction items with
  | nil => simp [depthOfItems]
  | cons item rest inductionHypothesis =>
      rw [depthOfItems, Nat.max_le, inductionHypothesis, List.forall_mem_cons]

theorem depth_object_le {members : List (String × Json)} {depth : Nat} :
    (Json.object members).depth ≤ depth + 1 ↔ ∀ member ∈ members, member.2.depth ≤ depth := by
  rw [Json.depth, Nat.add_le_add_iff_right]
  induction members with
  | nil => simp [depthOfMembers]
  | cons member rest inductionHypothesis =>
      rw [depthOfMembers, Nat.max_le, inductionHypothesis, List.forall_mem_cons]

/-! ## Members under ascending keys -/

theorem keysAscend_iff_pairwise {members : List (String × Json)} :
    KeysAscend members ↔ (members.map Prod.fst).Pairwise (· < ·) := by
  induction members with
  | nil => simp [KeysAscend]
  | cons member rest inductionHypothesis =>
      rw [KeysAscend, inductionHypothesis, List.map_cons, List.pairwise_cons,
        List.forall_mem_map]

theorem mem_of_mem_insertMember {key : String} {value : Json} {members : List (String × Json)}
    {member : String × Json} (inside : member ∈ insertMember key value members) :
    member = (key, value) ∨ member ∈ members := by
  induction members with
  | nil =>
      exact Or.inl (List.mem_singleton.mp inside)
  | cons head rest inductionHypothesis =>
      unfold insertMember at inside
      split at inside
      · exact (List.mem_cons.mp inside).imp_right id
      · split at inside
        · exact (List.mem_cons.mp inside).imp_right (List.mem_cons_of_mem _)
        · rcases List.mem_cons.mp inside with rfl | later
          · exact Or.inr List.mem_cons_self
          · exact (inductionHypothesis later).imp_right (List.mem_cons_of_mem _)

theorem keysAscend_insertMember (key : String) (value : Json) {members : List (String × Json)}
    (ascend : KeysAscend members) : KeysAscend (insertMember key value members) := by
  induction members with
  | nil =>
      exact ⟨fun member inside => absurd inside List.not_mem_nil, trivial⟩
  | cons head rest inductionHypothesis =>
      obtain ⟨other, held⟩ := head
      obtain ⟨least, restAscend⟩ := ascend
      unfold insertMember
      split
      next before =>
        refine ⟨?_, least, restAscend⟩
        intro member inside
        rcases List.mem_cons.mp inside with rfl | later
        · exact before
        · exact String.lt_trans before (least member later)
      next notBefore =>
        split
        next same =>
          exact ⟨same ▸ least, restAscend⟩
        next different =>
          have after : other < key :=
            Std.lt_of_le_of_ne (Std.not_lt.mp notBefore) (Ne.symm different)
          refine ⟨?_, inductionHypothesis restAscend⟩
          intro member inside
          rcases mem_of_mem_insertMember inside with rfl | later
          · exact after
          · exact least member later

theorem keysAscend_sortMembers (members : List (String × Json)) :
    KeysAscend (sortMembers members) := by
  suffices keeps : ∀ sorted, KeysAscend sorted →
      KeysAscend (members.foldl
        (fun sorted member => insertMember member.1 member.2 sorted) sorted) from
    keeps [] trivial
  induction members with
  | nil =>
      exact fun sorted ascend => ascend
  | cons member rest inductionHypothesis =>
      exact fun sorted ascend =>
        inductionHypothesis _ (keysAscend_insertMember member.1 member.2 ascend)

theorem mem_of_mem_sortMembers {members : List (String × Json)} {member : String × Json}
    (inside : member ∈ sortMembers members) : member ∈ members := by
  suffices keeps : ∀ sorted,
      member ∈ members.foldl
          (fun sorted member => insertMember member.1 member.2 sorted) sorted →
        member ∈ sorted ∨ member ∈ members from
    (keeps [] inside).resolve_left List.not_mem_nil
  clear inside
  induction members with
  | nil =>
      exact fun sorted inside => Or.inl inside
  | cons head rest inductionHypothesis =>
      intro sorted inside
      rcases inductionHypothesis _ inside with early | later
      · rcases mem_of_mem_insertMember early with rfl | held
        · exact Or.inr List.mem_cons_self
        · exact Or.inl held
      · exact Or.inr (List.mem_cons_of_mem _ later)

/-- A key past all others goes to the end. -/
theorem insertMember_of_last {key : String} (value : Json) {members : List (String × Json)}
    (last : ∀ member ∈ members, member.1 < key) :
    insertMember key value members = members ++ [(key, value)] := by
  induction members with
  | nil =>
      rfl
  | cons head rest inductionHypothesis =>
      obtain ⟨other, held⟩ := head
      have before : other < key := last (other, held) List.mem_cons_self
      have notAfter : ¬key < other := fun after =>
        String.lt_irrefl key (String.lt_trans after before)
      have different : key ≠ other := fun same => String.lt_irrefl key (same ▸ before)
      rw [insertMember, if_neg notAfter, if_neg different,
        inductionHypothesis fun member inside => last member (List.mem_cons_of_mem _ inside),
        List.cons_append]

/-- Sorting leaves members under ascending keys as they are. -/
theorem sortMembers_of_keysAscend {members : List (String × Json)}
    (ascend : KeysAscend members) : sortMembers members = members := by
  suffices keeps : ∀ sorted, KeysAscend (sorted ++ members) →
      members.foldl (fun sorted member => insertMember member.1 member.2 sorted) sorted =
        sorted ++ members from
    keeps [] ascend
  clear ascend
  induction members with
  | nil =>
      exact fun sorted _ => (List.append_nil sorted).symm
  | cons member rest inductionHypothesis =>
      intro sorted ascend
      have apart := keysAscend_iff_pairwise.mp ascend
      rw [List.map_append, List.pairwise_append] at apart
      have last : ∀ early ∈ sorted, early.1 < member.1 := fun early inside =>
        apart.2.2 early.1 (List.mem_map_of_mem inside) member.1 List.mem_cons_self
      rw [List.foldl_cons, insertMember_of_last member.2 last,
        inductionHypothesis (sorted ++ [member]) (by simpa using ascend), List.append_assoc,
        List.singleton_append]

end Parley.Json
