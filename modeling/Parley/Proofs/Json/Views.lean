import Mathlib.Data.List.Forall2
import Mathlib.Data.Option.Basic
import Parley.Proofs.Json.Agreement

/-!
# Values decoded like their trees

What a decoder makes of a tree it also makes of the value that the tree stands for, since an object
that embeds a text is no record with a required field, no text and no array. What it does not make
of a tree it makes of no value either, unless the tree embeds a text.
-/

namespace Parley.Json

/-! ## Members found again -/

theorem perm_insertMember {key : String} (value : Json) {members : List (String × Json)}
    (fresh : key ∉ members.map Prod.fst) :
    (insertMember key value members).Perm ((key, value) :: members) := by
  induction members with
  | nil => exact List.Perm.refl _
  | cons head rest inductionHypothesis =>
      obtain ⟨other, held⟩ := head
      rw [List.map_cons, List.mem_cons, not_or] at fresh
      rw [insertMember]
      split
      · exact List.Perm.refl _
      · rw [if_neg fresh.1]
        exact ((inductionHypothesis fresh.2).cons (other, held)).trans (List.Perm.swap _ _ _)

/-- Sorting members under distinct keys only changes their order. -/
theorem perm_sortMembers {members : List (String × Json)}
    (distinct : (members.map Prod.fst).Nodup) : (sortMembers members).Perm members := by
  suffices keeps : ∀ sorted, ((sorted ++ members).map Prod.fst).Nodup →
      (members.foldl (fun sorted member => insertMember member.1 member.2 sorted) sorted).Perm
        (sorted ++ members) from
    keeps [] distinct
  clear distinct
  induction members with
  | nil =>
      intro sorted _
      rw [List.append_nil]
      exact List.Perm.refl sorted
  | cons member rest inductionHypothesis =>
      intro sorted distinct
      have moved : (sorted ++ member :: rest).Perm (member :: (sorted ++ rest)) :=
        List.perm_middle
      have apart := ((moved.map Prod.fst).nodup_iff.mp distinct)
      have fresh : member.1 ∉ sorted.map Prod.fst := by
        intro inside
        rw [List.map_cons, List.nodup_cons, List.map_append] at apart
        exact apart.1 (List.mem_append_left _ inside)
      have first := (perm_insertMember member.2 fresh).append_right rest
      have distinctRest := ((first.trans moved.symm).map Prod.fst).nodup_iff.mpr distinct
      rw [List.foldl_cons]
      exact (inductionHypothesis _ distinctRest).trans (first.trans moved.symm)

theorem lookup?_eq_some_iff {key : String} {value : Json} {members : List (String × Json)}
    (distinct : (members.map Prod.fst).Nodup) :
    lookup? key members = some value ↔ (key, value) ∈ members := by
  induction members with
  | nil => simp [lookup?]
  | cons head rest inductionHypothesis =>
      obtain ⟨other, held⟩ := head
      rw [List.map_cons, List.nodup_cons] at distinct
      by_cases same : other = key
      · subst same
        have notLater : (other, value) ∉ rest := fun inside =>
          distinct.1 (List.mem_map.mpr ⟨_, inside, rfl⟩)
        rw [lookup?_cons_self, List.mem_cons, Option.some_inj]
        simp [notLater, eq_comm]
      · rw [lookup?_cons_of_ne same, inductionHypothesis distinct.2, List.mem_cons]
        simp [Ne.symm same]

theorem lookup?_of_perm {members others : List (String × Json)}
    (distinct : (members.map Prod.fst).Nodup) (perm : members.Perm others) (key : String) :
    lookup? key members = lookup? key others := by
  have otherDistinct := (perm.map Prod.fst).nodup_iff.mp distinct
  refine Option.ext fun value => ?_
  rw [lookup?_eq_some_iff distinct, lookup?_eq_some_iff otherDistinct, perm.mem_iff]

theorem lookup?_sortMembers {members : List (String × Json)}
    (distinct : (members.map Prod.fst).Nodup) (key : String) :
    lookup? key (sortMembers members) = lookup? key members :=
  (lookup?_of_perm distinct (perm_sortMembers distinct).symm key).symm

/-! ## Trees and their values -/

/-- The value is that of the tree, which repeats no key. -/
structure SettlesTo (tree value : Json) : Prop where
  distinct : tree.KeysDistinct
  settled : settle value? tree = some value

/-- A reading makes the same of a tree and of its value, unless the tree embeds a text and the
reading makes nothing of it. -/
def SurvivesSettling {α : Type} (ofValue? : Json → Option α) : Prop :=
  ∀ tree value, SettlesTo tree value → (tree.IsPlain ∨ (ofValue? tree).isSome) →
    ofValue? value = ofValue? tree

/-- The items of an array settle one by one. -/
theorem SettlesTo.items {items : List Json} {value : Json}
    (settles : SettlesTo (.array items) value) :
    ∃ values, value = .array values ∧ List.Forall₂ SettlesTo items values := by
  obtain ⟨values, are, rfl⟩ := Option.map_eq_some_iff.mp settles.settled
  have distinct := everyObject_array.mp settles.distinct
  have each := (List.forall₂_and_left _ _).mpr ⟨distinct, settleItems_eq_some.mp are⟩
  exact ⟨values, rfl, each.imp fun item value settled => ⟨settled.1, settled.2⟩⟩

/-- What is found among members settles to what is found among their values. -/
theorem lookup?_settleMembers {members values : List (String × Json)}
    (are : settleMembers value? members = some values)
    (distinct : ∀ member ∈ members, member.2.KeysDistinct) (key : String) :
    Option.Rel SettlesTo (lookup? key members) (lookup? key values) := by
  have pairs := settleMembers_eq_some.mp are
  clear are
  induction pairs with
  | nil => exact .none
  | @cons member value members values pair _ inductionHypothesis =>
      obtain ⟨distinctFirst, distinctRest⟩ := List.forall_mem_cons.mp distinct
      obtain ⟨other, tree⟩ := member
      obtain ⟨_, held⟩ := value
      obtain ⟨rfl, settled⟩ := pair
      by_cases same : other = key
      · subst same
        rw [lookup?_cons_self, lookup?_cons_self]
        exact .some ⟨distinctFirst, settled⟩
      · rw [lookup?_cons_of_ne same, lookup?_cons_of_ne same]
        exact inductionHypothesis distinctRest

/-- The members of an object that embeds no text settle one by one. -/
theorem SettlesTo.members {members : List (String × Json)} {value : Json}
    (settles : SettlesTo (.object members) value) (opens : opensEmbedding members = false) :
    ∃ values, value = .object values ∧
      ∀ key, Option.Rel SettlesTo (lookup? key members) (lookup? key values) := by
  have settled := settles.settled
  obtain ⟨keys, distinct⟩ := everyObject_object.mp settles.distinct
  rw [settle, opens, if_neg Bool.false_ne_true] at settled
  obtain ⟨values, are, rfl⟩ := Option.map_eq_some_iff.mp settled
  refine ⟨sortMembers values, rfl, fun key => ?_⟩
  rw [lookup?_sortMembers (keys_settleMembers are ▸ keys)]
  exact lookup?_settleMembers are distinct key

/-- Where two steps yield something, each of them does. -/
theorem isSome_of_bind {α β : Type} {first : Option α} {next : α → Option β}
    (whole : (first.bind next).isSome) :
    first.isSome ∧ ∀ found, first = some found → (next found).isSome := by
  cases first with
  | none => cases whole
  | some found => exact ⟨rfl, fun other same => Option.some_inj.mp same ▸ whole⟩

/-- Only `null` and what embeds a text settle to `null`. -/
theorem SettlesTo.eq_null {tree : Json} (settles : SettlesTo tree .null) (plain : tree.IsPlain) :
    tree = .null := by
  cases tree with
  | null | bool truth | number number | string text =>
      exact Option.some_inj.mp settles.settled
  | array items =>
      obtain ⟨values, same, -⟩ := settles.items
      cases same
  | object members =>
      obtain ⟨values, same, -⟩ := settles.members (everyObject_object.mp plain).1
      cases same

/-- A reading that is made of texts and numbers only makes nothing of an array or object. -/
theorem survivesSettling_of_flat {α : Type} {ofValue? : Json → Option α}
    (noArray : ∀ items, ofValue? (.array items) = none)
    (noObject : ∀ members, ofValue? (.object members) = none) : SurvivesSettling ofValue? := by
  intro tree value settles good
  cases tree with
  | null | bool truth | number number | string text =>
      rw [Option.some_inj.mp settles.settled]
  | array items =>
      obtain ⟨values, rfl, -⟩ := settles.items
      rw [noArray, noArray]
  | object members =>
      have plain := good.resolve_right (by rw [noObject]; exact Bool.false_ne_true)
      obtain ⟨values, rfl, -⟩ := settles.members (everyObject_object.mp plain).1
      rw [noObject, noObject]

/-! ## Decoders -/

namespace Decoder

variable {α : Type}

/-- The decoder makes the same of a tree and of its value. -/
def Survives (decoder : Decoder α) : Prop :=
  SurvivesSettling (decoder.ofValue? .refused)

theorem survives_text : text.Survives :=
  survivesSettling_of_flat (fun _ => rfl) (fun _ => rfl)

theorem survives_natural (greatest : Nat) : (natural greatest).Survives :=
  survivesSettling_of_flat (fun _ => rfl) (fun _ => rfl)

variable {decoder : Decoder α}

theorem survives_optional (noNull : decoder.ofValue? .refused .null = none)
    (survives : decoder.Survives) : decoder.optional.Survives := by
  intro tree value settles good
  have present : ∀ given : Json, given ≠ .null →
      decoder.optional.ofValue? .refused given = (decoder.ofValue? .refused given).map some := by
    intro given notNull
    simp only [optional]
  by_cases isNull : tree = .null
  · subst isNull
    rw [Option.some_inj.mp settles.settled]
  · rw [present tree isNull] at good ⊢
    rw [Option.isSome_map] at good
    have inner := survives tree value settles good
    -- An embedded text may hold `null`, which the inner decoder refuses, so the tree was none.
    by_cases valueIsNull : value = .null
    · subst valueIsNull
      rw [← inner, noNull] at good
      exact absurd (settles.eq_null (good.resolve_right Bool.false_ne_true)) isNull
    · rw [present value valueIsNull, inner]

theorem survives_list (survives : decoder.Survives) : decoder.list.Survives := by
  intro tree value settles good
  cases tree with
  | null | bool truth | number number | string text =>
      rw [Option.some_inj.mp settles.settled]
  | array items =>
      obtain ⟨values, rfl, each⟩ := settles.items
      have goodItems : (∀ item ∈ items, item.IsPlain) ∨
          (items.mapM (decoder.ofValue? .refused)).isSome :=
        good.imp_left everyObject_array.mp
      show values.mapM (decoder.ofValue? .refused) = items.mapM (decoder.ofValue? .refused)
      clear settles good
      induction each with
      | nil => rfl
      | @cons item value items values settles _ inductionHypothesis =>
          rw [List.forall_mem_cons, List.mapM_cons] at goodItems
          have first := survives item value settles
            (goodItems.imp And.left fun whole => (isSome_of_bind whole).1)
          rw [List.mapM_cons, List.mapM_cons, first]
          refine Option.bind_congr fun found isFound => ?_
          have rest := inductionHypothesis (goodItems.imp And.right fun whole =>
            (isSome_of_bind ((isSome_of_bind whole).2 found isFound)).1)
          rw [rest]
  | object members =>
      have plain := good.resolve_right Bool.false_ne_true
      obtain ⟨values, rfl, -⟩ := settles.members (everyObject_object.mp plain).1
      rfl

end Decoder

/-! ## Records -/

/-- The field makes the same of a tree and of its value. -/
def Field.Survives {α : Type} (field : Field α) : Prop :=
  SurvivesSettling (field.ofValue? .refused)

theorem Field.survives_of {α β : Type} {decoder : Decoder β} (survives : decoder.Survives)
    (key : String) (required : Bool) (put : β → α → α) :
    (Field.of key required decoder put).Survives := by
  intro tree value settles good
  simp only [Field.of, Option.isSome_map] at good ⊢
  rw [survives tree value settles good]

theorem Field.Survives.change? {α : Type} {field : Field α} (survives : field.Survives)
    {given held : Option Json} (related : Option.Rel SettlesTo given held)
    (good : (∀ tree ∈ given, tree.IsPlain) ∨ (field.change? .refused given).isSome) :
    field.change? .refused held = field.change? .refused given := by
  cases related with
  | none => rfl
  | some settles => exact survives _ _ settles (good.imp_left fun plain => plain _ rfl)

theorem mem_of_lookup? {key : String} {members : List (String × Json)} {tree : Json}
    (found : lookup? key members = some tree) : (key, tree) ∈ members := by
  obtain ⟨member, isFound, rfl⟩ := Option.map_eq_some_iff.mp found
  have named := List.find?_some isFound
  simp only [beq_iff_eq] at named
  exact named ▸ List.mem_of_find?_eq_some isFound

namespace Record

variable {α : Type}

/-- Whatever a tree gives for a field of the record embeds no text. -/
def GivenPlain (record : Record α) : Json → Prop
  | .object members =>
      ∀ field ∈ record.fields, ∀ tree ∈ lookup? field.key members, tree.IsPlain
  | _ => True

theorem givenPlain_of_isPlain {record : Record α} {members : List (String × Json)}
    (plain : ∀ member ∈ members, member.2.IsPlain) : record.GivenPlain (.object members) :=
  fun _ _ tree found => plain (_, tree) (mem_of_lookup? found)

/-- Members under whose keys the values of trees are found make the record of the trees. -/
theorem ofMembers?_survives {fields : List (Field α)}
    (survive : ∀ field ∈ fields, field.Survives) {members values : List (String × Json)}
    (related : ∀ field ∈ fields,
      Option.Rel SettlesTo (lookup? field.key members) (lookup? field.key values))
    (value : α)
    (good : (∀ field ∈ fields, ∀ tree ∈ lookup? field.key members, tree.IsPlain) ∨
      (ofMembers? .refused members fields value).isSome) :
    ofMembers? .refused values fields value = ofMembers? .refused members fields value := by
  induction fields generalizing value with
  | nil => rfl
  | cons field rest inductionHypothesis =>
      obtain ⟨survivesFirst, surviveRest⟩ := List.forall_mem_cons.mp survive
      obtain ⟨relatedFirst, relatedRest⟩ := List.forall_mem_cons.mp related
      rw [List.forall_mem_cons, ofMembers?_eq] at good
      have first := survivesFirst.change? relatedFirst
        (good.imp And.left fun whole => (isSome_of_bind whole).1)
      rw [ofMembers?_eq, ofMembers?_eq, first]
      refine Option.bind_congr fun change isChange => ?_
      exact inductionHypothesis surviveRest relatedRest (change value)
        (good.imp And.right fun whole => (isSome_of_bind whole).2 change isChange)

theorem ofItems?_survives {fields : List (Field α)}
    (survive : ∀ field ∈ fields, field.Survives) {items values : List Json}
    (each : List.Forall₂ SettlesTo items values) (value : α)
    (good : (∀ item ∈ items, item.IsPlain) ∨
      (ofItems? .refused fields items value).isSome) :
    ofItems? .refused fields values value = ofItems? .refused fields items value := by
  induction each generalizing fields value with
  | nil => rfl
  | @cons item held items values settles _ inductionHypothesis =>
      cases fields with
      | nil => rfl
      | cons field rest =>
          obtain ⟨survivesFirst, surviveRest⟩ := List.forall_mem_cons.mp survive
          rw [List.forall_mem_cons, ofItems?_cons] at good
          have first := survivesFirst item held settles
            (good.imp And.left fun whole => (isSome_of_bind whole).1)
          rw [ofItems?_cons, ofItems?_cons, first]
          refine Option.bind_congr fun change isChange => ?_
          exact inductionHypothesis surviveRest (change value)
            (good.imp And.right fun whole => (isSome_of_bind whole).2 change isChange)

/-- Whatever has to be given is given. -/
theorem isSome_lookup?_of_required {surplus : Surplus} {members : List (String × Json)}
    {fields : List (Field α)} {value : α} (whole : (ofMembers? surplus members fields value).isSome)
    {field : Field α} (inside : field ∈ fields) (required : field.required = true) :
    (lookup? field.key members).isSome := by
  induction fields generalizing value with
  | nil => exact absurd inside List.not_mem_nil
  | cons head rest inductionHypothesis =>
      rw [ofMembers?_eq] at whole
      obtain ⟨first, later⟩ := isSome_of_bind whole
      rcases List.mem_cons.mp inside with rfl | isLater
      · cases found : lookup? field.key members with
        | none => simp [found, Field.change?, required] at first
        | some given => rfl
      · obtain ⟨change, isChange⟩ := Option.isSome_iff_exists.mp first
        exact inductionHypothesis (later change isChange) isLater

/-- A record with a required field is not decoded from an object that embeds a text, which has no
other member. -/
theorem survives_decoder {record : Record α} (survive : ∀ field ∈ record.fields, field.Survives)
    {field : Field α} (inside : field ∈ record.fields) (required : field.required = true)
    (apart : field.key ≠ embeddingKey) : record.decoder.Survives := by
  intro tree value settles good
  cases tree with
  | null | bool truth | number number | string text =>
      rw [Option.some_inj.mp settles.settled]
  | array items =>
      obtain ⟨values, rfl, each⟩ := settles.items
      exact ofItems?_survives survive each record.start (good.imp_left everyObject_array.mp)
  | object members =>
      have opens : opensEmbedding members = false := by
        rcases good with plain | whole
        · exact (everyObject_object.mp plain).1
        · have given := isSome_lookup?_of_required whole inside required
          by_contra embeds
          have settled := settles.settled
          rw [settle, if_pos (by simpa using embeds)] at settled
          obtain ⟨text, isText, -⟩ := Option.bind_eq_some_iff.mp settled
          obtain ⟨key, rfl⟩ := embeddedText?_eq_some.mp isText
          have reserved : key = embeddingKey := by simpa [opensEmbedding] using embeds
          rw [lookup?_cons_of_ne (reserved ▸ apart.symm)] at given
          cases given
      obtain ⟨values, rfl, related⟩ := settles.members opens
      exact ofMembers?_survives survive (fun field _ => related field.key) record.start
        (good.imp_left fun plain => givenPlain_of_isPlain (everyObject_object.mp plain).2)

end Record

end Parley.Json
