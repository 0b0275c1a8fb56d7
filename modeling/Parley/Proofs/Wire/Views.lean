import Parley.Proofs.Json.Views
import Parley.Proofs.Wire.Packets
import Parley.Settings.Backoff
import Parley.Wire.Request

/-!
# Packets seen as other types

A packet that is read from a text may be seen as another type. The text may also be decoded as that
type without the packet. Both ways give the same, as far as no text is embedded in the fields.
-/

namespace Parley.Settings.Backoff

theorem agrees_record : record.Agrees where
  fields := by
    have each : ∀ key greatest (put : Nat → Backoff → Backoff),
        (Json.Field.of key false (.natural greatest) put).Agrees := fun key greatest put =>
      Json.Field.agrees_of (Json.Decoder.agrees_natural greatest) key false put
    exact List.forall_mem_cons.mpr ⟨each _ _ _, List.forall_mem_cons.mpr ⟨each _ _ _,
      List.forall_mem_singleton.mpr (each _ _ _)⟩⟩
  keys := by decide
  commute := by
    simp only [record, List.pairwise_cons, List.forall_mem_cons, List.not_mem_nil,
      List.Pairwise.nil, false_imp_iff, implies_true, and_true]
    exact ⟨⟨Json.Field.commutes_of fun _ _ _ => rfl, Json.Field.commutes_of fun _ _ _ => rfl⟩,
      Json.Field.commutes_of fun _ _ _ => rfl⟩

theorem survive_fields : ∀ field ∈ record.fields, field.Survives := by
  have each : ∀ key greatest (put : Nat → Backoff → Backoff),
      (Json.Field.of key false (.natural greatest) put).Survives := fun key greatest put =>
    Json.Field.survives_of (Json.Decoder.survives_natural greatest) key false put
  exact List.forall_mem_cons.mpr ⟨each _ _ _, List.forall_mem_cons.mpr ⟨each _ _ _,
    List.forall_mem_singleton.mpr (each _ _ _)⟩⟩

end Parley.Settings.Backoff

namespace Parley.Wire

/-! ## Records of texts -/

theorem Image.agrees_record : Image.record.Agrees where
  fields := by
    refine List.forall_mem_cons.mpr ⟨Json.Field.agrees_of Json.Decoder.agrees_text _ _ _, ?_⟩
    refine List.forall_mem_singleton.mpr ?_
    exact Json.Field.agrees_of (Json.Decoder.agrees_optional Json.Decoder.agrees_text) _ _ _
  keys := by decide
  commute := List.pairwise_pair.mpr (Json.Field.commutes_of fun _ _ _ => rfl)

theorem Image.survives_record : Image.record.decoder.Survives := by
  refine Json.Record.survives_decoder ?_ List.mem_cons_self rfl (by decide)
  refine List.forall_mem_cons.mpr ⟨Json.Field.survives_of Json.Decoder.survives_text _ _ _, ?_⟩
  refine List.forall_mem_singleton.mpr ?_
  exact Json.Field.survives_of (Json.Decoder.survives_optional rfl Json.Decoder.survives_text) _ _ _

theorem Pong.agrees_record : Pong.record.Agrees where
  fields := List.forall_mem_singleton.mpr (Json.Field.agrees_of Json.Decoder.agrees_text _ _ _)
  keys := by decide
  commute := List.pairwise_singleton _ _

theorem Request.agrees_record : Request.record.Agrees where
  fields := by
    have optionalText := Json.Decoder.agrees_optional Json.Decoder.agrees_text
    refine List.forall_mem_cons.mpr ⟨Json.Field.agrees_of Json.Decoder.agrees_text _ _ _, ?_⟩
    refine List.forall_mem_cons.mpr ⟨Json.Field.agrees_of optionalText _ _ _, ?_⟩
    refine List.forall_mem_cons.mpr ⟨Json.Field.agrees_of optionalText _ _ _, ?_⟩
    refine List.forall_mem_singleton.mpr ?_
    exact Json.Field.agrees_of (Json.Decoder.agrees_optional (Json.Decoder.agrees_list
      (Json.Record.agrees_decoder Image.agrees_record))) _ _ _
  keys := by decide
  commute := by
    simp only [record, List.pairwise_cons, List.forall_mem_cons, List.not_mem_nil,
      List.Pairwise.nil, false_imp_iff, implies_true, and_true]
    exact ⟨⟨Json.Field.commutes_of fun _ _ _ => rfl, Json.Field.commutes_of fun _ _ _ => rfl,
      Json.Field.commutes_of fun _ _ _ => rfl⟩, ⟨Json.Field.commutes_of fun _ _ _ => rfl,
      Json.Field.commutes_of fun _ _ _ => rfl⟩, Json.Field.commutes_of fun _ _ _ => rfl⟩

/-! ## The packet of a tree -/

namespace Packet

/-- The typed members change nothing of the fields, so a packet may get its fields last. -/
theorem agrees_record : record.Agrees where
  fields := by
    refine List.forall_mem_cons.mpr ⟨Json.Field.agrees_of Json.Decoder.agrees_text _ _ _, ?_⟩
    refine List.forall_mem_singleton.mpr ?_
    exact Json.Field.agrees_of (Json.Decoder.agrees_optional Json.Decoder.agrees_text) _ _ _
  keys := by decide
  commute := List.pairwise_pair.mpr (Json.Field.commutes_of fun _ _ _ => rfl)

/-- A typed member leaves the fields alone, whatever they are. -/
theorem change_fields {field : Json.Field Packet} (inside : field ∈ record.fields)
    {surplus : Json.Surplus} {tree : Json} {change : Packet → Packet}
    (isChange : field.ofValue? surplus tree = some change)
    (alter : List (String × Json) → List (String × Json)) (packet : Packet) :
    change { packet with fields := alter packet.fields } =
      { change packet with fields := alter (change packet).fields } := by
  simp only [record, List.mem_cons, List.not_mem_nil, or_false] at inside
  rcases inside with rfl | rfl
  · obtain ⟨kind, -, rfl⟩ := Option.map_eq_some_iff.mp isChange
    rfl
  · obtain ⟨session, -, rfl⟩ := Option.map_eq_some_iff.mp isChange
    rfl

theorem notes_readField (depth : Nat) :
    record.Notes (readField depth) depth fun member packet =>
      { packet with fields := packet.fields ++ [member] } where
  reads := fun _ _ _ _ _ isTree => Json.bind_eq_ok.mpr ⟨_, isTree, rfl⟩
  commute := fun _ inside _ _ isChange member packet =>
    change_fields inside isChange (· ++ [member]) packet

theorem noteMembers_eq (members : List (String × Json)) (packet : Packet) :
    record.noteMembers
        (fun member packet => { packet with fields := packet.fields ++ [member] }) members packet =
      { packet with
        fields := packet.fields ++ members.filter fun member => ! isTyped member.1 } := by
  show ((members.filter fun member => ! isTyped member.1).foldl _ packet) = _
  induction members.filter fun member => ! isTyped member.1 generalizing packet with
  | nil => rw [List.append_nil]; rfl
  | cons member rest inductionHypothesis =>
      rw [List.foldl_cons, inductionHypothesis, List.append_assoc]
      rfl

theorem ofMembers?_fields (surplus : Json.Surplus) (members fields : List (String × Json))
    (packet : Packet) :
    Json.Record.ofMembers? surplus members record.fields { packet with fields } =
      (Json.Record.ofMembers? surplus members record.fields packet).map fun typed =>
        { typed with fields } := by
  let finish := fun typed : Packet => { typed with fields }
  have commute : ∀ field ∈ record.fields, ∀ tree change,
      field.ofValue? surplus tree = some change → ∀ value, change (finish value) =
        finish (change value) :=
    fun _ inside _ _ isChange => change_fields inside isChange fun _ => fields
  exact Json.Record.ofMembers?_map commute members packet

theorem toOption_settled (settled : Option Packet) (rest : List Char) :
    (settled.elim (.error .misfit) fun packet => .ok (packet, rest) :
      Except Json.Fault (Packet × List Char)).toOption = settled.map (·, rest) := by
  cases settled <;> rfl

/-- A packet is decoded from a text as it is from the tree of the text. -/
theorem agrees_decoder : decoder.Agrees := by
  intro depth text tree rest read distinct
  cases Json.stands_of_readValue read with
  | object starts areMembers =>
      have whole := Json.Record.readMembers_eq agrees_record (notes_readField _) areMembers distinct
      rw [noteMembers_eq, ofMembers?_fields] at whole
      simp only [decoder, starts]
      rcases Json.ok_or_error_of_toOption whole with
        ⟨packet, isRead, isPacket⟩ | ⟨fault, isFault, none⟩
      · obtain ⟨typed, isRecord, rfl⟩ := Option.map_eq_some_iff.mp isPacket
        rw [isRead, isRecord]
        exact toOption_settled _ rest
      · rw [isFault, Option.map_eq_none_iff.mp none]
        rfl
  | unsigned starts isDigit isNumber =>
      simp only [decoder, starts]
      split
      next opens =>
        exact absurd opens (Json.Decoder.cons_ne_of_isDigit isDigit rfl)
      next opens =>
        exact absurd opens (Json.Decoder.cons_ne_of_isDigit isDigit rfl)
      · rfl
  | null starts | yes starts | no starts | signed starts | string starts | array starts =>
      simp only [decoder, starts]
      rfl

end Packet

/-! ## Members by name -/

section ByName

variable {α β γ : Type} {key : String} {put : β → α → α}

/-- What an optional member stands for. One that is missing is as good as `null`. -/
def given? (decoder : Json.Decoder (Option β)) : Option Json → Option (Option β)
  | none => some none
  | some tree => decoder.ofValue? .refused tree

theorem bind_change?_required (decoder : Json.Decoder β) (given : Option Json) (value : α)
    (next : α → Option γ) :
    (((Json.Field.of key true decoder put).change? .refused given).bind fun change =>
        next (change value)) =
      (given.bind (decoder.ofValue? .refused)).bind fun held => next (put held value) := by
  cases given with
  | none => rfl
  | some tree => exact Option.bind_map

theorem bind_change?_optional {put : Option β → α → α} (decoder : Json.Decoder (Option β))
    (given : Option Json) {value : α} (absent : put none value = value) (next : α → Option γ) :
    (((Json.Field.of key false decoder put).change? .refused given).bind fun change =>
        next (change value)) =
      (given? decoder given).bind fun held => next (put held value) := by
  cases given with
  | none => exact congrArg next absent.symm
  | some tree => exact Option.bind_map

theorem bind_survives {ofValue? : Json → Option β} (survives : Json.SurvivesSettling ofValue?)
    {given held : Option Json} (related : Option.Rel Json.SettlesTo given held)
    (good : (∀ tree ∈ given, tree.IsPlain) ∨ (given.bind ofValue?).isSome) :
    held.bind ofValue? = given.bind ofValue? := by
  cases related with
  | none => rfl
  | some settles => exact survives _ _ settles (good.imp_left fun plain => plain _ rfl)

theorem given?_survives {decoder : Json.Decoder (Option β)} (survives : decoder.Survives)
    {given held : Option Json} (related : Option.Rel Json.SettlesTo given held)
    (good : (∀ tree ∈ given, tree.IsPlain) ∨ (given? decoder given).isSome) :
    given? decoder held = given? decoder given := by
  cases related with
  | none => rfl
  | some settles => exact survives _ _ settles (good.imp_left fun plain => plain _ rfl)

end ByName

/-- The typed members of a packet. -/
theorem Packet.ofMembers?_eq (members : List (String × Json)) :
    Json.Record.ofMembers? .refused members record.fields record.start =
      ((Json.lookup? "type" members).bind (Json.Decoder.text.ofValue? .refused)).bind fun kind =>
        (given? (.optional .text) (Json.lookup? "sessionId" members)).bind fun session =>
          some ⟨kind, session, []⟩ := by
  rw [record, Json.Record.ofMembers?_eq, bind_change?_required]
  refine Option.bind_congr fun kind _ => ?_
  rw [Json.Record.ofMembers?_eq, bind_change?_optional _ _ rfl]
  rfl

/-- The members of a request. -/
theorem Request.ofMembers?_eq (members : List (String × Json)) :
    Json.Record.ofMembers? .refused members record.fields record.start =
      ((Json.lookup? "message" members).bind (Json.Decoder.text.ofValue? .refused)).bind
        fun message =>
          (given? (.optional .text) (Json.lookup? "sessionId" members)).bind fun session =>
            (given? (.optional .text) (Json.lookup? "backendId" members)).bind fun backend =>
              (given? (.optional (.list Image.record.decoder))
                (Json.lookup? "images" members)).bind fun images =>
                  some ⟨message, session, backend, images⟩ := by
  rw [record, Json.Record.ofMembers?_eq, bind_change?_required]
  refine Option.bind_congr fun message _ => ?_
  rw [Json.Record.ofMembers?_eq, bind_change?_optional _ _ rfl]
  refine Option.bind_congr fun session _ => ?_
  rw [Json.Record.ofMembers?_eq, bind_change?_optional _ _ rfl]
  refine Option.bind_congr fun backend _ => ?_
  rw [Json.Record.ofMembers?_eq, bind_change?_optional _ _ rfl]
  rfl

/-! ## Where a packet comes from -/

namespace Packet

/-- A packet and the members of the tree that it is read from: the typed members are decoded from
them, and the fields are what the others settle to. -/
structure ComesFrom (packet : Packet) (members : List (String × Json)) : Prop where
  message : packet.IsMessage
  kind : (Json.lookup? "type" members).bind (Json.Decoder.text.ofValue? .refused) =
    some packet.kind
  session : given? (.optional .text) (Json.lookup? "sessionId" members) = some packet.session
  field : ∀ key, isTyped key = false →
    Option.Rel Json.SettlesTo (Json.lookup? key members) (Json.lookup? key packet.fields)

theorem lookup?_untyped {key : String} (untyped : isTyped key = false)
    (members : List (String × Json)) :
    Json.lookup? key (members.filter fun member => ! isTyped member.1) =
      Json.lookup? key members := by
  induction members with
  | nil => rfl
  | cons member rest inductionHypothesis =>
      obtain ⟨other, tree⟩ := member
      by_cases same : other = key
      · subst same
        rw [List.filter_cons_of_pos (by simp [untyped]), Json.lookup?_cons_self,
          Json.lookup?_cons_self]
      · rw [Json.lookup?_cons_of_ne same, ← inductionHypothesis, List.filter_cons]
        split
        · rw [Json.lookup?_cons_of_ne same]
        · rfl

/-- A packet that is read comes from the members of the tree of its text, if their keys are
distinct. -/
theorem comesFrom_of_parse {text : String} {packet : Packet} {members : List (String × Json)}
    (read : parse text = .ok packet)
    (isTree : Json.parseTree Json.nestingLimit text = .ok (.object members))
    (distinct : (Json.object members).KeysDistinct) : packet.ComesFrom members := by
  have decoded := agrees_decoder.toOption_parse isTree distinct
  rw [(parse_eq_ok.mp read).1] at decoded
  obtain ⟨typed, isTyped, settles⟩ := Option.bind_eq_some_iff.mp decoded.symm
  obtain ⟨settled, are, rfl⟩ := Option.map_eq_some_iff.mp settles
  rw [ofMembers?_eq] at isTyped
  obtain ⟨kind, isKind, rest⟩ := Option.bind_eq_some_iff.mp isTyped
  obtain ⟨session, isSession, same⟩ := Option.bind_eq_some_iff.mp rest
  cases same
  refine ⟨isMessage_of_parse read, isKind, isSession, fun key untyped => ?_⟩
  obtain ⟨keys, inside⟩ := Json.everyObject_object.mp distinct
  have apart : (settled.map Prod.fst).Nodup :=
    Json.keys_settleMembers are ▸ keys.sublist (List.filter_sublist.map Prod.fst)
  have related := Json.lookup?_settleMembers are
    (fun member isMember => inside member (List.mem_filter.mp isMember).1) key
  rw [Json.lookup?_sortMembers apart]
  rw [← lookup?_untyped untyped members]
  exact related

/-! ## The value of a packet -/

section Value

variable {packet : Packet}

theorem IsMessage.keys_members (message : packet.IsMessage) :
    (packet.members.map Prod.fst).Nodup := by
  have ascend := Json.keysAscend_iff_pairwise.mp (Json.ordered_object.mp message.ordered).1
  have apart : (packet.fields.map Prod.fst).Nodup := ascend.imp fun before => by
    rintro rfl
    exact String.lt_irrefl _ before
  have noType : "type" ∉ packet.fields.map Prod.fst := by
    intro inside
    obtain ⟨field, isField, same⟩ := List.mem_map.mp inside
    exact (message.untyped field isField).1 same
  have noSession : "sessionId" ∉ packet.fields.map Prod.fst := by
    intro inside
    obtain ⟨field, isField, same⟩ := List.mem_map.mp inside
    exact (message.untyped field isField).2 same
  rw [members, List.map_cons, List.map_append]
  cases packet.session with
  | none =>
      exact List.nodup_cons.mpr ⟨noType, apart⟩
  | some session =>
      refine List.nodup_cons.mpr ⟨?_, List.nodup_cons.mpr ⟨noSession, apart⟩⟩
      exact List.not_mem_cons_of_ne_of_not_mem (show "type" ≠ "sessionId" by decide) noType

theorem IsMessage.lookup?_type (message : packet.IsMessage) :
    Json.lookup? "type" (Json.sortMembers packet.members) = some (.string packet.kind) := by
  rw [Json.lookup?_sortMembers message.keys_members, members, Json.lookup?_cons_self]

theorem lookup?_eq_none {key : String} {fields : List (String × Json)}
    (absent : ∀ field ∈ fields, field.1 ≠ key) : Json.lookup? key fields = none := by
  simpa [Json.lookup?] using absent

theorem IsMessage.lookup?_session (message : packet.IsMessage) :
    Json.lookup? "sessionId" (Json.sortMembers packet.members) =
      packet.session.map Json.string := by
  rw [Json.lookup?_sortMembers message.keys_members, members,
    Json.lookup?_cons_of_ne (by decide)]
  cases packet.session with
  | none => exact lookup?_eq_none fun field inside => (message.untyped field inside).2
  | some session => exact Json.lookup?_cons_self _ _ _

theorem IsMessage.given?_session (message : packet.IsMessage) :
    given? (.optional .text) (Json.lookup? "sessionId" (Json.sortMembers packet.members)) =
      some packet.session := by
  rw [message.lookup?_session]
  cases packet.session <;> rfl

theorem IsMessage.lookup?_field (message : packet.IsMessage) {key : String}
    (untyped : isTyped key = false) :
    Json.lookup? key (Json.sortMembers packet.members) = Json.lookup? key packet.fields := by
  obtain ⟨notType, notSession⟩ := isTyped_eq_false.mp untyped
  rw [Json.lookup?_sortMembers message.keys_members, members,
    Json.lookup?_cons_of_ne notType.symm]
  cases packet.session with
  | none => rfl
  | some session => exact Json.lookup?_cons_of_ne notSession.symm _ _

/-- The members of the value that are not typed are the fields. -/
theorem IsMessage.filter_untyped (message : packet.IsMessage) :
    ((Json.sortMembers packet.members).filter fun member => ! isTyped member.1) =
      packet.fields := by
  have ascendOf : ∀ {members : List (String × Json)}, Json.KeysAscend members →
      members.Pairwise fun member other => member.1 < other.1 := fun ascend =>
    List.pairwise_map.mp (Json.keysAscend_iff_pairwise.mp ascend)
  have typed : (packet.members.filter fun member => ! isTyped member.1) = packet.fields := by
    have kept : (packet.fields.filter fun member => ! isTyped member.1) = packet.fields :=
      List.filter_eq_self.mpr fun field inside => by
        rw [isTyped_eq_false.mpr (message.untyped field inside)]
        rfl
    rw [members]
    cases packet.session with
    | none => exact kept
    | some session => exact kept
  have perm := (Json.perm_sortMembers message.keys_members).filter fun member =>
    ! isTyped member.1
  rw [typed] at perm
  refine perm.eq_of_pairwise ?_ ((ascendOf (Json.keysAscend_sortMembers _)).filter _)
    (ascendOf (Json.ordered_object.mp message.ordered).1)
  intro member other _ _ before after
  exact absurd (String.lt_trans before after) (String.lt_irrefl _)

/-- Seen as a packet, a packet has its fields settled once more. -/
theorem IsMessage.view?_packet (message : packet.IsMessage) :
    packet.view? decoder = packet.settle? := by
  show (Json.Record.ofMembers? .refused (Json.sortMembers packet.members) record.fields
    record.start).bind _ = _
  rw [ofMembers?_eq, message.lookup?_type, message.given?_session]
  exact congrArg (fun fields => settle? { packet with fields }) message.filter_untyped

end Value

/-! ## The views of a packet -/

section OfMembers

variable {packet : Packet} {members : List (String × Json)}

theorem ComesFrom.related (source : packet.ComesFrom members) {key : String}
    (untyped : isTyped key = false) :
    Option.Rel Json.SettlesTo (Json.lookup? key members)
      (Json.lookup? key (Json.sortMembers packet.members)) := by
  rw [source.message.lookup?_field untyped]
  exact source.field key untyped

theorem ComesFrom.view?_pong (source : packet.ComesFrom members) :
    packet.view? Pong.record.decoder =
      Pong.record.decoder.ofValue? .refused (.object members) := by
  refine Json.Record.ofMembers?_congr (List.forall_mem_singleton.mpr ?_) _
  obtain ⟨tree, isTree, isText⟩ := Option.bind_eq_some_iff.mp source.kind
  show Json.lookup? "type" (Json.sortMembers packet.members) = Json.lookup? "type" members
  rw [source.message.lookup?_type, isTree]
  cases tree <;> cases isText
  rfl

theorem ComesFrom.view?_backoff (source : packet.ComesFrom members)
    (good : Settings.Backoff.record.GivenPlain (.object members) ∨
      (Settings.Backoff.record.decoder.ofValue? .refused (.object members)).isSome) :
    packet.view? Settings.Backoff.record.decoder =
      Settings.Backoff.record.decoder.ofValue? .refused (.object members) := by
  refine Json.Record.ofMembers?_survives Settings.Backoff.survive_fields
    (fun field inside => ?_) _ good
  have untyped : isTyped field.key = false := by
    revert field
    decide
  exact source.related untyped

theorem ComesFrom.view?_request (source : packet.ComesFrom members)
    (good : Request.record.GivenPlain (.object members) ∨
      (Request.record.decoder.ofValue? .refused (.object members)).isSome) :
    packet.view? Request.record.decoder =
      Request.record.decoder.ofValue? .refused (.object members) := by
  have plainAt : ∀ key ∈ Request.record.fields.map Json.Field.key,
      Request.record.GivenPlain (.object members) →
      ∀ tree ∈ Json.lookup? key members, tree.IsPlain := fun key inside plain => by
    obtain ⟨field, isField, rfl⟩ := List.mem_map.mp inside
    exact plain field isField
  have whole : Request.record.GivenPlain (.object members) ∨
    (Json.Record.ofMembers? .refused members Request.record.fields
      Request.record.start).isSome := good
  show Json.Record.ofMembers? .refused (Json.sortMembers packet.members) Request.record.fields
      Request.record.start =
    Json.Record.ofMembers? .refused members Request.record.fields Request.record.start
  rw [Request.ofMembers?_eq] at whole ⊢
  rw [Request.ofMembers?_eq]
  -- The packet itself tells the session, `null` or missing; the other members settle one by one.
  rw [bind_survives Json.Decoder.survives_text
    (source.related (show isTyped "message" = false from rfl))
    (whole.imp (plainAt "message" (by decide)) fun whole => (Json.isSome_of_bind whole).1)]
  refine Option.bind_congr fun message isMessage => ?_
  have fromSession := whole.imp_right fun whole => (Json.isSome_of_bind whole).2 message isMessage
  rw [source.session, Option.bind_some] at fromSession
  rw [source.message.given?_session, source.session, Option.bind_some, Option.bind_some]
  rw [given?_survives (Json.Decoder.survives_optional rfl Json.Decoder.survives_text)
    (source.related (show isTyped "backendId" = false from rfl))
    (fromSession.imp (plainAt "backendId" (by decide)) fun whole => (Json.isSome_of_bind whole).1)]
  refine Option.bind_congr fun backend isBackend => ?_
  have fromBackend := fromSession.imp_right fun whole =>
    (Json.isSome_of_bind whole).2 backend isBackend
  rw [given?_survives (Json.Decoder.survives_optional rfl
      (Json.Decoder.survives_list Image.survives_record))
    (source.related (show isTyped "images" = false from rfl))
    (fromBackend.imp (plainAt "images" (by decide)) fun whole => (Json.isSome_of_bind whole).1)]

end OfMembers

/-- For a packet that is read from a text without repeated keys: seen as a packet it is itself if
and only if no object in its fields begins with the reserved key, and seen as a pong it is what the
text is decoded as. Whatever request or backoff the text is decoded as, the packet is seen as it
too, and it is seen as nothing else if what the text gives for the fields of the type embeds no
text. A text without the reserved key meets these conditions. -/
theorem views_agree {text : String} {packet : Packet} {tree : Json}
    (read : parse text = .ok packet)
    (isTree : Json.parseTree Json.nestingLimit text = .ok tree) (distinct : tree.KeysDistinct) :
    (packet.view? decoder = some packet ↔ packet.IsPlain) ∧
    packet.view? Pong.record.decoder = (Pong.parse text).toOption ∧
    (∀ request, Request.parse text = .ok request →
      packet.view? Request.record.decoder = some request) ∧
    (∀ backoff, Settings.Backoff.record.decoder.parse text = .ok backoff →
      packet.view? Settings.Backoff.record.decoder = some backoff) ∧
    (Request.record.GivenPlain tree →
      packet.view? Request.record.decoder = (Request.parse text).toOption) ∧
    (Settings.Backoff.record.GivenPlain tree →
      packet.view? Settings.Backoff.record.decoder =
        (Settings.Backoff.record.decoder.parse text).toOption) ∧
    (tree.IsUnreserved → packet.IsPlain ∧ Request.record.GivenPlain tree ∧
      Settings.Backoff.record.GivenPlain tree) := by
  obtain ⟨members, settled, isObject, -, -⟩ := tree_of_parse read
  obtain rfl : tree = .object members := Except.ok.inj (isTree.symm.trans isObject)
  have source := comesFrom_of_parse read isTree distinct
  have pong := (Json.Record.agrees_decoder Pong.agrees_record).toOption_parse isTree distinct
  have request :=
    (Json.Record.agrees_decoder Request.agrees_record).toOption_parse isTree distinct
  have backoff :=
    (Json.Record.agrees_decoder Settings.Backoff.agrees_record).toOption_parse isTree distinct
  refine ⟨?_, ?_, ?_, ?_, ?_, ?_, ?_⟩
  · rw [source.message.view?_packet]
    exact settle?_eq_self_iff source.message
  · rw [source.view?_pong]
    exact pong.symm
  · intro decoded isDecoded
    have found := request.symm.trans (Json.toOption_eq_some.mpr isDecoded)
    rw [source.view?_request (Or.inr (by rw [found]; rfl)), found]
  · intro decoded isDecoded
    have found := backoff.symm.trans (Json.toOption_eq_some.mpr isDecoded)
    rw [source.view?_backoff (Or.inr (by rw [found]; rfl)), found]
  · intro plain
    rw [source.view?_request (Or.inl plain)]
    exact request.symm
  · intro plain
    rw [source.view?_backoff (Or.inl plain)]
    exact backoff.symm
  · intro unreserved
    have plain : ∀ member ∈ members, member.2.IsPlain := fun member inside =>
      Json.IsUnreserved.isPlain ((Json.everyObject_object.mp unreserved).2 member inside)
    exact ⟨(isPlain_of_parse read isTree unreserved).1, Json.Record.givenPlain_of_isPlain plain,
      Json.Record.givenPlain_of_isPlain plain⟩

/-- A packet that is a request with an image and a limit on attempts too. -/
def picture : Packet :=
  ⟨"picture", some "s", [("images", .array [.array [.string "aGk="]]), ("max_attempts", .ofNat 3),
    ("message", .string "hi")]⟩

theorem views_agree_of_picture :
    (parse picture.render = .ok picture ∧
      Json.parseTree Json.nestingLimit picture.render = .ok (.object picture.members) ∧
      (Json.object picture.members).KeysDistinct) ∧
    picture.view? decoder = some picture ∧
    (Pong.parse picture.render).toOption = some ⟨"picture"⟩ ∧
    (Request.parse picture.render = .ok ⟨"hi", some "s", none, some [⟨"aGk=", none⟩]⟩ ∧
      picture.view? Request.record.decoder =
        some ⟨"hi", some "s", none, some [⟨"aGk=", none⟩]⟩) ∧
    (Settings.Backoff.record.decoder.parse picture.render =
        .ok { Settings.Backoff.standard with attemptLimit := 3 } ∧
      picture.view? Settings.Backoff.record.decoder =
        some { Settings.Backoff.standard with attemptLimit := 3 }) := by
  have ascend : Json.KeysAscend picture.fields := by
    rw [Json.keysAscend_iff_pairwise]
    decide
  have message : picture.IsMessage := by
    refine ⟨by decide, by decide, Json.ordered_object.mpr ⟨ascend, ?_⟩⟩
    simp [picture, Json.Ordered, Json.OrderedItems, Json.ofNat, Json.Number.Readable, greatestWord]
  have integral : picture.IsIntegral := by
    simp [IsIntegral, picture, Json.EveryNumber, Json.EveryNumberOfMembers,
      Json.EveryNumberOfItems, Json.ofNat, Json.Number.IsInteger, greatestWord]
  have unreserved : (Json.object picture.members).IsUnreserved := by
    simp [Json.IsUnreserved, picture, members, Json.EveryObject, Json.EveryObjectOfMembers,
      Json.EveryObjectOfItems, Json.embeddingKey, Json.ofNat]
  have distinct : (Json.object picture.members).KeysDistinct := by
    simp [Json.KeysDistinct, picture, members, Json.EveryObject, Json.EveryObjectOfMembers,
      Json.EveryObjectOfItems, Json.ofNat]
  have shallow : picture.depth ≤ Json.nestingLimit := by decide
  have tree := Json.parseTree_render integral.members shallow
  have read : parse picture.render = .ok picture := by
    have plain : picture.IsPlain := fun field inside =>
      (Json.everyObject_object.mp unreserved.isPlain).2 field
        (List.mem_cons_of_mem _ (List.mem_cons_of_mem _ inside))
    rw [parse_render message integral shallow, (settle?_eq_self_iff message).mpr plain]
    rfl
  obtain ⟨itself, pong, request, backoff, sameRequest, sameBackoff, free⟩ :=
    views_agree read tree distinct
  obtain ⟨plain, plainRequest, plainBackoff⟩ := free unreserved
  have isRequest : Request.parse picture.render =
      .ok ⟨"hi", some "s", none, some [⟨"aGk=", none⟩]⟩ :=
    Json.toOption_eq_some.mp ((sameRequest plainRequest).symm.trans rfl)
  have isBackoff : Settings.Backoff.record.decoder.parse picture.render =
      .ok { Settings.Backoff.standard with attemptLimit := 3 } :=
    Json.toOption_eq_some.mp ((sameBackoff plainBackoff).symm.trans rfl)
  exact ⟨⟨read, tree, distinct⟩, itself.mpr plain, pong.symm.trans rfl,
    ⟨isRequest, request _ isRequest⟩, ⟨isBackoff, backoff _ isBackoff⟩⟩

/-- What is read from a kind and fields in any order. -/
theorem parse_fields {kind : String} {fields : List (String × Json)} {packet : Packet}
    (hasKind : kind ≠ "") (untyped : ∀ field ∈ fields, field.1 ≠ "type" ∧ field.1 ≠ "sessionId")
    (integral : (Json.object fields).EveryNumber Json.Number.IsInteger)
    (shallow : ∀ field ∈ fields, field.2.depth ≤ 126)
    (settles : settle? ⟨kind, none, fields⟩ = some packet) :
    parse (Json.object (("type", .string kind) :: fields)).render = .ok packet := by
  have noSession : Json.ReadsMembers (record.readMember (readField 126) 126)
      ⟨ofKind kind, ["type"]⟩ [] ⟨⟨kind, none, []⟩, ["type"]⟩ := .nil _
  have read := read_members noSession List.mem_cons_self untyped integral shallow []
  rw [List.append_nil, settles] at read
  obtain ⟨values, -, rfl⟩ := Option.map_eq_some_iff.mp settles
  refine parse_eq_ok.mpr ⟨Json.complete_eq_ok.mpr ⟨[], ?_, rfl⟩, hasKind⟩
  rw [Json.render, String.toList_ofList]
  exact read

/-- A field with an object in which the reserved key comes last. -/
def hidden : List (String × Json) :=
  [("type", .string "x"),
    ("a", .object [("b", .ofNat 1), (Json.embeddingKey, .string "1")])]

/-- A message that embeds a text. -/
def spoken : List (String × Json) :=
  [("type", .string "x"), ("message", .object [(Json.embeddingKey, .string "\"hi\"")])]

/-- A packet need not be itself when it is seen as a packet, and it may be seen as a request that
its text is not. -/
theorem views_of_embedding :
    (Json.parseTree Json.nestingLimit (Json.object hidden).render = .ok (.object hidden) ∧
      (Json.object hidden).KeysDistinct ∧
      ∃ packet, parse (Json.object hidden).render = .ok packet ∧ packet.view? decoder = none) ∧
    (Json.parseTree Json.nestingLimit (Json.object spoken).render = .ok (.object spoken) ∧
      (Json.object spoken).KeysDistinct ∧
      ∃ packet, parse (Json.object spoken).render = .ok packet ∧
      packet.view? Request.record.decoder = some (Request.ofMessage "hi") ∧
      (Request.parse (Json.object spoken).render).toOption = none) := by
  have hiddenIntegral : (Json.object hidden).EveryNumber Json.Number.IsInteger := by
    simp [hidden, Json.EveryNumber, Json.EveryNumberOfMembers, Json.ofNat, Json.Number.IsInteger,
      greatestWord]
  have hiddenDistinct : (Json.object hidden).KeysDistinct := by
    simp [Json.KeysDistinct, hidden, Json.EveryObject, Json.EveryObjectOfMembers,
      Json.embeddingKey, Json.ofNat]
  have spokenIntegral : (Json.object spoken).EveryNumber Json.Number.IsInteger := by
    simp [spoken, Json.EveryNumber, Json.EveryNumberOfMembers]
  have spokenDistinct : (Json.object spoken).KeysDistinct := by
    simp [Json.KeysDistinct, spoken, Json.EveryObject, Json.EveryObjectOfMembers]
  have spokenTree := Json.parseTree_render spokenIntegral
    (show (Json.object spoken).depth ≤ Json.nestingLimit by decide)
  have request := (Json.Record.agrees_decoder Request.agrees_record).toOption_parse spokenTree
    spokenDistinct
  refine ⟨⟨Json.parseTree_render hiddenIntegral (by decide), hiddenDistinct,
    ⟨"x", none, [("a", .object [(Json.embeddingKey, .string "1"), ("b", .ofNat 1)])]⟩, ?_, rfl⟩,
    ⟨spokenTree, spokenDistinct, ⟨"x", none, [("message", .string "hi")]⟩, ?_, rfl, request⟩⟩
  · refine parse_fields (by decide) (by decide) ?_ (by decide) rfl
    simp [Json.EveryNumber, Json.EveryNumberOfMembers, Json.ofNat, Json.Number.IsInteger,
      greatestWord]
  · refine parse_fields (by decide) (by decide) ?_ (by decide) rfl
    simp [Json.EveryNumber, Json.EveryNumberOfMembers]

end Packet

end Parley.Wire
