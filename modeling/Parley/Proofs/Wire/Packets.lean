import Parley.Proofs.Json.Lockstep
import Parley.Proofs.Json.Records
import Parley.Proofs.Json.Settling
import Parley.Wire.Packet

/-!
# Packets read back

What the text of a packet is read as, and what every packet that is read is like. A packet without
doubles is read back from its text if and only if no object among its fields begins with the key
that is reserved for embedded texts and the text is not nested too deeply.
-/

namespace Parley.Wire.Packet

/-- The key names a typed member. -/
def isTyped (key : String) : Bool :=
  record.fields.any (·.key == key)

theorem isTyped_eq_false {key : String} :
    isTyped key = false ↔ key ≠ "type" ∧ key ≠ "sessionId" := by
  rw [isTyped, record, List.any_cons, List.any_cons, List.any_nil, Bool.or_false,
    Bool.or_eq_false_iff, beq_eq_false_iff_ne, beq_eq_false_iff_ne]
  exact and_congr ne_comm ne_comm

theorem find?_record_eq_none {key : String} :
    record.fields.find? (·.key == key) = none ↔ isTyped key = false := by
  rw [List.find?_eq_none, isTyped, List.any_eq_false]

/-! ## The tree of a packet -/

/-- A typed member is read where a tree stands, and leaves the fields alone. -/
theorem read_typed {field : Json.Field Packet} (member : field ∈ record.fields) {depth : Nat}
    {text rest : List Char} {change : Packet → Packet}
    (read : field.read depth text = .ok (change, rest)) :
    (∃ tree, Json.readValue depth text = .ok (tree, rest)) ∧
      ∀ packet, (change packet).fields = packet.fields := by
  simp only [record, List.mem_cons, List.not_mem_nil, or_false] at member
  rcases member with rfl | rfl
  · obtain ⟨⟨kind, after⟩, isKind, same⟩ := Json.bind_eq_ok.mp read
    cases same
    exact ⟨Json.readsTrees_text _ _ _ _ isKind, fun packet => rfl⟩
  · obtain ⟨⟨session, after⟩, isSession, same⟩ := Json.bind_eq_ok.mp read
    cases same
    exact ⟨Json.readsTrees_optional Json.readsTrees_text _ _ _ _ isSession, fun packet => rfl⟩

/-- The fields are the members, in reverse, that are not typed. -/
def Holds (draft : Json.Draft Packet) (members : List (String × Json)) : Prop :=
  draft.value.fields = members.reverse.filter fun member => ! isTyped member.1

/-- Each member of a packet is read as a member of a tree. -/
theorem readMember_follows {depth : Nat} {draft next : Json.Draft Packet}
    {members : List (String × Json)} {key : String} {text rest : List Char}
    (holds : Holds draft members)
    (read : record.readMember (readField depth) depth draft key text = .ok (next, rest)) :
    ∃ nextMembers,
      (do let (value, rest) ← Json.readValue depth (← Json.expectColon text)
          .ok ((key, value) :: members, rest)) = .ok (nextMembers, rest) ∧
        Holds next nextMembers := by
  rw [Json.Record.readMember] at read
  split at read
  next field found =>
    split at read
    · cases read
    · obtain ⟨colon, isColon, isField⟩ := Json.bind_eq_ok.mp read
      obtain ⟨⟨change, left⟩, isChange, same⟩ := Json.bind_eq_ok.mp isField
      cases same
      obtain ⟨⟨tree, isTree⟩, keeps⟩ := read_typed (List.mem_of_find?_eq_some found) isChange
      have named := List.find?_some found
      have typed : isTyped key = true :=
        List.any_eq_true.mpr ⟨field, List.mem_of_find?_eq_some found, named⟩
      refine ⟨(key, tree) :: members,
        Json.bind_eq_ok.mpr ⟨colon, isColon, Json.bind_eq_ok.mpr ⟨(tree, _), isTree, rfl⟩⟩, ?_⟩
      simpa [Holds, keeps, typed] using holds
  next found =>
    obtain ⟨colon, isColon, isOther⟩ := Json.bind_eq_ok.mp read
    obtain ⟨⟨packet, left⟩, isField, same⟩ := Json.bind_eq_ok.mp isOther
    cases same
    obtain ⟨⟨tree, after⟩, isTree, same⟩ := Json.bind_eq_ok.mp isField
    cases same
    have untyped : isTyped key = false := find?_record_eq_none.mp found
    refine ⟨(key, tree) :: members,
      Json.bind_eq_ok.mpr ⟨colon, isColon, Json.bind_eq_ok.mpr ⟨(tree, _), isTree, rfl⟩⟩, ?_⟩
    simpa [Holds, untyped] using holds

/-- The packet that is read is that of a tree: its fields are what the members of the tree that are
not typed stand for. -/
theorem tree_of_read {depth : Nat} {text rest : List Char} {packet : Packet}
    (read : decoder.read depth text = .ok (packet, rest)) :
    ∃ members settled, Json.readValue depth text = .ok (.object members, rest) ∧
      Json.settleMembers Json.value? (members.filter fun member => ! isTyped member.1) =
        some settled ∧
      packet.fields = Json.sortMembers settled := by
  simp only [decoder] at read
  split at read
  · cases read
  next depth starts =>
    obtain ⟨⟨unsettled, after⟩, areMembers, settles⟩ := Json.bind_eq_ok.mp read
    obtain ⟨⟨draft, left⟩, folded, complete⟩ := Json.bind_eq_ok.mp areMembers
    simp only at complete settles
    split at complete
    · cases complete
      obtain ⟨members, areTrees, holds⟩ := Json.foldMembers_lockstep Holds
        (fun members key text => do
          let (value, rest) ← Json.readValue depth (← Json.expectColon text)
          .ok ((key, value) :: members, rest))
        (fun _ _ _ _ _ _ => readMember_follows) (show Holds ⟨record.start, []⟩ [] from rfl) folded
      cases isSettled : draft.value.settle? with
      | none =>
          rw [isSettled] at settles
          cases settles
      | some settledPacket =>
          rw [isSettled] at settles
          cases settles
          obtain ⟨settled, are, rfl⟩ := Option.map_eq_some_iff.mp isSettled
          rw [holds] at are
          refine ⟨members.reverse, settled, ?_, are, rfl⟩
          rw [Json.readValue, Json.readWith]
          simp only [starts]
          exact Json.bind_eq_ok.mpr ⟨(members, _), areTrees, rfl⟩
    · cases complete
  · cases read

/-! ## Packets that are read -/

/-- A packet as every text yields it: it has a kind, no field stands under the key of a typed
member, and the fields are values under ascending keys. -/
structure IsMessage (packet : Packet) : Prop where
  kind : packet.kind ≠ ""
  untyped : ∀ field ∈ packet.fields, field.1 ≠ "type" ∧ field.1 ≠ "sessionId"
  ordered : (Json.object packet.fields).Ordered

theorem parse_eq_ok {text : String} {packet : Packet} :
    parse text = .ok packet ↔ decoder.parse text = .ok packet ∧ packet.kind ≠ "" := by
  rw [parse]
  cases decoder.parse text with
  | error fault => simp
  | ok found =>
      simp only [Except.ok.injEq]
      constructor
      · intro hasKind
        split at hasKind
        · cases hasKind
        next present =>
          cases hasKind
          exact ⟨rfl, by simpa using present⟩
      · rintro ⟨rfl, present⟩
        rw [if_neg (by simpa using present)]

/-- The tree of a text that holds a packet. -/
theorem tree_of_parse {text : String} {packet : Packet} (read : parse text = .ok packet) :
    ∃ members settled, Json.parseTree Json.nestingLimit text = .ok (.object members) ∧
      Json.settleMembers Json.value? (members.filter fun member => ! isTyped member.1) =
        some settled ∧
      packet.fields = Json.sortMembers settled := by
  obtain ⟨rest, isPacket, blank⟩ := Json.complete_eq_ok.mp (parse_eq_ok.mp read).1
  obtain ⟨members, settled, isTree, are, fields⟩ := tree_of_read isPacket
  exact ⟨members, settled, Json.complete_eq_ok.mpr ⟨rest, isTree, blank⟩, are, fields⟩

/-- Every packet that is read is one that a text can yield. -/
theorem isMessage_of_parse {text : String} {packet : Packet} (read : parse text = .ok packet) :
    packet.IsMessage := by
  obtain ⟨members, settled, isTree, are, fields⟩ := tree_of_parse read
  obtain ⟨readable, -, -⟩ := Json.yields_parseTree isTree
  rw [Json.everyNumber_object] at readable
  have pairs := Json.settleMembers_eq_some.mp are
  refine ⟨(parse_eq_ok.mp read).2, ?_, ?_⟩
  · intro field inside
    rw [fields] at inside
    obtain ⟨member, isMember, sameKey, -⟩ :=
      Json.exists_of_mem_forall₂ pairs (Json.mem_of_mem_sortMembers inside)
    have untyped := (List.mem_filter.mp isMember).2
    rw [sameKey] at untyped
    exact isTyped_eq_false.mp (by simpa using untyped)
  · rw [fields, Json.ordered_object]
    refine ⟨Json.keysAscend_sortMembers settled, fun field inside => ?_⟩
    obtain ⟨member, isMember, -, isValue⟩ :=
      Json.exists_of_mem_forall₂ pairs (Json.mem_of_mem_sortMembers inside)
    exact (Json.settle_ordered Json.expands_value?
      (readable member (List.mem_filter.mp isMember).1) isValue).1

/-! ## Packets that are written -/

/-- Every number in the fields is an integer that fits a word. -/
def IsIntegral (packet : Packet) : Prop :=
  (Json.object packet.fields).EveryNumber Json.Number.IsInteger

/-- No object among the fields begins with the key that is reserved for embedded texts. -/
def IsPlain (packet : Packet) : Prop :=
  ∀ field ∈ packet.fields, field.2.IsPlain

/-- How many arrays and objects are nested in the text of the packet, with itself. -/
def depth (packet : Packet) : Nat :=
  (Json.object packet.members).depth

theorem mem_members {packet : Packet} {member : String × Json}
    (inside : member ∈ packet.members) :
    (∃ text, member.2 = .string text) ∨ member ∈ packet.fields := by
  rw [members, List.mem_cons, List.mem_append, Option.mem_toList, Option.map_eq_some_iff] at inside
  rcases inside with rfl | ⟨session, -, rfl⟩ | isField
  · exact Or.inl ⟨packet.kind, rfl⟩
  · exact Or.inl ⟨session, rfl⟩
  · exact Or.inr isField

theorem IsIntegral.members {packet : Packet} (integral : packet.IsIntegral) :
    (Json.object packet.members).EveryNumber Json.Number.IsInteger := by
  rw [IsIntegral, Json.everyNumber_object] at integral
  rw [Json.everyNumber_object]
  intro member inside
  rcases mem_members inside with ⟨text, isText⟩ | isField
  · rw [isText]
    trivial
  · exact integral member isField

/-- The fields are read one after the other behind those that are there. -/
theorem readsMembers_fields {fields : List (String × Json)} {depth : Nat}
    (untyped : ∀ field ∈ fields, field.1 ≠ "type" ∧ field.1 ≠ "sessionId")
    (reads : ∀ field ∈ fields, ∀ rest, Json.Breaks rest →
      Json.readValue depth (Json.renderValue field.2 ++ rest) = .ok (field.2, rest))
    (packet : Packet) (given : List String) :
    Json.ReadsMembers (record.readMember (readField depth) depth) ⟨packet, given⟩ fields
      ⟨{ packet with fields := packet.fields ++ fields }, given⟩ := by
  induction fields generalizing packet with
  | nil =>
      rw [List.append_nil]
      exact .nil _
  | cons field following inductionHypothesis =>
      obtain ⟨untypedFirst, untypedRest⟩ := List.forall_mem_cons.mp untyped
      obtain ⟨readsFirst, readsRest⟩ := List.forall_mem_cons.mp reads
      have rest := inductionHypothesis untypedRest readsRest
        { packet with fields := packet.fields ++ [field] }
      rw [List.append_assoc, List.singleton_append] at rest
      refine .cons (fun after breaks => ?_) rest
      have unknown := find?_record_eq_none.mpr (isTyped_eq_false.mpr untypedFirst)
      rw [Json.Record.readMember, unknown]
      simp only [show ∀ text, Json.expectColon (':' :: text) = .ok text from fun _ => rfl,
        readField, readsFirst after breaks, Bind.bind, Except.bind]

/-- What is read from a kind, what stands for the session, and fields. -/
theorem read_members {kind : String} {session : Option String}
    {sessionMembers fields : List (String × Json)} {depth : Nat} {given : List String}
    (readsSession : Json.ReadsMembers (record.readMember (readField depth) depth)
      ⟨ofKind kind, ["type"]⟩ sessionMembers ⟨⟨kind, session, []⟩, given⟩)
    (hasKind : "type" ∈ given)
    (untyped : ∀ field ∈ fields, field.1 ≠ "type" ∧ field.1 ≠ "sessionId")
    (integral : (Json.object fields).EveryNumber Json.Number.IsInteger)
    (shallow : ∀ field ∈ fields, field.2.depth ≤ depth) (rest : List Char) :
    decoder.read (depth + 1)
        (Json.renderValue (.object (("type", .string kind) :: (sessionMembers ++ fields))) ++
          rest) =
      (Packet.settle? ⟨kind, session, fields⟩).elim (.error .misfit) fun packet =>
        .ok (packet, rest) := by
  rw [Json.everyNumber_object] at integral
  have readsKind :=
    Json.Record.readsMembers_field record (readField depth) ⟨record.start, []⟩
      (show record.fields.find? (·.key == "type") = some _ from rfl) List.not_mem_nil
      (Json.Decoder.readsBack_text depth kind)
  have readsFields := readsMembers_fields untyped
    (fun field inside _ breaks => Json.readValue_renderValue (integral field inside)
      (shallow field inside) breaks)
    ⟨kind, session, []⟩ given
  have folded := Json.foldMembers_render (readsKind.append (readsSession.append readsFields)) rest
  have complete : record.isComplete ⟨⟨kind, session, fields⟩, given⟩ = true := by
    simpa [Json.Record.isComplete, record, Json.Field.of] using hasKind
  have isRead :
      record.readMembers (readField depth) depth
          (Json.renderMembers (("type", .string kind) :: (sessionMembers ++ fields)) ++ rest) =
        .ok (⟨kind, session, fields⟩, rest) :=
    Json.bind_eq_ok.mpr ⟨(⟨⟨kind, session, fields⟩, given⟩, rest), folded, if_pos complete⟩
  rw [Json.renderValue_object, List.cons_append]
  simp only [decoder, isRead,
    show ∀ text, Json.skipBlanks ('\x7b' :: text) = '\x7b' :: text from fun _ => rfl]
  rfl

theorem depth_le {packet : Packet} {limit : Nat} :
    packet.depth ≤ limit + 1 ↔ ∀ field ∈ packet.fields, field.2.depth ≤ limit := by
  rw [depth, Json.depth_object_le]
  constructor
  · intro shallow field inside
    exact shallow field (List.mem_cons_of_mem _ (List.mem_append_right _ inside))
  · intro shallow member inside
    rcases mem_members inside with ⟨text, isText⟩ | isField
    · rw [isText]
      exact Nat.zero_le _
    · exact shallow member isField

/-- The packet that is read from a kind, what stands for the session, and fields. -/
theorem parse_members {packet : Packet} {sessionMembers : List (String × Json)}
    {given : List String} (message : packet.IsMessage) (integral : packet.IsIntegral)
    (shallow : packet.depth ≤ Json.nestingLimit)
    (readsSession : Json.ReadsMembers (record.readMember (readField 126) 126)
      ⟨ofKind packet.kind, ["type"]⟩ sessionMembers
      ⟨⟨packet.kind, packet.session, []⟩, given⟩)
    (hasKind : "type" ∈ given) :
    parse (Json.object
        (("type", .string packet.kind) :: (sessionMembers ++ packet.fields))).render =
      packet.settle?.elim (.error (.json .misfit)) .ok := by
  have read := read_members readsSession hasKind message.untyped integral (depth_le.mp shallow) []
  rw [List.append_nil] at read
  rw [parse, Json.Decoder.parse, Json.render, String.toList_ofList]
  rw [show Json.nestingLimit = 126 + 1 from rfl, read]
  cases settles : packet.settle? with
  | none => rfl
  | some settled =>
      obtain ⟨values, -, rfl⟩ := Option.map_eq_some_iff.mp settles
      have hasKind : packet.kind.isEmpty = false := by simpa using message.kind
      simp only [Option.elim, Json.complete, Bind.bind, Except.bind, Json.skipBlanks,
        List.dropWhile_nil, List.isEmpty_nil, if_true, hasKind, Bool.false_eq_true, if_false]

theorem reads_session (kind : String) (session : Option String) (depth : Nat) :
    ∃ given, "type" ∈ given ∧
      Json.ReadsMembers (record.readMember (readField depth) depth) ⟨ofKind kind, ["type"]⟩
        (session.map fun session => ("sessionId", Json.string session)).toList
        ⟨⟨kind, session, []⟩, given⟩ := by
  cases session with
  | none =>
      exact ⟨["type"], List.mem_cons_self, .nil _⟩
  | some session =>
      refine ⟨["sessionId", "type"], by decide, ?_⟩
      exact Json.Record.readsMembers_field record (readField depth) ⟨ofKind kind, ["type"]⟩
        (show record.fields.find? (·.key == "sessionId") = some _ from rfl)
        (show "sessionId" ∉ ["type"] by decide)
        (Json.Decoder.readsBack_optional (Json.opensOther_string session)
          (Json.Decoder.readsBack_text depth session))

/-- The packet that is read from the text of a packet. -/
theorem parse_render {packet : Packet} (message : packet.IsMessage)
    (integral : packet.IsIntegral) (shallow : packet.depth ≤ Json.nestingLimit) :
    parse packet.render = packet.settle?.elim (.error (.json .misfit)) .ok := by
  obtain ⟨given, hasKind, readsSession⟩ := reads_session packet.kind packet.session 126
  exact parse_members message integral shallow readsSession hasKind

theorem settle?_eq_self_iff {packet : Packet} (message : packet.IsMessage) :
    packet.settle? = some packet ↔ packet.IsPlain := by
  obtain ⟨ascend, ordered⟩ := Json.ordered_object.mp message.ordered
  constructor
  · intro same field inside
    obtain ⟨values, are, samePacket⟩ := Option.map_eq_some_iff.mp same
    have each := Json.settle_member_of_sortMembers are ascend (congrArg Packet.fields samePacket)
    exact (Json.settle_eq_self_iff (ordered field inside)).mp (each field inside)
  · intro plain
    have each := Json.settleMembers_of_each fun field inside =>
      (Json.settle_eq_self_iff (ordered field inside)).mpr (plain field inside)
    rw [settle?, each, Option.map_some, Json.sortMembers_of_keysAscend ascend]

/-- A text that is too deep holds no packet: were it read, its tree would be the packet itself. -/
theorem depth_le_of_parse_render {packet : Packet} (integral : packet.IsIntegral)
    {read : Packet} (isRead : parse packet.render = .ok read) :
    packet.depth ≤ Json.nestingLimit := by
  obtain ⟨members, -, isTree, -⟩ := tree_of_parse isRead
  obtain ⟨-, shallow, -⟩ := Json.yields_parseTree isTree
  obtain ⟨rest, isValue, -⟩ := Json.complete_eq_ok.mp isTree
  have deeper := Json.extends_readValue (Nat.le_max_left Json.nestingLimit packet.depth) _ _ isValue
  have whole := Json.readValue_renderValue integral.members
    (Nat.le_max_right Json.nestingLimit packet.depth) (show Json.Breaks [] from trivial)
  rw [List.append_nil] at whole
  rw [render, Json.render, String.toList_ofList, whole] at deeper
  obtain ⟨same, -⟩ := Prod.mk.inj (Except.ok.inj deeper)
  rw [depth, same]
  exact shallow

/-- A text without the reserved key yields a packet without it, nested no deeper than the text. -/
theorem isPlain_of_parse {text : String} {packet : Packet} {tree : Json}
    (read : parse text = .ok packet)
    (isTree : Json.parseTree Json.nestingLimit text = .ok tree)
    (unreserved : tree.IsUnreserved) :
    packet.IsPlain ∧ packet.depth ≤ Json.nestingLimit := by
  obtain ⟨members, settled, isObject, are, fields⟩ := tree_of_parse read
  obtain rfl : tree = .object members := Except.ok.inj (isTree.symm.trans isObject)
  obtain ⟨-, shallow, -⟩ := Json.yields_parseTree isObject
  have shallowMembers := Json.depth_object_le.mp (show _ ≤ 126 + 1 from shallow)
  obtain ⟨-, unreservedMembers⟩ := Json.everyObject_object.mp unreserved
  have origin : ∀ field ∈ packet.fields, ∃ member ∈ members, member.2.IsUnreserved ∧
      Json.settle Json.value? member.2 = some field.2 := by
    intro field inside
    rw [fields] at inside
    obtain ⟨member, isMember, -, isValue⟩ := Json.exists_of_mem_forall₂
      (Json.settleMembers_eq_some.mp are) (Json.mem_of_mem_sortMembers inside)
    have isPart := (List.mem_filter.mp isMember).1
    exact ⟨member, isPart, unreservedMembers member isPart, isValue⟩
  refine ⟨fun field inside => ?_, depth_le.mpr fun field inside => ?_⟩
  · obtain ⟨member, -, free, isValue⟩ := origin field inside
    exact (Json.isUnreserved_settle free isValue).isPlain
  · obtain ⟨member, isMember, free, isValue⟩ := origin field inside
    exact Json.depth_settle_le free.isPlain isValue (shallowMembers member isMember)

/-- Two packets have the same text only if they are the same. -/
theorem eq_of_render_eq {packet other : Packet} (message : packet.IsMessage)
    (otherMessage : other.IsMessage) (integral : packet.IsIntegral)
    (otherIntegral : other.IsIntegral) (same : packet.render = other.render) :
    packet = other := by
  have sameMembers : packet.members = other.members :=
    Json.object.inj (Json.renderValue_injective integral.members otherIntegral.members
      (String.ofList_injective same))
  obtain ⟨kind, session, fields⟩ := packet
  obtain ⟨otherKind, otherSession, otherFields⟩ := other
  simp only [members, List.cons.injEq, Prod.mk.injEq, Json.string.injEq, true_and] at sameMembers
  obtain ⟨rfl, sameRest⟩ := sameMembers
  cases session with
  | none =>
      cases otherSession with
      | none =>
          obtain rfl : fields = otherFields := sameRest
          rfl
      | some otherSession =>
          obtain rfl : fields = _ := sameRest
          exact absurd rfl (message.untyped _ List.mem_cons_self).2
  | some session =>
      cases otherSession with
      | none =>
          obtain rfl : _ = otherFields := sameRest
          exact absurd rfl (otherMessage.untyped _ List.mem_cons_self).2
      | some otherSession =>
          obtain ⟨sameSession, sameFields⟩ := List.cons.inj sameRest
          obtain rfl : fields = otherFields := sameFields
          obtain ⟨-, sameText⟩ := Prod.mk.inj sameSession
          rw [Json.string.inj sameText]

/-! ## There and back -/

/-- Every packet that a text yields has a kind and keeps the typed members out of its fields. A
packet without doubles is read back from its text if and only if no object in a field begins with
the reserved key and it is not nested too deeply; a text without that key yields no other packets.
With `null` for its session a packet is read back without one. Packets that are read are equal if
and only if their texts are. -/
theorem packets_read_back (text otherText : String) (packet other : Packet) :
    (parse text = .ok packet → packet.IsMessage) ∧
    (packet.IsMessage → packet.IsIntegral →
      (parse packet.render = .ok packet ↔
        packet.IsPlain ∧ packet.depth ≤ Json.nestingLimit)) ∧
    (∀ tree, parse text = .ok packet → Json.parseTree Json.nestingLimit text = .ok tree →
      tree.IsUnreserved → packet.IsPlain ∧ packet.depth ≤ Json.nestingLimit) ∧
    (packet.IsMessage → packet.IsIntegral → packet.IsPlain →
      packet.depth ≤ Json.nestingLimit → packet.session = none →
        parse (Json.object (("type", .string packet.kind) :: ("sessionId", .null) ::
          packet.fields)).render = .ok packet) ∧
    (parse text = .ok packet → parse otherText = .ok other →
      packet.IsIntegral → other.IsIntegral →
        (packet = other ↔ packet.render = other.render)) := by
  refine ⟨isMessage_of_parse, ?_, fun tree => isPlain_of_parse, ?_, ?_⟩
  · intro message integral
    constructor
    · intro same
      have shallow := depth_le_of_parse_render integral same
      rw [parse_render message integral shallow] at same
      refine ⟨(settle?_eq_self_iff message).mp ?_, shallow⟩
      cases settles : packet.settle? with
      | none =>
          rw [settles] at same
          cases same
      | some settled =>
          rw [settles] at same
          exact congrArg some (Except.ok.inj same)
    · rintro ⟨plain, shallow⟩
      rw [parse_render message integral shallow, (settle?_eq_self_iff message).mpr plain]
      rfl
  · intro message integral plain shallow noSession
    have readsNull : Json.ReadsMembers (record.readMember (readField 126) 126)
        ⟨ofKind packet.kind, ["type"]⟩ [("sessionId", .null)]
        ⟨⟨packet.kind, packet.session, []⟩, ["sessionId", "type"]⟩ := by
      rw [noSession]
      exact Json.Record.readsMembers_field record (readField 126) ⟨ofKind packet.kind, ["type"]⟩
        (show record.fields.find? (·.key == "sessionId") = some _ from rfl)
        (show "sessionId" ∉ ["type"] by decide) Json.Decoder.readsBack_optional_null
    have read := parse_members message integral shallow readsNull (by decide)
    rw [(settle?_eq_self_iff message).mpr plain] at read
    exact read
  · intro read otherRead integral otherIntegral
    constructor
    · rintro rfl
      rfl
    · exact eq_of_render_eq (isMessage_of_parse read) (isMessage_of_parse otherRead) integral
        otherIntegral

def welcome : Packet :=
  ⟨"welcome", none, [("rooms", .array [.ofNat 1, .null]), ("topic", .string "\x7b")]⟩

theorem packets_read_back_of_welcome :
    (welcome.IsMessage ∧ welcome.IsIntegral) ∧
      parse welcome.render = .ok welcome ∧
      (Json.parseTree Json.nestingLimit welcome.render = .ok (.object welcome.members) ∧
        welcome.IsPlain ∧ welcome.depth ≤ Json.nestingLimit) ∧
      parse (Json.object (("type", .string welcome.kind) :: ("sessionId", .null) ::
        welcome.fields)).render = .ok welcome ∧
      welcome.render ≠ (ofKind "bye").render := by
  obtain ⟨received, readBack, unreserved, readsNull, canonical⟩ :=
    packets_read_back welcome.render (ofKind "bye").render welcome (ofKind "bye")
  obtain ⟨-, byeReadBack, -⟩ :=
    packets_read_back welcome.render welcome.render (ofKind "bye") welcome
  have ascend : Json.KeysAscend welcome.fields := by
    rw [Json.keysAscend_iff_pairwise]
    decide
  have message : welcome.IsMessage := by
    refine ⟨by decide, by decide, Json.ordered_object.mpr ⟨ascend, ?_⟩⟩
    simp [welcome, Json.Ordered, Json.OrderedItems, Json.ofNat, Json.Number.Readable, greatestWord]
  have integral : welcome.IsIntegral := by
    simp [IsIntegral, welcome, Json.EveryNumber, Json.EveryNumberOfMembers,
      Json.EveryNumberOfItems, Json.ofNat, Json.Number.IsInteger, greatestWord]
  have plainMembers : (Json.object welcome.members).IsUnreserved := by
    simp [Json.IsUnreserved, welcome, members, Json.EveryObject, Json.EveryObjectOfMembers,
      Json.EveryObjectOfItems, Json.embeddingKey, Json.ofNat]
  have shallow : welcome.depth ≤ Json.nestingLimit := by decide
  have plain : welcome.IsPlain := fun field inside =>
    (Json.everyObject_object.mp plainMembers.isPlain).2 field
      (List.mem_cons_of_mem _ (List.mem_append_right _ inside))
  have bye : (ofKind "bye").IsMessage := by
    refine ⟨by decide, by decide, ?_⟩
    simp [ofKind, Json.KeysAscend, Json.Ordered, Json.OrderedMembers]
  have byeIntegral : (ofKind "bye").IsIntegral := by
    simp [IsIntegral, ofKind, Json.EveryNumber, Json.EveryNumberOfMembers]
  have read := (readBack message integral).mpr ⟨plain, shallow⟩
  have byeRead := (byeReadBack bye byeIntegral).mpr
    ⟨fun field inside => absurd inside List.not_mem_nil, by decide⟩
  have tree := Json.parseTree_render integral.members shallow
  refine ⟨⟨received read, integral⟩, read, ⟨tree, unreserved _ read tree plainMembers⟩,
    readsNull message integral plain shallow rfl, fun same => ?_⟩
  have equal := (canonical read byeRead integral byeIntegral).mpr same
  exact absurd (congrArg kind equal) (by decide)

/-- A packet with an object that begins with the reserved key. -/
def embedding : Packet :=
  ⟨"x", none, [("a", .object [(Json.embeddingKey, .string "1")])]⟩

/-- The text under the reserved key is read in place of the object. -/
theorem parse_embedding :
    (embedding.IsMessage ∧ embedding.IsIntegral ∧ embedding.depth ≤ Json.nestingLimit) ∧
      parse embedding.render = .ok ⟨"x", none, [("a", .ofNat 1)]⟩ ∧
      parse embedding.render ≠ .ok embedding := by
  have message : embedding.IsMessage := by
    refine ⟨by decide, by decide, ?_⟩
    simp [embedding, Json.KeysAscend, Json.Ordered, Json.OrderedMembers]
  have integral : embedding.IsIntegral := by
    simp [IsIntegral, embedding, Json.EveryNumber, Json.EveryNumberOfMembers]
  have shallow : embedding.depth ≤ Json.nestingLimit := by decide
  have settles : embedding.settle? = some ⟨"x", none, [("a", .ofNat 1)]⟩ := rfl
  have read : parse embedding.render = .ok ⟨"x", none, [("a", .ofNat 1)]⟩ := by
    rw [parse_render message integral shallow, settles]
    rfl
  refine ⟨⟨message, integral, shallow⟩, read, fun same => ?_⟩
  rw [read] at same
  simp [embedding, Json.ofNat] at same

end Parley.Wire.Packet
