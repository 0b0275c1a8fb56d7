import Mathlib.Data.List.Forall2
import Parley.Proofs.Json.Records
import Parley.Wire.Request

/-!
# Requests read back

Every request is read back from its text, which leaves out exactly the members that the request
does not give. So a request made step by step is read back with what its last steps say, and with
its images in the order in which they were added.
-/

namespace Parley.Wire

section OptionalMembers

variable {α β : Type} {depth : Nat}

/-- A member that may be left out is read into its field if it is there. -/
theorem readsMembers_optionalMember (record : Json.Record α)
    (other : String → α → List Char → Except Json.Fault (α × List Char)) (draft : Json.Draft α)
    (encode : β → Json) {key : String} {decoder : Json.Decoder β} {put : Option β → α → α}
    (found : record.fields.find? (·.key == key) = some (.of key false decoder.optional put))
    (fresh : key ∉ draft.given) (absent : put none draft.value = draft.value) (value : Option β)
    (reads : ∀ given ∈ value, Json.OpensOther (encode given) ∧
      decoder.ReadsBack depth given (encode given)) :
    Json.ReadsMembers (record.readMember other depth) draft (optionalMember key encode value)
      ⟨put value draft.value, (value.map fun _ => key).toList ++ draft.given⟩ := by
  cases value with
  | none =>
      rw [absent]
      exact .nil draft
  | some given =>
      obtain ⟨opens, isRead⟩ := reads given rfl
      exact Json.Record.readsMembers_field record other draft found fresh
        (Json.Decoder.readsBack_optional opens isRead)

theorem keys_optionalMember {key : String} {encode : β → Json} (value : Option β) :
    (optionalMember key encode value).map Prod.fst = if value.isSome then [key] else [] := by
  cases value <;> rfl

theorem mem_optionalMember {key : String} {encode : β → Json} {value : Option β}
    {member : String × Json} (inside : member ∈ optionalMember key encode value) :
    ∃ given, value = some given ∧ member = (key, encode given) := by
  cases value with
  | none => exact absurd inside List.not_mem_nil
  | some given => exact ⟨given, rfl, List.mem_singleton.mp inside⟩

theorem notMem_given {key other : String} (different : key ≠ other) {given : List String}
    (fresh : key ∉ given) (value : Option β) :
    key ∉ (value.map fun _ => other).toList ++ given := by
  cases value with
  | none => exact fresh
  | some value => exact List.not_mem_cons_of_ne_of_not_mem different fresh

end OptionalMembers

/-! ## Images -/

namespace Image

def keys (image : Image) : List String :=
  "data" :: if image.mediaType.isSome then ["mimeType"] else []

theorem keys_members (image : Image) : image.members.map Prod.fst = image.keys := by
  rw [members, List.map_cons, keys_optionalMember]
  rfl

theorem mem_members {image : Image} {member : String × Json} (inside : member ∈ image.members) :
    ∃ text, member.2 = .string text := by
  rcases List.mem_cons.mp inside with rfl | isOptional
  · exact ⟨image.data, rfl⟩
  · obtain ⟨text, -, rfl⟩ := mem_optionalMember isOptional
    exact ⟨text, rfl⟩

theorem integral_toJson (image : Image) :
    image.toJson.EveryNumber Json.Number.IsInteger := by
  refine Json.everyNumber_object.mpr fun member inside => ?_
  obtain ⟨text, isText⟩ := mem_members inside
  rw [isText]
  trivial

theorem depth_toJson_le (image : Image) : image.toJson.depth ≤ 0 + 1 := by
  refine Json.depth_object_le.mpr fun member inside => ?_
  obtain ⟨text, isText⟩ := mem_members inside
  rw [isText]
  exact Nat.le_refl 0

theorem opens_toJson (image : Image) : Json.Opens (Json.renderValue image.toJson) := by
  rw [toJson, Json.renderValue_object]
  exact ⟨rfl, by decide⟩

theorem readsBack (depth : Nat) (image : Image) :
    record.decoder.ReadsBack (depth + 1) image image.toJson := by
  let other := fun (_ : String) (value : Image) text => do
    Except.ok (value, ← Json.skipValue text)
  have readsData := Json.Record.readsMembers_field record other ⟨record.start, []⟩
    (show record.fields.find? (·.key == "data") = some _ from rfl) List.not_mem_nil
    (Json.Decoder.readsBack_text depth image.data)
  have readsType := readsMembers_optionalMember record other ⟨⟨image.data, none⟩, ["data"]⟩
    Json.string (show record.fields.find? (·.key == "mimeType") = some _ from rfl)
    (show "mimeType" ∉ ["data"] by decide) rfl image.mediaType
    (fun given _ => ⟨Json.opensOther_string given, Json.Decoder.readsBack_text depth given⟩)
  refine Json.Record.readsBack_of_members (readsData.append readsType) ?_
  simp [Json.Record.isComplete, record, Json.Field.of]

end Image

/-! ## Requests -/

namespace Request

def keys (request : Request) : List String :=
  "message" :: ((if request.session.isSome then ["sessionId"] else []) ++
    ((if request.backend.isSome then ["backendId"] else []) ++
      (if request.images.isSome then ["images"] else [])))

theorem readsBack (depth : Nat) (request : Request) :
    record.decoder.ReadsBack (depth + 3) request request.toJson := by
  let other := fun (_ : String) (value : Request) text => do
    Except.ok (value, ← Json.skipValue text)
  have readsMessage := Json.Record.readsMembers_field record other ⟨record.start, []⟩
    (show record.fields.find? (·.key == "message") = some _ from rfl) List.not_mem_nil
    (Json.Decoder.readsBack_text (depth + 2) request.message)
  have readsSession := readsMembers_optionalMember record other
    ⟨ofMessage request.message, ["message"]⟩ Json.string
    (show record.fields.find? (·.key == "sessionId") = some _ from rfl)
    (show "sessionId" ∉ ["message"] by decide) rfl request.session
    (fun given _ => ⟨Json.opensOther_string given, Json.Decoder.readsBack_text (depth + 2) given⟩)
  have readsBackend := readsMembers_optionalMember record other
    ⟨⟨request.message, request.session, none, none⟩,
      (request.session.map fun _ => "sessionId").toList ++ ["message"]⟩ Json.string
    (show record.fields.find? (·.key == "backendId") = some _ from rfl)
    (notMem_given (by decide) (by decide) request.session) rfl request.backend
    (fun given _ => ⟨Json.opensOther_string given, Json.Decoder.readsBack_text (depth + 2) given⟩)
  have readsImages := readsMembers_optionalMember record other
    ⟨⟨request.message, request.session, request.backend, none⟩,
      (request.backend.map fun _ => "backendId").toList ++
        ((request.session.map fun _ => "sessionId").toList ++ ["message"])⟩
    (fun images => .array (images.map Image.toJson))
    (show record.fields.find? (·.key == "images") = some _ from rfl)
    (notMem_given (by decide) (notMem_given (by decide) (by decide) request.session)
      request.backend) rfl request.images
    (fun given _ => ⟨Json.opensOther_array _, Json.Decoder.readsBack_list
      (fun image _ => image.opens_toJson) (fun image _ => image.readsBack depth)⟩)
  refine Json.Record.readsBack_of_members
    (readsMessage.append ((readsSession.append readsBackend).append readsImages)) ?_
  simp [Json.Record.isComplete, record, Json.Field.of]

theorem parse_render (request : Request) : parse request.render = .ok request :=
  Json.Decoder.parse_render (request.readsBack 124)

/-! ## Requests made step by step -/

inductive Part where
  | session (session : Option String)
  | backend (backend : Option String)
  | image (image : Image)
deriving DecidableEq

namespace Part

def session? : Part → Option (Option String)
  | .session given => some given
  | _ => none

def backend? : Part → Option (Option String)
  | .backend given => some given
  | _ => none

def image? : Part → Option Image
  | .image given => some given
  | _ => none

end Part

def add (request : Request) : Part → Request
  | .session session => request.forSession session
  | .backend backend => request.usingBackend backend
  | .image image => request.addImage image

/-- The images behind those that are there. Without any there is no list at all. -/
def appendImages (held : Option (List Image)) (images : List Image) : Option (List Image) :=
  if images = [] then held else some (held.getD [] ++ images)

theorem appendImages_cons (held : Option (List Image)) (image : Image) (images : List Image) :
    appendImages (some (held.getD [] ++ [image])) images = appendImages held (image :: images) := by
  cases images <;> simp [appendImages]

/-- What a request made step by step holds. -/
theorem foldl_add (parts : List Part) (request : Request) :
    parts.foldl add request =
      ⟨request.message, (parts.filterMap Part.session?).getLastD request.session,
        (parts.filterMap Part.backend?).getLastD request.backend,
        appendImages request.images (parts.filterMap Part.image?)⟩ := by
  induction parts generalizing request with
  | nil => rfl
  | cons part rest inductionHypothesis =>
      rw [List.foldl_cons, inductionHypothesis]
      cases part with
      | session session =>
          simp only [add, forSession, List.filterMap_cons, Part.session?, Part.backend?,
            Part.image?, List.getLastD_cons]
      | backend backend =>
          simp only [add, usingBackend, List.filterMap_cons, Part.session?, Part.backend?,
            Part.image?, List.getLastD_cons]
      | image image =>
          simp only [add, addImage, List.filterMap_cons, Part.session?, Part.backend?,
            Part.image?, appendImages_cons]

theorem keys_members (request : Request) : request.members.map Prod.fst = request.keys := by
  rw [members, List.map_cons, List.map_append, List.map_append, keys_optionalMember,
    keys_optionalMember, keys_optionalMember, List.append_assoc]
  rfl

/-- The members of a request are texts, but for the images. -/
theorem mem_members {request : Request} {member : String × Json}
    (inside : member ∈ request.members) :
    (∃ text, member.2 = .string text) ∨
      ∃ images, request.images = some images ∧ member.2 = .array (images.map Image.toJson) := by
  rcases List.mem_cons.mp inside with rfl | others
  · exact Or.inl ⟨request.message, rfl⟩
  · rcases List.mem_append.mp others with texts | images
    · rcases List.mem_append.mp texts with isSession | isBackend
      · obtain ⟨session, -, rfl⟩ := mem_optionalMember isSession
        exact Or.inl ⟨session, rfl⟩
      · obtain ⟨backend, -, rfl⟩ := mem_optionalMember isBackend
        exact Or.inl ⟨backend, rfl⟩
    · obtain ⟨given, areImages, rfl⟩ := mem_optionalMember images
      exact Or.inr ⟨given, areImages, rfl⟩

theorem parseTree_render (request : Request) :
    Json.parseTree Json.nestingLimit request.render = .ok (.object request.members) := by
  have integral : (Json.object request.members).EveryNumber Json.Number.IsInteger := by
    refine Json.everyNumber_object.mpr fun member inside => ?_
    rcases mem_members inside with ⟨text, isText⟩ | ⟨images, -, areImages⟩
    · rw [isText]
      trivial
    · rw [areImages, Json.everyNumber_array, List.forall_mem_map]
      exact fun image _ => image.integral_toJson
  have shallow : (Json.object request.members).depth ≤ 2 + 1 := by
    refine Json.depth_object_le.mpr fun member inside => ?_
    rcases mem_members inside with ⟨text, isText⟩ | ⟨images, -, areImages⟩
    · rw [isText]
      exact Nat.zero_le 2
    · rw [areImages, Json.depth_array_le, List.forall_mem_map]
      exact fun image _ => image.depth_toJson_le
  exact Json.parseTree_render integral (Nat.le_trans shallow (by decide))

theorem lookup?_images (request : Request) :
    Json.lookup? "images" request.members =
      request.images.map fun images => .array (images.map Image.toJson) := by
  obtain ⟨message, session, backend, images⟩ := request
  cases session <;> cases backend <;> cases images <;>
    simp [members, optionalMember, Json.lookup?]

/-- Every request is read back from its text. The text is an object with the members that the
request gives and no others, and so is each of its images. A request made step by step is read back
with the last session and the last backend, and with its images in order. -/
theorem requests_read_back :
    (∀ request : Request, parse request.render = .ok request) ∧
    (∀ request : Request, ∃ members,
      Json.parseTree Json.nestingLimit request.render = .ok (.object members) ∧
        members.map Prod.fst = request.keys ∧
        ∀ images ∈ request.images, ∃ items,
          Json.lookup? "images" members = some (.array items) ∧
            List.Forall₂ (fun (image : Image) item =>
              ∃ parts, item = .object parts ∧ parts.map Prod.fst = image.keys) images items) ∧
    (∀ (message : String) (parts : List Part),
      parse (parts.foldl add (ofMessage message)).render =
        .ok ⟨message, (parts.filterMap Part.session?).getLastD none,
          (parts.filterMap Part.backend?).getLastD none,
          let images := parts.filterMap Part.image?
          if images = [] then none else some images⟩) := by
  refine ⟨parse_render, ?_, ?_⟩
  · intro request
    refine ⟨request.members, request.parseTree_render, request.keys_members, ?_⟩
    intro images given
    refine ⟨images.map Image.toJson, ?_, ?_⟩
    · rw [lookup?_images, given, Option.map_some]
    · exact List.forall₂_map_right_iff.mpr
        (List.forall₂_same.mpr fun image _ =>
        ⟨image.members, rfl, image.keys_members⟩)
  · intro message parts
    rw [parse_render, foldl_add]
    rfl

theorem requests_read_back_of_pictured :
    parse (⟨"hi", none, some "", some [⟨"aGk=", none⟩]⟩ : Request).render =
        .ok ⟨"hi", none, some "", some [⟨"aGk=", none⟩]⟩ ∧
      (∃ members items,
        Json.parseTree Json.nestingLimit
            (⟨"hi", none, some "", some [⟨"aGk=", none⟩]⟩ : Request).render =
          .ok (.object members) ∧
        members.map Prod.fst = ["message", "backendId", "images"] ∧
        Json.lookup? "images" members = some (.array items) ∧
        List.Forall₂ (fun (image : Image) item =>
          ∃ parts, item = .object parts ∧ parts.map Prod.fst = image.keys)
          [⟨"aGk=", none⟩] items) := by
  obtain ⟨readBack, mentions, -⟩ := requests_read_back
  obtain ⟨members, tree, keys, images⟩ := mentions ⟨"hi", none, some "", some [⟨"aGk=", none⟩]⟩
  obtain ⟨items, areItems, each⟩ := images [⟨"aGk=", none⟩] rfl
  exact ⟨readBack _, members, items, tree, keys, areItems, each⟩

end Request

end Parley.Wire
