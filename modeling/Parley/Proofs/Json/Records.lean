import Parley.Json.Decoder
import Parley.Proofs.Json.Trees

/-!
# Records read back

A decoder reads a value back if it finds it at the front of every text that begins with the text
of a JSON value. A record is read back from an object whose members are each read back by its
fields, whichever of its optional members are left out.
-/

namespace Parley.Json

/-- The decoder finds the value where the text of `json` stands, whatever follows. -/
def Decoder.ReadsBack {α : Type} (decoder : Decoder α) (depth : Nat) (value : α) (json : Json) :
    Prop :=
  ∀ rest, Breaks rest → decoder.read depth (renderValue json ++ rest) = .ok (value, rest)

/-- The text of the value does not begin like `null`. -/
def OpensOther (json : Json) : Prop :=
  ∃ character rest, renderValue json = character :: rest ∧
    isBlank character = false ∧ character ≠ 'n'

theorem opensOther_string (text : String) : OpensOther (.string text) := by
  refine ⟨'"', text.toList.flatMap escape ++ ['"'], ?_, by decide, by decide⟩
  rw [renderValue, renderText]

theorem opensOther_array (items : List Json) : OpensOther (.array items) :=
  ⟨'[', renderItems items, renderValue_array items, by decide, by decide⟩

namespace Decoder

theorem readsBack_text (depth : Nat) (content : String) :
    text.ReadsBack depth content (.string content) := by
  intro rest _
  obtain ⟨following, shape, read⟩ := readText_of_renderText content rest
  rw [renderValue, shape]
  exact read

variable {α : Type} {decoder : Decoder α} {depth : Nat}

theorem readsBack_optional {value : α} {json : Json} (other : OpensOther json)
    (reads : decoder.ReadsBack depth value json) :
    decoder.optional.ReadsBack depth (some value) json := by
  intro rest breaks
  obtain ⟨character, following, shape, notBlank, notNull⟩ := other
  have read := reads rest breaks
  rw [shape, List.cons_append] at read ⊢
  have starts : skipBlanks (character :: (following ++ rest)) = character :: (following ++ rest) :=
    by simp [skipBlanks, notBlank]
  simp only [optional, starts]
  split
  next isNull =>
    exact absurd (List.cons.inj isNull).1 notNull
  · simp only [read, Bind.bind, Except.bind]

theorem readsBack_optional_null : decoder.optional.ReadsBack depth none .null := by
  intro rest _
  rw [renderValue]
  rfl

theorem readsBack_list {encode : α → Json} {values : List α}
    (opens : ∀ value ∈ values, Opens (renderValue (encode value)))
    (reads : ∀ value ∈ values, decoder.ReadsBack depth value (encode value)) :
    decoder.list.ReadsBack (depth + 1) values (.array (values.map encode)) := by
  intro rest _
  have folded := foldItems_render (collectItem (decoder.read depth)) encode
    (fun items item => item :: items) opens
    (fun value member state rest breaks =>
      collectItem_of_reads (reads value member rest breaks) state)
    [] rest
  rw [List.foldl_flip_cons_eq_append', List.append_nil] at folded
  rw [renderValue_array, List.cons_append]
  simp only [list, show ∀ text, skipBlanks ('[' :: text) = '[' :: text from fun _ => rfl, folded]
  simp only [Bind.bind, Except.bind, List.reverse_reverse]

/-- A whole text is read back. -/
theorem parse_render {value : α} {json : Json}
    (reads : decoder.ReadsBack nestingLimit value json) :
    decoder.parse json.render = .ok value := by
  have read := reads [] trivial
  rw [List.append_nil] at read
  rw [Decoder.parse, Json.render, String.toList_ofList, read]
  rfl

end Decoder

/-! ## Members -/

theorem ReadsMembers.append {σ : Type}
    {member : σ → String → List Char → Except Fault (σ × List Char)} {state next last : σ}
    {members following : List (String × Json)} (reads : ReadsMembers member state members next)
    (readsFollowing : ReadsMembers member next following last) :
    ReadsMembers member state (members ++ following) last := by
  induction reads with
  | nil => exact readsFollowing
  | cons first _ inductionHypothesis => exact .cons first (inductionHypothesis readsFollowing)

namespace Record

variable {α β : Type} {record : Record α} {decoder : Decoder β} {put : β → α → α}
  {other : String → α → List Char → Except Fault (α × List Char)} {depth : Nat}
  {draft : Draft α} {key : String} {required : Bool}

theorem readMember_of_field {value : β} {json : Json}
    (found : record.fields.find? (·.key == key) = some (.of key required decoder put))
    (fresh : key ∉ draft.given) (reads : decoder.ReadsBack depth value json)
    {rest : List Char} (breaks : Breaks rest) :
    record.readMember other depth draft key (':' :: (renderValue json ++ rest)) =
      .ok (⟨put value draft.value, key :: draft.given⟩, rest) := by
  rw [readMember, found]
  have notGiven : draft.given.contains key = false := by simpa using fresh
  simp only [notGiven, Bool.false_eq_true, if_false,
    show ∀ text, expectColon (':' :: text) = .ok text from fun _ => rfl, Field.of,
    reads rest breaks, Bind.bind, Except.bind]

/-- A member that is a field is read into it. -/
theorem readsMembers_field (record : Record α)
    (other : String → α → List Char → Except Fault (α × List Char)) (draft : Draft α)
    {value : β} {json : Json}
    (found : record.fields.find? (·.key == key) = some (.of key required decoder put))
    (fresh : key ∉ draft.given) (reads : decoder.ReadsBack depth value json) :
    ReadsMembers (record.readMember other depth) draft [(key, json)]
      ⟨put value draft.value, key :: draft.given⟩ :=
  .cons (fun _ breaks => readMember_of_field found fresh reads breaks) (.nil _)

/-- A record is read back from an object whose members its fields read. -/
theorem readsBack_of_members {members : List (String × Json)}
    (reads : ReadsMembers
      (record.readMember (fun _ value text => do .ok (value, ← skipValue text)) depth)
      ⟨record.start, []⟩ members draft)
    (complete : record.isComplete draft = true) :
    record.decoder.ReadsBack (depth + 1) draft.value (.object members) := by
  intro rest _
  have folded := foldMembers_render reads rest
  rw [renderValue_object, List.cons_append]
  simp only [decoder, show ∀ text, skipBlanks ('\x7b' :: text) = '\x7b' :: text from fun _ => rfl]
  rw [readMembers, folded]
  simp only [Bind.bind, Except.bind, complete, if_true]

end Record

end Parley.Json
