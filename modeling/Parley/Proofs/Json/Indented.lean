import Parley.Proofs.Json.Records

/-!
# Indented objects read back

An object with one member to a line is read like its compact text, since blanks do not matter where
lines break and after the colons.
-/

namespace Parley.Json

/-! ## Lines -/

/-- What follows a member: the other members, and the closing brace. -/
def renderMoreLines : List (String × Json) → List Char
  | [] => ['\n', '\x7d']
  | member :: rest => ',' :: '\n' :: (renderMemberLines (member :: rest) ++ ['\x7d'])

theorem renderMemberLines_cons (key : String) (value : Json) (members : List (String × Json)) :
    renderMemberLines ((key, value) :: members) ++ ['\x7d'] =
      ' ' :: ' ' :: (renderText key ++ ':' :: ' ' ::
        (renderValue value ++ renderMoreLines members)) := by
  cases members with
  | nil => simp [renderMemberLines, renderMoreLines]
  | cons member rest => simp [renderMemberLines, renderMoreLines]

theorem breaks_renderMoreLines (members : List (String × Json)) (rest : List Char) :
    Breaks (renderMoreLines members ++ rest) := by
  cases members with
  | nil => simp [renderMoreLines, Breaks]
  | cons member following => simp [renderMoreLines, Breaks]

theorem length_lt_renderMoreLines (members : List (String × Json)) :
    members.length < (renderMoreLines members).length := by
  induction members with
  | nil => decide
  | cons member rest inductionHypothesis =>
      obtain ⟨key, value⟩ := member
      rw [renderMoreLines, renderMemberLines_cons]
      simp only [List.length_cons, List.length_append]
      omega

section Lines

variable {σ : Type} {member : σ → String → List Char → Except Fault (σ × List Char)}

theorem foldMoreMembers_lines {state last : σ} {members : List (String × Json)}
    (ignores : ∀ key ∈ members.map Prod.fst, ∀ state text,
      member state key (':' :: ' ' :: text) = member state key (':' :: text))
    (reads : ReadsMembers member state members last) (rest : List Char) {fuel : Nat}
    (enough : members.length < fuel) :
    foldMoreMembers member fuel state (renderMoreLines members ++ rest) = .ok (last, rest) := by
  induction reads generalizing fuel with
  | nil state =>
      obtain ⟨left, rfl⟩ : ∃ left, fuel = left + 1 := ⟨fuel - 1, by omega⟩
      rfl
  | @cons state next last key value following readsFirst _ inductionHypothesis =>
      obtain ⟨left, rfl⟩ : ∃ left, fuel = left + 1 := ⟨fuel - 1, by omega⟩
      obtain ⟨ignoresFirst, ignoresRest⟩ := List.forall_mem_cons.mp ignores
      obtain ⟨text, shape, read⟩ := readText_of_renderText key
        (':' :: ' ' :: (renderValue value ++ (renderMoreLines following ++ rest)))
      have more : renderMoreLines ((key, value) :: following) ++ rest =
          ',' :: '\n' :: ' ' :: ' ' :: '"' :: text := by
        rw [renderMoreLines, renderMemberLines_cons, ← shape]
        simp only [List.cons_append, List.append_assoc]
      have comma : skipBlanks (',' :: '\n' :: ' ' :: ' ' :: '"' :: text) =
          ',' :: '\n' :: ' ' :: ' ' :: '"' :: text := rfl
      have quote : skipBlanks ('\n' :: ' ' :: ' ' :: '"' :: text) = '"' :: text := rfl
      rw [more, foldMoreMembers, comma]
      simp only [quote, read, ignoresFirst, readsFirst _ (breaks_renderMoreLines following rest)]
      exact inductionHypothesis ignoresRest (Nat.lt_of_succ_lt_succ enough)

theorem foldMembers_lines {state last : σ} {first : String × Json}
    {members : List (String × Json)}
    (ignores : ∀ key ∈ (first :: members).map Prod.fst, ∀ state text,
      member state key (':' :: ' ' :: text) = member state key (':' :: text))
    (reads : ReadsMembers member state (first :: members) last) (rest : List Char) :
    foldMembers member state
        ('\n' :: (renderMemberLines (first :: members) ++ '\x7d' :: rest)) = .ok (last, rest) := by
  cases reads with
  | @cons _ next _ key value _ readsFirst readsRest =>
      obtain ⟨ignoresFirst, ignoresRest⟩ := List.forall_mem_cons.mp ignores
      obtain ⟨text, shape, read⟩ := readText_of_renderText key
        (':' :: ' ' :: (renderValue value ++ (renderMoreLines members ++ rest)))
      have whole : '\n' :: (renderMemberLines ((key, value) :: members) ++ '\x7d' :: rest) =
          '\n' :: ' ' :: ' ' :: '"' :: text := by
        rw [List.append_cons, renderMemberLines_cons, ← shape]
        simp only [List.cons_append, List.append_assoc]
      have quote : skipBlanks ('\n' :: ' ' :: ' ' :: '"' :: text) = '"' :: text := rfl
      have enough : members.length < (renderMoreLines members ++ rest).length + 1 := by
        have longer := length_lt_renderMoreLines members
        rw [List.length_append]
        omega
      rw [whole, foldMembers, quote]
      simp only [read, ignoresFirst, readsFirst _ (breaks_renderMoreLines members rest)]
      exact foldMoreMembers_lines ignoresRest readsRest rest enough

end Lines

/-! ## Records -/

namespace Record

variable {α : Type} {record : Record α}

/-- A field whose reading does not mind a blank in front. -/
theorem readMember_blank
    (other : String → α → List Char → Except Fault (α × List Char)) {depth : Nat} {key : String}
    {field : Field α} (found : record.fields.find? (·.key == key) = some field)
    (ignores : ∀ text, field.read depth (' ' :: text) = field.read depth text) (draft : Draft α)
    (text : List Char) :
    record.readMember other depth draft key (':' :: ' ' :: text) =
      record.readMember other depth draft key (':' :: text) := by
  have colon : ∀ following, expectColon (':' :: following) = .ok following := fun _ => rfl
  simp only [readMember, found, colon, Bind.bind, Except.bind, ignores]

/-- A record is read back from the indented text of an object whose members its fields read. -/
theorem parse_renderIndented {first : String × Json} {members : List (String × Json)}
    {draft : Draft α}
    (ignores : ∀ key ∈ (first :: members).map Prod.fst, ∃ field,
      record.fields.find? (·.key == key) = some field ∧
        ∀ text, field.read 126 (' ' :: text) = field.read 126 text)
    (reads : ReadsMembers
      (record.readMember (fun _ value text => do .ok (value, ← skipValue text)) 126)
      ⟨record.start, []⟩ (first :: members) draft)
    (complete : record.isComplete draft = true) :
    record.decoder.parse (renderIndented (first :: members)) = .ok draft.value := by
  have folded := foldMembers_lines (fun key member state text => by
    obtain ⟨field, found, ignores⟩ := ignores key member
    exact readMember_blank _ found ignores state text) reads []
  have brace : ∀ text, skipBlanks ('{' :: text) = '{' :: text := fun _ => rfl
  rw [Decoder.parse, renderIndented, String.toList_ofList]
  simp only [decoder, brace, nestingLimit]
  rw [readMembers, folded]
  simp only [Bind.bind, Except.bind, complete, if_true]
  rfl

end Record

end Parley.Json
