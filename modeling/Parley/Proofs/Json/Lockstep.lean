import Mathlib.Data.List.DropRight
import Parley.Json.Decoder
import Parley.Proofs.Json.Readings

/-!
# Two readings in step

Two ways to read one array or object, each item or member of which the second reads as far as the
first does, come to the same end. So a tree that is read within some depth is read within any
greater one, and a decoder reads as far as a tree goes.
-/

namespace Parley.Json

section Folds

variable {σ τ : Type} (Related : σ → τ → Prop)

section Items

variable {item : σ → List Char → Except Fault (σ × List Char)}
  (other : τ → List Char → Except Fault (τ × List Char))

theorem foldMoreItems_lockstep
    (follows : ∀ state twin text next rest, Related state twin →
      item state text = .ok (next, rest) →
      ∃ nextTwin, other twin text = .ok (nextTwin, rest) ∧ Related next nextTwin)
    {fuel : Nat} {state last : σ} {twin : τ} {text rest : List Char}
    (related : Related state twin) (read : foldMoreItems item fuel state text = .ok (last, rest)) :
    ∃ lastTwin, foldMoreItems other fuel twin text = .ok (lastTwin, rest) ∧
      Related last lastTwin := by
  induction fuel generalizing state twin text with
  | zero => cases read
  | succ fuel inductionHypothesis =>
      rw [foldMoreItems] at read ⊢
      split at read
      · cases read
      · cases read
        exact ⟨twin, rfl, related⟩
      · split at read
        · cases read
        · cases read
        · split at read
          next isItem =>
            obtain ⟨nextTwin, isTwin, nextRelated⟩ := follows _ _ _ _ _ related isItem
            simp only [isTwin]
            exact inductionHypothesis nextRelated read
          · cases read
      · cases read

theorem foldItems_lockstep
    (follows : ∀ state twin text next rest, Related state twin →
      item state text = .ok (next, rest) →
      ∃ nextTwin, other twin text = .ok (nextTwin, rest) ∧ Related next nextTwin)
    {state last : σ} {twin : τ} {text rest : List Char}
    (related : Related state twin) (read : foldItems item state text = .ok (last, rest)) :
    ∃ lastTwin, foldItems other twin text = .ok (lastTwin, rest) ∧ Related last lastTwin := by
  unfold foldItems at read ⊢
  split at read
  · cases read
  · cases read
    exact ⟨twin, rfl, related⟩
  · split at read
    next isItem =>
      obtain ⟨nextTwin, isTwin, nextRelated⟩ := follows _ _ _ _ _ related isItem
      simp only [isTwin]
      exact foldMoreItems_lockstep Related other follows nextRelated read
    · cases read

end Items

section Members

variable {member : σ → String → List Char → Except Fault (σ × List Char)}
  (other : τ → String → List Char → Except Fault (τ × List Char))

theorem foldMoreMembers_lockstep
    (follows : ∀ state twin key text next rest, Related state twin →
      member state key text = .ok (next, rest) →
      ∃ nextTwin, other twin key text = .ok (nextTwin, rest) ∧ Related next nextTwin)
    {fuel : Nat} {state last : σ} {twin : τ} {text rest : List Char}
    (related : Related state twin)
    (read : foldMoreMembers member fuel state text = .ok (last, rest)) :
    ∃ lastTwin, foldMoreMembers other fuel twin text = .ok (lastTwin, rest) ∧
      Related last lastTwin := by
  induction fuel generalizing state twin text with
  | zero => cases read
  | succ fuel inductionHypothesis =>
      rw [foldMoreMembers] at read ⊢
      split at read
      · cases read
      · cases read
        exact ⟨twin, rfl, related⟩
      · split at read
        · cases read
        · split at read
          · cases read
          next isKey =>
            split at read
            next isMember =>
              obtain ⟨nextTwin, isTwin, nextRelated⟩ := follows _ _ _ _ _ _ related isMember
              simp only [isTwin]
              exact inductionHypothesis nextRelated read
            · cases read
        · cases read
      · cases read

theorem foldMembers_lockstep
    (follows : ∀ state twin key text next rest, Related state twin →
      member state key text = .ok (next, rest) →
      ∃ nextTwin, other twin key text = .ok (nextTwin, rest) ∧ Related next nextTwin)
    {state last : σ} {twin : τ} {text rest : List Char}
    (related : Related state twin) (read : foldMembers member state text = .ok (last, rest)) :
    ∃ lastTwin, foldMembers other twin text = .ok (lastTwin, rest) ∧ Related last lastTwin := by
  unfold foldMembers at read ⊢
  split at read
  · cases read
  · cases read
    exact ⟨twin, rfl, related⟩
  · split at read
    · cases read
    next isKey =>
      split at read
      next isMember =>
        obtain ⟨nextTwin, isTwin, nextRelated⟩ := follows _ _ _ _ _ _ related isMember
        simp only [isTwin]
        exact foldMoreMembers_lockstep Related other follows nextRelated read
      · cases read
  · cases read

end Members

end Folds

/-! ## Greater depths -/

/-- What the first reading reads, the second reads too. -/
def Extends (reading deeper : List Char → Except Fault (Json × List Char)) : Prop :=
  ∀ text result, reading text = .ok result → deeper text = .ok result

theorem extends_readWith {reading deeper : Option (List Char → Except Fault (Json × List Char))}
    (follows : ∀ nested ∈ reading, ∃ other ∈ deeper, Extends nested other) :
    Extends (readWith reading) (readWith deeper) := by
  intro text result read
  unfold readWith at read ⊢
  split at read
  case h_7 =>
    split at read
    · cases read
    next nested =>
      obtain ⟨other, rfl, further⟩ := follows nested rfl
      obtain ⟨⟨items, rest⟩, areItems, same⟩ := bind_eq_ok.mp read
      obtain ⟨twins, areTwins, rfl⟩ := foldItems_lockstep Eq
        (fun items text => do
          let reading ← other text
          .ok (reading.1 :: items, reading.2))
        (by
          rintro items _ text next rest rfl isItem
          obtain ⟨⟨item, left⟩, once, same⟩ := bind_eq_ok.mp isItem
          exact ⟨next, bind_eq_ok.mpr ⟨(item, left), further text _ once, same⟩, rfl⟩)
        rfl areItems
      exact bind_eq_ok.mpr ⟨(items, rest), areTwins, same⟩
  case h_8 =>
    split at read
    · cases read
    next nested =>
      obtain ⟨other, rfl, further⟩ := follows nested rfl
      obtain ⟨⟨members, rest⟩, areMembers, same⟩ := bind_eq_ok.mp read
      obtain ⟨twins, areTwins, rfl⟩ := foldMembers_lockstep Eq
        (fun members key text => do
          let reading ← other (← expectColon text)
          .ok ((key, reading.1) :: members, reading.2))
        (by
          rintro members _ key text next rest rfl isMember
          obtain ⟨colon, isColon, isMember⟩ := bind_eq_ok.mp isMember
          obtain ⟨⟨value, left⟩, once, same⟩ := bind_eq_ok.mp isMember
          exact ⟨next, bind_eq_ok.mpr ⟨colon, isColon,
            bind_eq_ok.mpr ⟨(value, left), further colon _ once, same⟩⟩, rfl⟩)
        rfl areMembers
      exact bind_eq_ok.mpr ⟨(members, rest), areTwins, same⟩
  all_goals exact read

/-- With more room for nesting everything is read that was read before, and as before. -/
theorem extends_readValue {depth deeper : Nat} (deep : depth ≤ deeper) :
    Extends (readValue depth) (readValue deeper) := by
  induction depth generalizing deeper with
  | zero =>
      have none : ∀ reading, Extends (readWith none) (readWith reading) := fun reading =>
        extends_readWith fun nested isNone => by cases isNone
      cases deeper <;> exact none _
  | succ depth inductionHypothesis =>
      obtain ⟨further, rfl⟩ : ∃ further, deeper = further + 1 := ⟨deeper - 1, by omega⟩
      refine extends_readWith fun nested isNested => ?_
      cases isNested
      exact ⟨_, rfl, inductionHypothesis (Nat.le_of_succ_le_succ deep)⟩

/-! ## Decoders -/

theorem readValue_eq_readWith (depth : Nat) :
    ∃ nested, readValue depth = readWith nested := by
  cases depth <;> exact ⟨_, rfl⟩

theorem readValue_skipBlanks (depth : Nat) (text : List Char) :
    readValue depth (skipBlanks text) = readValue depth text := by
  have again : skipBlanks (skipBlanks text) = skipBlanks text :=
    List.dropWhile_idempotent isBlank text
  obtain ⟨nested, isReading⟩ := readValue_eq_readWith depth
  rw [isReading, readWith, readWith, again]

/-- Whatever the decoder reads is where a tree stands. -/
def Decoder.ReadsTrees {α : Type} (decoder : Decoder α) : Prop :=
  ∀ depth text value rest, decoder.read depth text = .ok (value, rest) →
    ∃ tree, readValue depth text = .ok (tree, rest)

theorem readsTrees_text : Decoder.text.ReadsTrees := by
  intro depth text value rest read
  obtain ⟨nested, isReading⟩ := readValue_eq_readWith depth
  refine ⟨.string value, ?_⟩
  rw [isReading, readWith]
  simp only [Decoder.text] at read
  split at read
  next starts =>
    simp only [starts]
    exact bind_eq_ok.mpr ⟨(value, rest), read, rfl⟩
  · cases read

theorem readsTrees_optional {α : Type} {decoder : Decoder α} (reads : decoder.ReadsTrees) :
    decoder.optional.ReadsTrees := by
  intro depth text value rest read
  simp only [Decoder.optional] at read
  split at read
  next starts =>
    obtain ⟨after, word, same⟩ := bind_eq_ok.mp read
    cases same
    obtain ⟨nested, isReading⟩ := readValue_eq_readWith depth
    refine ⟨.null, ?_⟩
    rw [isReading, readWith]
    simp only [starts]
    exact bind_eq_ok.mpr ⟨rest, word, rfl⟩
  · obtain ⟨⟨inner, after⟩, isInner, same⟩ := bind_eq_ok.mp read
    cases same
    obtain ⟨tree, isTree⟩ := reads _ _ _ _ isInner
    exact ⟨tree, readValue_skipBlanks depth text ▸ isTree⟩

end Parley.Json
