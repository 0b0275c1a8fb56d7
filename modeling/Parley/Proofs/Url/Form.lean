import Parley.Proofs.Text.Utf8
import Parley.Url.Basic

/-!
# Form encoding read back

A name or value is read back from its encoded form as its own bytes, whatever characters it has. The
encoded form holds letters, digits and `%*+-._` alone, and so neither of the separators nor anything
that would have to be encoded in a query. The main statement is that a pair at the end of a query is
read back behind the pairs that are there.
-/

namespace Parley.Url

/-! ## Encoded bytes -/

theorem hexValue?_upperHexDigit :
    ∀ value < 16, Text.hexValue? (Text.upperHexDigit value) = some value := by
  decide

/-- The characters of encoded bytes. -/
def byteMarks : List Char :=
  "%0123456789ABCDEF".toList

theorem upperHexDigit_mem_byteMarks : ∀ value < 16, Text.upperHexDigit value ∈ byteMarks := by
  decide

theorem encodeByte_subset (byte : UInt8) : encodeByte byte ⊆ byteMarks := by
  have fits : byte.toNat < 256 := byte.toNat_lt
  intro character member
  simp only [encodeByte, List.mem_cons, List.not_mem_nil, or_false] at member
  rcases member with rfl | rfl | rfl
  · decide
  · exact upperHexDigit_mem_byteMarks _ (by omega)
  · exact upperHexDigit_mem_byteMarks _ (by omega)

theorem encodeBytes_subset (bytes : List UInt8) : bytes.flatMap encodeByte ⊆ byteMarks := by
  intro character member
  obtain ⟨byte, -, inByte⟩ := List.mem_flatMap.mp member
  exact encodeByte_subset byte inByte

theorem percentDecode_encodeByte (byte : UInt8) (rest : List Char) :
    percentDecode (encodeByte byte ++ rest) = byte :: percentDecode rest := by
  have fits : byte.toNat < 256 := byte.toNat_lt
  have same : byte.toNat / 16 * 16 + byte.toNat % 16 = byte.toNat := Nat.div_add_mod' _ _
  rw [encodeByte, List.cons_append, List.cons_append, List.singleton_append, percentDecode,
    hexValue?_upperHexDigit _ (by omega), hexValue?_upperHexDigit _ (by omega)]
  simp only [same, UInt8.ofNat_toNat]

theorem percentDecode_encodeBytes (bytes : List UInt8) (rest : List Char) :
    percentDecode (bytes.flatMap encodeByte ++ rest) = bytes ++ percentDecode rest := by
  induction bytes with
  | nil =>
      rfl
  | cons byte bytes inductionHypothesis =>
      rw [List.flatMap_cons, List.append_assoc, percentDecode_encodeByte, inductionHypothesis,
        List.cons_append]

theorem percentDecode_cons {character : Char} (unmarked : character ≠ '%') (rest : List Char) :
    percentDecode (character :: rest) = Text.Utf8.encode [character] ++ percentDecode rest := by
  rw [percentDecode]
  intro high low rest marked
  exact absurd marked unmarked

/-! ## Encoded parts of a URL -/

/-- Nothing that would have to be encoded is left once a part is encoded, if the marks of encoded
bytes need not be encoded. -/
theorem unreserved_of_mem_percentEncode {reserved : ReservedSet}
    (spares : byteMarks.all (! reserved ·) = true) {text : List Char} {character : Char}
    (member : character ∈ percentEncode reserved text) : reserved character = false := by
  obtain ⟨source, -, writes⟩ := List.mem_flatMap.mp member
  cases held : reserved source with
  | false =>
      rw [if_neg (by simp [held])] at writes
      rw [List.mem_singleton.mp writes, held]
  | true =>
      rw [if_pos held] at writes
      simpa using List.all_eq_true.mp spares character (encodeBytes_subset _ writes)

/-- Whatever need not be encoded in a query is ASCII. -/
theorem toNat_lt_of_querySet {character : Char} (unreserved : querySet character = false) :
    character.toNat < 128 := by
  simp only [querySet, isControl, Bool.or_eq_false_iff, decide_eq_false_iff_not] at unreserved
  omega

namespace Form

/-- The characters that an encoded name or value may hold. -/
def isWritten (character : Char) : Bool :=
  isPlain character || character == '+' || character == '%'

theorem isWritten_of_mem_byteMarks : ∀ mark ∈ byteMarks, isWritten mark = true :=
  List.all_eq_true.mp (by decide)

theorem isWritten_of_mem_encode {text : List Char} {character : Char}
    (member : character ∈ encode text) : isWritten character = true := by
  obtain ⟨source, -, writes⟩ := List.mem_flatMap.mp member
  by_cases blank : source = ' '
  · rw [if_pos blank] at writes
    rw [List.mem_singleton.mp writes]
    decide
  · rw [if_neg blank] at writes
    cases plain : isPlain source with
    | true =>
        rw [if_pos plain] at writes
        rw [List.mem_singleton.mp writes, isWritten, plain]
        rfl
    | false =>
        rw [if_neg (by simp [plain])] at writes
        exact isWritten_of_mem_byteMarks character (encodeBytes_subset _ writes)

theorem toNat_lt_of_isWritten {character : Char} (written : isWritten character = true) :
    character.toNat < 128 := by
  simp only [isWritten, isPlain, Bool.or_eq_true, beq_iff_eq, List.contains_iff_mem,
    List.mem_cons, List.not_mem_nil, or_false] at written
  rcases written with ((alphanumeric | isMark) | rfl) | rfl
  · change (decide (character.val ≥ 'A'.val ∧ character.val ≤ 'Z'.val) ||
        (decide (character.val ≥ 'a'.val) && decide (character.val ≤ 'z'.val)) ||
        (decide (character.val ≥ '0'.val) && decide (character.val ≤ '9'.val))) = true
      at alphanumeric
    simp only [Bool.or_eq_true, Bool.and_eq_true, decide_eq_true_eq, ge_iff_le,
      UInt32.le_iff_toNat_le] at alphanumeric
    have last : 'Z'.val.toNat = 90 ∧ 'z'.val.toNat = 122 ∧ '9'.val.toNat = 57 := ⟨rfl, rfl, rfl⟩
    have same : character.toNat = character.val.toNat := rfl
    omega
  · rcases isMark with rfl | rfl | rfl | rfl <;> decide
  · decide
  · decide

/-- What is written need not be encoded in a query, and separates nothing there. -/
theorem spares_of_isWritten {character : Char} (written : isWritten character = true) :
    querySet character = false ∧ character ≠ '&' ∧ character ≠ '=' := by
  have each : ∀ code < 128, isWritten (Char.ofNat code) = true →
      querySet (Char.ofNat code) = false ∧ Char.ofNat code ≠ '&' ∧ Char.ofNat code ≠ '=' := by
    decide
  have ofCode := each character.toNat (toNat_lt_of_isWritten written)
  rw [Char.ofNat_toNat] at ofCode
  exact ofCode written

/-! ## Read back -/

/-- A plus stands for a space. -/
def unplus (character : Char) : Char :=
  if character = '+' then ' ' else character

theorem decode_eq (text : List Char) : decode text = percentDecode (text.map unplus) := rfl

theorem map_unplus_of_subset {text : List Char} (subset : text ⊆ byteMarks) :
    text.map unplus = text := by
  have same : ∀ mark ∈ byteMarks, unplus mark = mark :=
    List.map_inj_left.mp (show byteMarks.map unplus = byteMarks.map id by decide)
  rw [List.map_congr_left fun mark member => same mark (subset member), List.map_id']

/-- An encoded character is read back in front of anything. -/
theorem decode_encode_append (character : Char) (rest : List Char) :
    decode (encode [character] ++ rest) = Text.Utf8.encode [character] ++ decode rest := by
  rw [decode_eq, decode_eq, List.map_append, encode, List.flatMap_singleton]
  by_cases blank : character = ' '
  · rw [if_pos blank, blank]
    exact percentDecode_cons (by decide) _
  · rw [if_neg blank]
    cases plain : isPlain character with
    | true =>
        have noPlus : character ≠ '+' := by
          rintro rfl
          cases plain
        have noMark : character ≠ '%' := by
          rintro rfl
          cases plain
        rw [if_pos rfl, List.map_singleton, unplus, if_neg noPlus, List.singleton_append,
          percentDecode_cons noMark]
    | false =>
        rw [if_neg Bool.false_ne_true, map_unplus_of_subset (encodeBytes_subset _),
          percentDecode_encodeBytes]

/-- What was encoded is decoded to the bytes of the text. -/
theorem decode_encode (text : List Char) : decode (encode text) = Text.Utf8.encode text := by
  induction text with
  | nil =>
      rfl
  | cons character rest inductionHypothesis =>
      have first : encode ([character] ++ rest) = encode [character] ++ encode rest :=
        List.flatMap_append
      rw [← List.singleton_append, first, decode_encode_append, inductionHypothesis]
      exact List.flatMap_append.symm

/-! ## Pairs -/

/-- The piece of a query that holds a pair. -/
def piece (name value : List Char) : List Char :=
  encode name ++ '=' :: encode value

theorem notMem_encode {separator : Char} (apart : isWritten separator = false)
    (text : List Char) : separator ∉ encode text := by
  intro member
  rw [isWritten_of_mem_encode member] at apart
  cases apart

theorem pair_piece (name value : List Char) :
    pair (piece name value) = (Text.Utf8.encode name, Text.Utf8.encode value) := by
  have apart : ∀ character ∈ encode name, decide (character ≠ '=') = true := by
    intro character member
    exact decide_eq_true (spares_of_isWritten (isWritten_of_mem_encode member)).2.2
  have before : (piece name value).takeWhile (· ≠ '=') = encode name := by
    rw [piece, List.takeWhile_append_of_pos apart, List.takeWhile_cons_of_neg (by decide),
      List.append_nil]
  have behind : (piece name value).dropWhile (· ≠ '=') = '=' :: encode value := by
    rw [piece, List.dropWhile_append_of_pos apart, List.dropWhile_cons_of_neg (by decide)]
  rw [pair, before, behind, List.drop_one, List.tail_cons, decode_encode, decode_encode]

theorem pieces_piece (name value : List Char) : pieces (piece name value) = [piece name value] := by
  have whole : '&' ∉ piece name value := by
    rw [piece, List.mem_append, List.mem_cons]
    rintro (inName | same | inValue)
    · exact notMem_encode (by decide) name inName
    · cases same
    · exact notMem_encode (by decide) value inValue
  have some : (piece name value).isEmpty = false := by simp [piece]
  rw [pieces, List.splitOn_eq_singleton whole]
  simp [some]

/-- A further pair is read back behind those that are there. -/
theorem pairs_append (query name value : List Char) :
    pairs (append query name value) =
      pairs query ++ [(Text.Utf8.encode name, Text.Utf8.encode value)] := by
  have last : pairs (piece name value) = [(Text.Utf8.encode name, Text.Utf8.encode value)] := by
    rw [pairs, pieces_piece, List.map_singleton, pair_piece]
  rw [← last]
  cases query with
  | nil =>
      rfl
  | cons character rest =>
      have splits : append (character :: rest) name value =
          (character :: rest) ++ '&' :: piece name value := by
        simp [append, piece]
      rw [splits, pairs, pieces, List.splitOn_append_cons_self, List.filter_append, List.map_append]
      rfl

/-- Nothing has to be encoded in a query to which a pair is added, if nothing had to be before. -/
theorem unreserved_append {query : List Char}
    (unreserved : ∀ character ∈ query, querySet character = false) (name value : List Char) :
    ∀ character ∈ append query name value, querySet character = false := by
  have written (text : List Char) : ∀ character ∈ encode text, querySet character = false :=
    fun character member => (spares_of_isWritten (isWritten_of_mem_encode member)).1
  rw [append]
  simp only [List.forall_mem_append, List.forall_mem_cons]
  refine ⟨⟨⟨unreserved, ?_⟩, written name⟩, by decide, written value⟩
  split
  · exact fun character member => absurd member List.not_mem_nil
  · exact List.forall_mem_singleton.mpr (by decide)

end Form

end Parley.Url
