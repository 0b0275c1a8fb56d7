import Parley.Proofs.Url.Form

/-!
# The parts of a URL in its text

Nothing before the query of a URL that was read holds a question mark or a number sign, and nothing
in its query a number sign. So a reader of the text finds the query between the first question mark
and the first number sign, also once further pairs are in it. The main statements are
`sections_render` and `pairs_appendPairs`.
-/

namespace Parley.Url

/-- Neither a query nor a fragment begins in the text. -/
def Quiet (text : List Char) : Prop :=
  ∀ character ∈ text, character ≠ '?' ∧ character ≠ '#'

section Quiet

variable {first second text : List Char} {character : Char}

theorem quiet_append : Quiet (first ++ second) ↔ Quiet first ∧ Quiet second :=
  List.forall_mem_append

theorem quiet_cons :
    Quiet (character :: text) ↔ (character ≠ '?' ∧ character ≠ '#') ∧ Quiet text :=
  List.forall_mem_cons

theorem quiet_nil : Quiet [] :=
  fun _ member => absurd member List.not_mem_nil

theorem quiet_of_all (all : text.all (fun character => character ≠ '?' ∧ character ≠ '#') = true) :
    Quiet text :=
  fun character member => of_decide_eq_true (List.all_eq_true.mp all character member)

theorem quiet_flatMap {α : Type} {items : List α} {write : α → List Char}
    (each : ∀ item ∈ items, Quiet (write item)) : Quiet (items.flatMap write) := by
  intro character member
  obtain ⟨item, inside, writes⟩ := List.mem_flatMap.mp member
  exact each item inside character writes

end Quiet

/-- Digits of any base up to sixteen begin nothing. -/
theorem quiet_toDigits {base : Nat} (two : 1 < base) (sixteen : base ≤ 16) (value : Nat) :
    Quiet (Nat.toDigits base value) := by
  have each : ∀ digit < 16, Quiet [Nat.digitChar digit] := by
    intro digit small
    have all : ∀ digit < 16,
        Nat.digitChar digit ≠ '?' ∧ Nat.digitChar digit ≠ '#' := by decide
    exact quiet_cons.mpr ⟨all digit small, quiet_nil⟩
  induction value using Nat.strongRecOn with
  | ind value inductionHypothesis =>
      rw [Nat.toDigits_eq_if two]
      split
      next small =>
        exact each value (by omega)
      next large =>
        have shorter : value / base < value := Nat.div_lt_self (by omega) two
        have last : value % base < base := Nat.mod_lt _ (by omega)
        exact quiet_append.mpr ⟨inductionHypothesis _ shorter, each _ (by omega)⟩

theorem quiet_of_mem_splitOn {mark : Char} {text : List Char} (quiet : Quiet text) :
    ∀ piece ∈ text.splitOn mark, Quiet piece := by
  induction text with
  | nil =>
      intro piece member
      rw [List.splitOn_nil, List.mem_singleton] at member
      rw [member]
      exact quiet_nil
  | cons character rest inductionHypothesis =>
      obtain ⟨first, others⟩ := quiet_cons.mp quiet
      have pieces := inductionHypothesis others
      rw [List.splitOn_cons_eq_if_modifyHead]
      split
      · exact List.forall_mem_cons.mpr ⟨quiet_nil, pieces⟩
      · cases splits : rest.splitOn mark with
        | nil =>
            exact absurd splits (List.splitOn_ne_nil mark rest)
        | cons piece behind =>
            rw [splits] at pieces
            obtain ⟨head, tail⟩ := List.forall_mem_cons.mp pieces
            exact List.forall_mem_cons.mpr ⟨quiet_cons.mpr ⟨first, head⟩, tail⟩

/-! ## Domain names -/

namespace Punycode

theorem quiet_digit {value : Nat} (small : value < 36) :
    digit value ≠ '?' ∧ digit value ≠ '#' := by
  have all : ∀ value < 36, digit value ≠ '?' ∧ digit value ≠ '#' := by decide
  exact all value small

theorem quiet_encodeDelta (bias fuel index delta : Nat) :
    Quiet (encodeDelta bias fuel index delta) := by
  induction fuel generalizing index delta with
  | zero =>
      exact quiet_nil
  | succ fuel inductionHypothesis =>
      have low : threshold index bias ≤ 26 := Nat.min_le_right _ _
      rw [encodeDelta]
      split
      next small =>
        exact quiet_cons.mpr ⟨quiet_digit (by omega), quiet_nil⟩
      next large =>
        have rest : (delta - threshold index bias) % (36 - threshold index bias) <
            36 - threshold index bias := Nat.mod_lt _ (by omega)
        exact quiet_cons.mpr ⟨quiet_digit (by omega), inductionHypothesis _ _⟩

theorem quiet_encodePlaces (point : Nat) {progress : Progress} (quiet : Quiet progress.written)
    (label : List Char) : Quiet (encodePlaces point progress label).written := by
  induction label generalizing progress with
  | nil =>
      exact quiet
  | cons character rest inductionHypothesis =>
      rw [encodePlaces]
      split
      · exact inductionHypothesis quiet
      · split
        · exact inductionHypothesis (quiet_append.mpr ⟨quiet, quiet_encodeDelta _ _ _ _⟩)
        · exact inductionHypothesis quiet

theorem quiet_encodeFrom (label : List Char) (fuel point : Nat) {progress : Progress}
    (quiet : Quiet progress.written) : Quiet (encodeFrom label fuel point progress) := by
  induction fuel generalizing point progress with
  | zero =>
      exact quiet
  | succ fuel inductionHypothesis =>
      rw [encodeFrom]
      split
      · exact quiet
      · refine inductionHypothesis _ ?_
        refine quiet_encodePlaces _ ?_ label
        exact quiet

theorem quiet_encode {label : List Char} (quiet : Quiet label) : Quiet (encode label) := by
  have plain : Quiet (label.filter (·.toNat < 128)) :=
    fun character member => quiet character (List.mem_filter.mp member).1
  apply quiet_encodeFrom
  split
  · exact quiet_nil
  · exact quiet_append.mpr ⟨plain, quiet_cons.mpr ⟨by decide, quiet_nil⟩⟩

end Punycode

namespace Domain

theorem quiet_of_isForbidden {text : List Char} (allowed : text.any isForbidden = false) :
    Quiet text := by
  intro character member
  have held := List.any_eq_false.mp allowed character member
  constructor
  · rintro rfl
    exact held (by decide)
  · rintro rfl
    exact held (by decide)

theorem quiet_readLabel? {label read : List Char} (quiet : Quiet label)
    (reads : readLabel? label = some read) : Quiet read := by
  unfold readLabel? at reads
  split at reads
  · split at reads
    · cases reads
      exact quiet
    · cases reads
  next tail encoded =>
    cases decodes : Punycode.decode? tail with
    | none =>
        rw [decodes] at reads
        cases reads
    | some decoded =>
        rw [decodes] at reads
        simp only [Option.bind_eq_bind, Option.bind_some] at reads
        split at reads
        · cases reads
        next fits =>
          obtain ⟨prepared, -, same⟩ := Option.bind_eq_some_iff.mp reads
          split at same
          · cases same
            refine quiet_of_isForbidden ?_
            simp only [Bool.or_eq_true, not_or, Bool.not_eq_true] at fits
            exact fits.2
          · cases same

theorem quiet_writeLabel {label : List Char} (quiet : Quiet label) : Quiet (writeLabel label) := by
  rw [writeLabel]
  split
  · exact quiet
  · refine quiet_append.mpr ⟨?_, Punycode.quiet_encode quiet⟩
    exact quiet_of_all (by decide)

theorem quiet_joinLabels {labels : List (List Char)} (quiet : ∀ label ∈ labels, Quiet label) :
    Quiet (joinLabels labels) := by
  induction labels with
  | nil =>
      exact quiet_nil
  | cons label rest inductionHypothesis =>
      obtain ⟨first, others⟩ := List.forall_mem_cons.mp quiet
      cases rest with
      | nil =>
          exact first
      | cons second rest =>
          exact quiet_append.mpr ⟨first, quiet_cons.mpr ⟨by decide, inductionHypothesis others⟩⟩

theorem quiet_readLabels {labels read : List (List Char)} (quiet : ∀ label ∈ labels, Quiet label)
    (reads : labels.mapM readLabel? = some read) : ∀ label ∈ read, Quiet label := by
  induction labels generalizing read with
  | nil =>
      cases reads
      exact fun label member => absurd member List.not_mem_nil
  | cons label rest inductionHypothesis =>
      obtain ⟨first, others⟩ := List.forall_mem_cons.mp quiet
      rw [List.mapM_cons] at reads
      obtain ⟨readFirst, readsFirst, reads⟩ := Option.bind_eq_some_iff.mp reads
      obtain ⟨readRest, readsRest, same⟩ := Option.bind_eq_some_iff.mp reads
      cases same
      exact List.forall_mem_cons.mpr
        ⟨quiet_readLabel? first readsFirst, inductionHypothesis others readsRest⟩

theorem quiet_toAscii? {name ascii : List Char} (writes : toAscii? name = some ascii) :
    Quiet ascii := by
  obtain ⟨prepared, -, writes⟩ := Option.bind_eq_some_iff.mp writes
  split at writes
  · cases writes
  next allowed =>
    obtain ⟨labels, readsLabels, writes⟩ := Option.bind_eq_some_iff.mp writes
    have quiet : Quiet prepared := quiet_of_isForbidden (Bool.not_eq_true _ ▸ allowed)
    have each := quiet_readLabels (quiet_of_mem_splitOn quiet) readsLabels
    dsimp only at writes
    split at writes
    · cases writes
    · cases writes
      refine quiet_joinLabels fun written member => ?_
      obtain ⟨label, inside, same⟩ := List.mem_map.mp member
      rw [← same]
      exact quiet_writeLabel (each label inside)

end Domain

/-! ## Hosts -/

theorem quiet_renderIpv4 (address : Nat) : Quiet (renderIpv4 address) := by
  have byte (value : Nat) : Quiet (Nat.toDigits 10 value) :=
    quiet_toDigits (by decide) (by decide) value
  have dot {rest : List Char} (quiet : Quiet rest) : Quiet ('.' :: rest) :=
    quiet_cons.mpr ⟨by decide, quiet⟩
  rw [renderIpv4]
  exact quiet_append.mpr ⟨byte _, dot (quiet_append.mpr ⟨byte _, dot (quiet_append.mpr
    ⟨byte _, dot (byte _)⟩)⟩)⟩

theorem quiet_renderPieces (pieces : List Nat) : Quiet (renderPieces pieces) := by
  have digits (piece : Nat) : Quiet (Nat.toDigits 16 piece) :=
    quiet_toDigits (by decide) (by decide) piece
  induction pieces with
  | nil =>
      exact quiet_nil
  | cons piece rest inductionHypothesis =>
      cases rest with
      | nil =>
          exact digits piece
      | cons second rest =>
          exact quiet_append.mpr
            ⟨digits piece, quiet_cons.mpr ⟨by decide, inductionHypothesis⟩⟩

theorem quiet_renderIpv6 (pieces : List Nat) : Quiet (renderIpv6 pieces) := by
  rw [renderIpv6]
  split
  · exact quiet_renderPieces pieces
  · exact quiet_append.mpr ⟨quiet_renderPieces _, quiet_cons.mpr ⟨by decide,
      quiet_cons.mpr ⟨by decide, quiet_renderPieces _⟩⟩⟩

theorem Host.quiet_render {text : List Char} {host : Host} (reads : Host.read text = .ok host) :
    Quiet host.render := by
  have address (pieces : List Nat) : Quiet (Host.ipv6 pieces).render :=
    quiet_cons.mpr ⟨by decide, quiet_append.mpr
      ⟨quiet_renderIpv6 pieces, quiet_cons.mpr ⟨by decide, quiet_nil⟩⟩⟩
  cases host with
  | ipv4 address =>
      exact quiet_renderIpv4 address
  | ipv6 pieces =>
      exact address pieces
  | domain name =>
      unfold Host.read at reads
      split at reads
      · cases reads
      · split at reads
        next rest closed =>
          cases address : readIpv6 rest.dropLast with
          | error defect =>
              rw [address] at reads
              cases reads
          | ok pieces =>
              rw [address] at reads
              cases reads
        · cases reads
      · split at reads
        · cases reads
        · split at reads
          · cases reads
          · cases reads
          next ascii some writes =>
            split at reads
            · cases address : readIpv4 ascii with
              | error defect =>
                  rw [address] at reads
                  cases reads
              | ok address =>
                  rw [address] at reads
                  cases reads
            · cases reads
              exact Domain.quiet_toAscii? writes

/-! ## Encoded parts -/

theorem quiet_percentEncode {reserved : ReservedSet} (question : reserved '?' = true)
    (sign : reserved '#' = true)
    (spares : byteMarks.all (! reserved ·) = true) (text : List Char) :
    Quiet (percentEncode reserved text) := by
  intro character member
  have unreserved := unreserved_of_mem_percentEncode spares member
  constructor
  · rintro rfl
    rw [question] at unreserved
    cases unreserved
  · rintro rfl
    rw [sign] at unreserved
    cases unreserved

theorem quiet_encodeUser (text : List Char) : Quiet (percentEncode userSet text) :=
  quiet_percentEncode (by decide) (by decide) (by decide) text

theorem quiet_encodeSegment (text : List Char) : Quiet (percentEncode pathSet text) :=
  quiet_percentEncode (by decide) (by decide) (by decide) text

theorem quiet_ascend {above : List (List Char)} (quiet : ∀ segment ∈ above, Quiet segment) :
    ∀ segment ∈ ascend above, Quiet segment := by
  cases above with
  | nil =>
      exact quiet
  | cons segment above =>
      rw [ascend]
      split
      · exact quiet
      · exact (List.forall_mem_cons.mp quiet).2

theorem quiet_resolve {above segments : List (List Char)}
    (quietAbove : ∀ segment ∈ above, Quiet segment)
    (quiet : ∀ segment ∈ segments, Quiet segment) :
    ∀ segment ∈ resolve above segments, Quiet segment := by
  induction segments generalizing above with
  | nil =>
      intro segment member
      exact quietAbove segment (List.mem_reverse.mp member)
  | cons segment rest inductionHypothesis =>
      obtain ⟨first, others⟩ := List.forall_mem_cons.mp quiet
      have dropped {above : List (List Char)} (quietAbove : ∀ segment ∈ above, Quiet segment) :
          ∀ segment ∈ if rest.isEmpty then ([] :: above).reverse else resolve above rest,
            Quiet segment := by
        split
        · intro segment member
          exact List.forall_mem_cons.mpr ⟨quiet_nil, quietAbove⟩ segment
            (List.mem_reverse.mp member)
        · exact inductionHypothesis quietAbove others
      rw [resolve]
      cases double : isDoubleDot segment with
      | true =>
          exact dropped (quiet_ascend quietAbove)
      | false =>
          cases single : isSingleDot segment with
          | true =>
              exact dropped quietAbove
          | false =>
              exact inductionHypothesis (List.forall_mem_cons.mpr ⟨first, quietAbove⟩) others

theorem quiet_readPath (text : List Char) : ∀ segment ∈ readPath text, Quiet segment := by
  refine quiet_resolve (fun segment member => absurd member List.not_mem_nil) ?_
  intro segment member
  obtain ⟨source, -, same⟩ := List.mem_map.mp member
  rw [← same]
  exact quiet_encodeSegment source

/-! ## The text of a URL -/

/-- The text before the query, the query and the fragment, as a reader of a URL finds them. -/
def sections (text : List Char) : List Char × Option (List Char) × Option (List Char) :=
  let (before, fragment) := splitAtMark '#' text
  let (front, query) := splitAtMark '?' before
  (front, query, fragment)

namespace Parts

def front (url : Parts) : List Char :=
  url.scheme.name.toList ++ [':', '/', '/'] ++ url.renderUser ++ url.host.render ++
    url.renderPort ++ url.path.flatMap ('/' :: ·)

theorem toList_render (url : Parts) : url.render.toList =
    url.front ++ renderMarked '?' url.query ++ renderMarked '#' url.fragment :=
  String.toList_ofList

/-- What holds of the parts of a URL that was read: its query begins where the text says so, and
nothing has to be encoded in it. -/
structure Settled (url : Parts) : Prop where
  front : Quiet url.front
  query : ∀ query ∈ url.query, ∀ character ∈ query, querySet character = false

theorem quiet_renderUser {url : Parts} (username : Quiet url.username)
    (password : Quiet url.password) : Quiet url.renderUser := by
  rw [renderUser]
  split
  · exact quiet_nil
  · refine quiet_append.mpr ⟨quiet_append.mpr ⟨username, ?_⟩, quiet_cons.mpr ⟨by decide, quiet_nil⟩⟩
    split
    · exact quiet_nil
    · exact quiet_cons.mpr ⟨by decide, password⟩

theorem quiet_renderPort (url : Parts) : Quiet url.renderPort := by
  rw [renderPort]
  split
  · exact quiet_cons.mpr ⟨by decide, quiet_toDigits (by decide) (by decide) _⟩
  · exact quiet_nil

/-- Where the parts of a URL that was read come from. -/
theorem read_eq_ok {scheme : Scheme} {text : List Char} {url : Parts}
    (reads : read scheme text = .ok url) :
    (∃ name, Host.read name = .ok url.host) ∧
      (∃ user, url.username = (readUser user).1 ∧ url.password = (readUser user).2) ∧
      (∃ path, url.path = readPath path) ∧
      ∃ query, url.query = Option.map (percentEncode querySet) query := by
  unfold read at reads
  dsimp only [Bind.bind, Except.bind] at reads
  split at reads
  · cases reads
  · split at reads
    · cases reads
    next host readsHost =>
      split at reads
      · cases reads
      · cases reads
        dsimp only
        exact ⟨⟨_, readsHost⟩, ⟨_, rfl, rfl⟩, ⟨_, rfl⟩, ⟨_, rfl⟩⟩

/-- Every URL that is read is settled. -/
theorem settled_of_read {scheme : Scheme} {text : List Char} {url : Parts}
    (reads : read scheme text = .ok url) : url.Settled := by
  obtain ⟨⟨name, isHost⟩, ⟨user, isName, isPassword⟩, ⟨path, isPath⟩, source,
    isQuery⟩ := read_eq_ok reads
  constructor
  · have begins : Quiet (url.scheme.name.toList ++ [':', '/', '/']) := by
      cases url.scheme <;> exact quiet_of_all (by decide)
    have writesUser : Quiet url.renderUser := by
      exact quiet_renderUser (isName ▸ quiet_encodeUser _) (isPassword ▸ quiet_encodeUser _)
    have writesPath : Quiet (url.path.flatMap ('/' :: ·)) := by
      rw [isPath]
      exact quiet_flatMap fun segment member =>
        quiet_cons.mpr ⟨by decide, quiet_readPath path segment member⟩
    simp only [front, quiet_append] at begins ⊢
    exact ⟨⟨⟨⟨begins, writesUser⟩, Host.quiet_render isHost⟩, quiet_renderPort url⟩, writesPath⟩
  · intro query held character member
    rw [isQuery] at held
    obtain ⟨text, -, same⟩ := Option.map_eq_some_iff.mp held
    rw [← same] at member
    exact unreserved_of_mem_percentEncode (by decide) member

/-! ## Further pairs -/

/-- The URL with further pairs at the end of its query, one after the other. -/
def appendPairs (url : Parts) (pairs : List (String × String)) : Parts :=
  pairs.foldl (fun url pair => url.appendPair pair.1 pair.2) url

theorem Settled.appendPair {url : Parts} (settled : url.Settled) (name value : String) :
    (url.appendPair name value).Settled where
  front := settled.front
  query := by
    rintro query ⟨⟩
    refine Form.unreserved_append ?_ _ _
    cases held : url.query with
    | none =>
        exact fun character member => absurd member List.not_mem_nil
    | some query =>
        exact settled.query query held

theorem Settled.appendPairs {url : Parts} (settled : url.Settled)
    (pairs : List (String × String)) : (url.appendPairs pairs).Settled := by
  induction pairs generalizing url with
  | nil =>
      exact settled
  | cons pair rest inductionHypothesis =>
      exact inductionHypothesis (settled.appendPair pair.1 pair.2)

/-- Further pairs change the query alone. -/
theorem appendPairs_elsewhere (url : Parts) (pairs : List (String × String)) :
    { url.appendPairs pairs with query := url.query } = url := by
  induction pairs generalizing url with
  | nil =>
      rfl
  | cons pair rest inductionHypothesis =>
      have others := inductionHypothesis (url.appendPair pair.1 pair.2)
      exact congrArg (fun after => { after with query := url.query }) others

/-- Further pairs are read back behind those that are there. -/
theorem pairs_appendPairs (url : Parts) (pairs : List (String × String)) :
    Form.pairs ((url.appendPairs pairs).query.getD []) = Form.pairs (url.query.getD []) ++
      pairs.map fun pair => (Text.Utf8.encode pair.1.toList, Text.Utf8.encode pair.2.toList) := by
  induction pairs generalizing url with
  | nil =>
      exact (List.append_nil _).symm
  | cons pair rest inductionHypothesis =>
      have first : Form.pairs ((url.appendPair pair.1 pair.2).query.getD []) =
          Form.pairs (url.query.getD []) ++
            [(Text.Utf8.encode pair.1.toList, Text.Utf8.encode pair.2.toList)] :=
        Form.pairs_append _ _ _
      rw [appendPairs, List.foldl_cons, ← appendPairs, inductionHypothesis, first,
        List.append_assoc, List.map_cons, List.singleton_append]

/-! ## Found in the text -/

theorem splitAtMark_renderMarked {mark : Char} {before : List Char} (absent : mark ∉ before)
    (behind : Option (List Char)) :
    splitAtMark mark (before ++ renderMarked mark behind) = (before, behind) := by
  have apart : ∀ character ∈ before, decide (character ≠ mark) = true := by
    intro character member
    exact decide_eq_true fun same => absent (same ▸ member)
  unfold splitAtMark
  cases behind with
  | none =>
      rw [renderMarked, List.dropWhile_append_of_pos apart, List.dropWhile_nil, List.append_nil]
  | some after =>
      rw [renderMarked, List.dropWhile_append_of_pos apart, List.takeWhile_append_of_pos apart,
        List.dropWhile_cons_of_neg (by simp), List.takeWhile_cons_of_neg (by simp), List.append_nil]

/-- A reader of the text finds the query and the fragment that the URL has. -/
theorem Settled.sections_render {url : Parts} (settled : url.Settled) :
    sections url.render.toList = (url.front, url.query, url.fragment) := by
  have noSign : '#' ∉ url.front ++ renderMarked '?' url.query := by
    intro member
    rcases List.mem_append.mp member with inFront | behind
    · exact (settled.front '#' inFront).2 rfl
    · cases held : url.query with
      | none =>
          rw [held] at behind
          cases behind
      | some query =>
          rw [held] at behind
          rcases List.mem_cons.mp behind with same | inQuery
          · cases same
          · have unreserved := settled.query query held '#' inQuery
            cases unreserved
  have noQuestion : '?' ∉ url.front := fun member => (settled.front '?' member).1 rfl
  rw [toList_render, sections, splitAtMark_renderMarked noSign]
  dsimp only
  rw [splitAtMark_renderMarked noQuestion]

end Parts

end Parley.Url
