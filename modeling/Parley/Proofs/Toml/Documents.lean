import Parley.Proofs.Toml.Scalars
import Parley.Toml.Reader

/-!
# Documents of TOML, written and read

What the reader does with a document is what its lines do one after the other: a header opens a
table, and an entry goes to the table that was opened last. The main statement is that this also
holds of the text that sections are written as, so that reading it gives the table to which the
sections add up, whatever their values are.
-/

namespace Parley.Toml

/-! ## Sections -/

namespace Draft

/-- The document with an entry of the table under the header. -/
def enter? (draft : Draft) (entry : String × Toml) : Option Draft :=
  (changeAt .header (insert [] entry.1 entry.2) draft.header draft.document).map fun document =>
    { draft with document }

/-- The document with the table of a header. A section without one goes on with the table that
is open. -/
def open? (draft : Draft) (header : List String) : Option Draft :=
  match header.getLast? with
  | none => some draft
  | some key =>
      (changeAt .header (openTable key) header.dropLast draft.document).map fun document =>
        ⟨document, header⟩

/-- The document with everything that a section says. -/
def follow? (draft : Draft) (part : Section) : Option Draft := do
  part.entries.foldlM enter? (← draft.open? part.header)

end Draft

/-- A key that is written without quotation marks. -/
def isBareKey (key : String) : Bool :=
  ! key.toList.isEmpty && key.toList.all isBare

/-- The keys of a section are written without quotation marks, and its header is not too long to
be read. -/
structure Section.IsBare (part : Section) : Prop where
  header : ∀ key ∈ part.header, isBareKey key = true
  isShort : part.header.length < nestingLimit
  entries : ∀ entry ∈ part.entries, isBareKey entry.1 = true

theorem Section.isBare_iff {part : Section} :
    part.IsBare ↔
      (∀ key ∈ part.header, isBareKey key = true) ∧ part.header.length < nestingLimit ∧
        ∀ entry ∈ part.entries, isBareKey entry.1 = true :=
  ⟨fun bare => ⟨bare.header, bare.isShort, bare.entries⟩,
    fun ⟨header, isShort, entries⟩ => ⟨header, isShort, entries⟩⟩

/-! ## Keys -/

theorem ne_of_isBare {character other : Char} (bare : isBare character = true)
    (notBare : isBare other = false) : character ≠ other := by
  rintro rfl
  rw [bare] at notBare
  cases notBare

theorem isBlank_of_isBare {character : Char} (bare : isBare character = true) :
    isBlank character = false := by
  have notSpace : character ≠ ' ' := ne_of_isBare bare rfl
  have notTab : character ≠ '\t' := ne_of_isBare bare rfl
  simp [isBlank, notSpace, notTab]

/-- The characters of a key without quotation marks. -/
structure BareKey (key : String) (first : Char) (later : List Char) : Prop where
  is : key.toList = first :: later
  first : isBare first = true
  later : ∀ character ∈ later, isBare character = true

theorem bareKey {key : String} (bare : isBareKey key = true) :
    ∃ first later, BareKey key first later := by
  rw [isBareKey, Bool.and_eq_true, List.all_eq_true] at bare
  obtain ⟨isSome, areBare⟩ := bare
  cases is : key.toList with
  | nil =>
      rw [is] at isSome
      cases isSome
  | cons first later =>
      rw [is] at areBare
      obtain ⟨isFirst, areLater⟩ := List.forall_mem_cons.mp areBare
      exact ⟨first, later, is, isFirst, areLater⟩

/-- What may stand behind a key, and what is left of it without its blanks. -/
structure EndsKey (rest following : List Char) : Prop where
  notBare : ∀ next ∈ rest.head?, isBare next = false
  skips : skipBlanks rest = following
  notDot : following.head? ≠ some '.'

section Keys

variable {key : String} {rest following : List Char}

theorem takeWhile_bare {text : List Char} (bare : ∀ character ∈ text, isBare character = true)
    (notBare : ∀ next ∈ rest.head?, isBare next = false) :
    (text ++ rest).takeWhile isBare = text ∧ (text ++ rest).dropWhile isBare = rest := by
  rw [List.takeWhile_append_of_pos bare, List.dropWhile_append_of_pos bare]
  cases rest with
  | nil =>
      exact ⟨List.append_nil _, rfl⟩
  | cons next later =>
      have stops : ¬ isBare next = true := by
        rw [notBare next rfl]
        exact Bool.false_ne_true
      rw [List.takeWhile_cons_of_neg stops, List.dropWhile_cons_of_neg stops]
      exact ⟨List.append_nil _, rfl⟩

theorem readPart?_bare (bare : isBareKey key = true)
    (notBare : ∀ next ∈ rest.head?, isBare next = false) :
    readPart? (key.toList ++ rest) = some (key, rest) := by
  obtain ⟨first, later, spelled⟩ := bareKey bare
  have areBare : ∀ character ∈ first :: later, isBare character = true :=
    List.forall_mem_cons.mpr ⟨spelled.first, spelled.later⟩
  obtain ⟨taken, dropped⟩ := takeWhile_bare areBare notBare
  have notQuote : first ≠ '"' := ne_of_isBare spelled.first rfl
  have notApostrophe : first ≠ '\x27' := ne_of_isBare spelled.first rfl
  have same : String.ofList (first :: later) = key := by
    rw [← spelled.is, String.ofList_toList]
  rw [spelled.is]
  unfold readPart?
  split
  next isQuote =>
    exact absurd (List.cons.inj isQuote).1 notQuote
  next isApostrophe =>
    exact absurd (List.cons.inj isApostrophe).1 notApostrophe
  next =>
    simp only [taken, dropped, List.isEmpty_cons, Bool.false_eq_true, if_false,
      readPart?.asPart, same]

theorem skipBlanks_bare (bare : isBareKey key = true) :
    skipBlanks (key.toList ++ rest) = key.toList ++ rest := by
  obtain ⟨first, later, spelled⟩ := bareKey bare
  have notBlank : ¬ isBlank first = true := by
    rw [isBlank_of_isBare spelled.first]
    exact Bool.false_ne_true
  rw [spelled.is, List.cons_append, skipBlanks, List.dropWhile_cons_of_neg notBlank]

theorem readParts?_bare {fuel : Nat} (bare : isBareKey key = true) (ends : EndsKey rest following) :
    readParts? (fuel + 1) (key.toList ++ rest) = some ([key], following) := by
  rw [readParts?, skipBlanks_bare bare, readPart?_bare bare ends.notBare]
  simp only [Option.bind_eq_bind, Option.bind_some, ends.skips]
  split
  next _ =>
    exact absurd rfl ends.notDot
  next =>
    rfl

theorem readParts?_path {fuel : Nat} {path : List String}
    (bare : ∀ part ∈ path, isBareKey part = true) (some : path ≠ []) (enough : path.length ≤ fuel)
    (ends : EndsKey rest following) :
    readParts? fuel ((".".intercalate path).toList ++ rest) = .some (path, following) := by
  induction path generalizing fuel with
  | nil =>
      exact absurd rfl some
  | cons first more inductionHypothesis =>
      obtain ⟨isFirst, areMore⟩ := List.forall_mem_cons.mp bare
      obtain ⟨fuel, rfl⟩ := Nat.exists_eq_succ_of_ne_zero (Nat.ne_zero_of_lt enough)
      cases more with
      | nil =>
          rw [String.intercalate_singleton]
          exact readParts?_bare isFirst ends
      | cons second others =>
          have goesOn := inductionHypothesis areMore (List.cons_ne_nil _ _)
            (Nat.le_of_succ_le_succ enough)
          have notBare : ∀ next ∈ ('.' :: ((".".intercalate (second :: others)).toList ++
              rest)).head?, isBare next = false := by
            rintro next ⟨⟩
            rfl
          have dot : skipBlanks ('.' :: ((".".intercalate (second :: others)).toList ++ rest)) =
              '.' :: ((".".intercalate (second :: others)).toList ++ rest) := rfl
          have spelled : (".".intercalate (first :: second :: others)).toList ++ rest =
              first.toList ++ '.' :: ((".".intercalate (second :: others)).toList ++ rest) := by
            rw [String.intercalate_cons_cons]
            simp
          rw [spelled, readParts?, skipBlanks_bare isFirst, readPart?_bare isFirst notBare]
          simp only [Option.bind_eq_bind, Option.bind_some, dot, goesOn]

theorem readKey?_path {path : List String} {last : String}
    (bare : ∀ part ∈ path, isBareKey part = true) (ended : path.getLast? = some last)
    (isShort : path.length < nestingLimit) (ends : EndsKey rest following) :
    readKey? ((".".intercalate path).toList ++ rest) =
      some ((path.dropLast, last), following) := by
  have some : path ≠ [] := by
    rintro rfl
    cases ended
  rw [readKey?, readParts?_path bare some (Nat.le_sub_one_of_lt isShort) ends]
  simp only [Option.bind_eq_bind, Option.bind_some, ended]

theorem readKey?_bare (bare : isBareKey key = true) (ends : EndsKey rest following) :
    readKey? (key.toList ++ rest) = some (([], key), following) := by
  have single : readKey? ((".".intercalate [key]).toList ++ rest) = some (([], key), following) :=
    readKey?_path (List.forall_mem_singleton.mpr bare) rfl (Nat.succ_lt_succ (Nat.zero_lt_succ 78))
      ends
  rwa [String.intercalate_singleton] at single

end Keys

/-! ## What is written -/

section Written

variable {text : String}

theorem renderEntries?_cons {key : String} {value : Toml} {more : List (String × Toml)}
    (written : renderEntries? ((key, value) :: more) = some text) :
    ∃ spelled later, renderValue? value = some spelled ∧ renderEntries? more = some later ∧
      text.toList = key.toList ++ (" = ".toList ++ (spelled.toList ++ '\n' :: later.toList)) := by
  rw [renderEntries?] at written
  obtain ⟨spelled, value, written⟩ := Option.bind_eq_some_iff.mp written
  obtain ⟨later, others, written⟩ := Option.bind_eq_some_iff.mp written
  cases written
  exact ⟨spelled, later, value, others, by simp⟩

/-- A section is written without a header, or with one that has a last key. -/
theorem Section.render?_eq_some {part : Section} (written : part.render? = some text) :
    ∃ entries, renderEntries? part.entries = some entries ∧
      (part.header.getLast? = none ∧ text = entries ∨
        ∃ key, part.header.getLast? = some key ∧
          text.toList = '[' :: ((".".intercalate part.header).toList ++
            (']' :: '\n' :: entries.toList))) := by
  rw [Section.render?] at written
  obtain ⟨entries, renders, written⟩ := Option.bind_eq_some_iff.mp written
  cases written
  refine ⟨entries, renders, ?_⟩
  cases ended : part.header.getLast? with
  | none =>
      have noHeader : part.header = [] := List.getLast?_eq_none_iff.mp ended
      exact Or.inl ⟨rfl, by simp [noHeader]⟩
  | some key =>
      have hasHeader : part.header ≠ [] := by
        intro noHeader
        rw [noHeader] at ended
        cases ended
      exact Or.inr ⟨key, rfl, by simp [hasHeader]⟩

theorem mapM_render?_cons {part : Section} {more : List Section} {texts : List String}
    (written : (part :: more).mapM Section.render? = some texts) :
    ∃ text others, part.render? = some text ∧ more.mapM Section.render? = some others ∧
      texts = text :: others := by
  rw [List.mapM_cons] at written
  obtain ⟨text, renders, written⟩ := Option.bind_eq_some_iff.mp written
  obtain ⟨others, rendersMore, written⟩ := Option.bind_eq_some_iff.mp written
  cases written
  exact ⟨text, others, renders, rendersMore, rfl⟩

end Written

/-! ## Lines -/

/-- From a draft on, what is left of a document leads to a table. -/
def Draft.Reads (draft : Draft) (text : List Char) (read : Toml) : Prop :=
  ∀ fuel, text.length < fuel → draft.readLines? fuel text = some read

section Lines

variable {draft next : Draft} {rest : List Char} {read : Toml}

theorem Draft.reads_end (draft : Draft) : draft.Reads [] draft.document := by
  intro fuel enough
  obtain ⟨fuel, rfl⟩ := Nat.exists_eq_succ_of_ne_zero (Nat.ne_zero_of_lt enough)
  rfl

theorem Draft.Reads.emptyLine (reads : draft.Reads rest read) :
    draft.Reads ('\n' :: rest) read := by
  intro fuel enough
  obtain ⟨fuel, rfl⟩ := Nat.exists_eq_succ_of_ne_zero (Nat.ne_zero_of_lt enough)
  exact reads fuel (Nat.lt_of_succ_lt_succ enough)

theorem readValue?_scalar {depth : Nat} {first : Char} {later : List Char}
    (opens : OpensScalar first) :
    readValue? (depth + 1) (first :: later) = readScalar? (first :: later) := by
  have notBracket := opens.notBracket
  have notBrace := opens.notBrace
  unfold readValue?
  split <;> simp_all

/-- A line that starts with a key is an entry. -/
theorem Draft.readLines?_bare {fuel : Nat} {first : Char} {later : List Char}
    (bare : isBare first = true) :
    draft.readLines? (fuel + 1) (first :: later) = (do
      let (draft, rest) ← draft.readEntry? (first :: later)
      draft.readLines? fuel (← finishLine? rest)) := by
  have notBlank : ¬ isBlank first = true := by
    rw [isBlank_of_isBare bare]
    exact Bool.false_ne_true
  rw [Draft.readLines?, skipBlanks, List.dropWhile_cons_of_neg notBlank]
  split
  next same =>
    cases same
  next same =>
    exact absurd (List.cons.inj same).1 (ne_of_isBare bare rfl)
  next same =>
    exact absurd (List.cons.inj same).1 (ne_of_isBare bare rfl)
  next same =>
    exact absurd (List.cons.inj same).1 (ne_of_isBare bare rfl)
  next same =>
    exact absurd (List.cons.inj same).1 (ne_of_isBare bare rfl)
  next =>
    rfl

theorem Draft.readEntry?_written {key : String} {value : Toml} {text : String}
    (bare : isBareKey key = true) (written : renderValue? value = some text)
    (enters : draft.enter? (key, value) = some next) :
    draft.readEntry? (key.toList ++ (" = ".toList ++ (text.toList ++ '\n' :: rest))) =
      some (next, '\n' :: rest) := by
  have ends : EndsKey (" = ".toList ++ (text.toList ++ '\n' :: rest))
      ('=' :: ' ' :: (text.toList ++ '\n' :: rest)) := by
    have notDot : '=' ≠ '.' := by decide
    refine ⟨?_, rfl, fun same => notDot (Option.some.inj same)⟩
    rintro character ⟨⟩
    rfl
  have reads : readValue? nestingLimit (skipBlanks (' ' :: (text.toList ++ '\n' :: rest))) =
      some (value, '\n' :: rest) := by
    obtain ⟨first, later, is, opens⟩ := opensScalar_of_renderValue? written
    have notBlank : ¬ isBlank first = true := by
      rw [opens.notBlank]
      exact Bool.false_ne_true
    have skips : skipBlanks (' ' :: (text.toList ++ '\n' :: rest)) =
        text.toList ++ '\n' :: rest := by
      rw [is, skipBlanks, List.dropWhile_cons_of_pos rfl, List.cons_append,
        List.dropWhile_cons_of_neg notBlank]
    have scalar : readValue? nestingLimit (text.toList ++ '\n' :: rest) =
        readScalar? (text.toList ++ '\n' :: rest) := by
      rw [is]
      exact readValue?_scalar opens
    rw [skips, scalar]
    exact readScalar?_renderValue? written rest
  obtain ⟨document, inserted, rfl⟩ := Option.map_eq_some_iff.mp enters
  rw [Draft.readEntry?, readKey?_bare bare ends]
  simp only [Option.bind_eq_bind, Option.bind_some, expect?, if_true, reads, inserted]

/-- An entry is read as it is written. -/
theorem Draft.Reads.entry {key : String} {value : Toml} {text : String}
    (bare : isBareKey key = true) (written : renderValue? value = some text)
    (enters : draft.enter? (key, value) = some next) (reads : next.Reads rest read) :
    draft.Reads (key.toList ++ (" = ".toList ++ (text.toList ++ '\n' :: rest))) read := by
  intro fuel enough
  -- One line costs one unit of fuel, and it has more characters than that.
  obtain ⟨fuel, rfl⟩ := Nat.exists_eq_succ_of_ne_zero (Nat.ne_zero_of_lt enough)
  have fits : rest.length < fuel := by
    simp only [List.length_append, List.length_cons] at enough
    omega
  have line : draft.readEntry? (key.toList ++ (" = ".toList ++ (text.toList ++ '\n' :: rest))) =
      some (next, '\n' :: rest) := readEntry?_written bare written enters
  obtain ⟨first, later, spelled⟩ := bareKey bare
  rw [spelled.is, List.cons_append] at line ⊢
  rw [Draft.readLines?_bare spelled.first, line]
  exact reads fuel fits

theorem Draft.Reads.entries {entries : List (String × Toml)} {text : String}
    (bare : ∀ entry ∈ entries, isBareKey entry.1 = true)
    (written : renderEntries? entries = some text)
    (enters : entries.foldlM Draft.enter? draft = some next) (reads : next.Reads rest read) :
    draft.Reads (text.toList ++ rest) read := by
  induction entries generalizing draft text with
  | nil =>
      cases written
      cases enters
      exact reads
  | cons entry more inductionHypothesis =>
      obtain ⟨key, value⟩ := entry
      obtain ⟨isFirst, areMore⟩ := List.forall_mem_cons.mp bare
      obtain ⟨spelled, later, value, others, is⟩ := renderEntries?_cons written
      rw [List.foldlM_cons] at enters
      obtain ⟨between, first, enters⟩ := Option.bind_eq_some_iff.mp enters
      have line := (inductionHypothesis areMore others enters).entry isFirst value first
      rw [is]
      simpa only [List.append_assoc, List.cons_append] using line

theorem Draft.readHeader?_written {path : List String} {key : String}
    (bare : ∀ part ∈ path, isBareKey part = true) (ended : path.getLast? = some key)
    (isShort : path.length < nestingLimit) (opens : draft.open? path = some next) :
    draft.readHeader? ((".".intercalate path).toList ++ ']' :: rest) = some (next, rest) := by
  have ends : EndsKey (']' :: rest) (']' :: rest) := by
    have notDot : ']' ≠ '.' := by decide
    refine ⟨?_, rfl, fun same => notDot (Option.some.inj same)⟩
    rintro character ⟨⟩
    rfl
  have known := readKey?_path bare ended isShort ends
  rw [Draft.open?, ended] at opens
  obtain ⟨document, opened, rfl⟩ := Option.map_eq_some_iff.mp opens
  have whole : path.dropLast ++ [key] = path := by
    obtain ⟨above, rfl⟩ := List.getLast?_eq_some_iff.mp ended
    rw [List.dropLast_concat]
  unfold Draft.readHeader?
  split
  next isBracket =>
    -- A key without quotation marks starts with no bracket.
    rw [isBracket] at known
    cases known
  next =>
    rw [known]
    simp only [Option.bind_eq_bind, Option.bind_some, Bool.false_eq_true, if_false, opened,
      expect?, if_true, whole]

/-- A header is read as it is written. -/
theorem Draft.Reads.header {path : List String} {key : String}
    (bare : ∀ part ∈ path, isBareKey part = true) (ended : path.getLast? = some key)
    (isShort : path.length < nestingLimit) (opens : draft.open? path = some next)
    (reads : next.Reads rest read) :
    draft.Reads ('[' :: ((".".intercalate path).toList ++ (']' :: '\n' :: rest))) read := by
  intro fuel enough
  obtain ⟨fuel, rfl⟩ := Nat.exists_eq_succ_of_ne_zero (Nat.ne_zero_of_lt enough)
  have fits : rest.length < fuel := by
    simp only [List.length_append, List.length_cons] at enough
    omega
  have line : draft.readHeader? ((".".intercalate path).toList ++ (']' :: '\n' :: rest)) =
      some (next, '\n' :: rest) := readHeader?_written bare ended isShort opens
  have opening : draft.readLines? (fuel + 1)
      ('[' :: ((".".intercalate path).toList ++ (']' :: '\n' :: rest))) = (do
        let (draft, rest) ←
          draft.readHeader? ((".".intercalate path).toList ++ (']' :: '\n' :: rest))
        draft.readLines? fuel (← finishLine? rest)) := rfl
  rw [opening, line]
  exact reads fuel fits

theorem Draft.Reads.part {part : Section} {text : String} (bare : part.IsBare)
    (written : part.render? = some text) (follows : draft.follow? part = some next)
    (reads : next.Reads rest read) : draft.Reads (text.toList ++ rest) read := by
  obtain ⟨entries, renders, isText⟩ := Section.render?_eq_some written
  obtain ⟨between, opens, enters⟩ := Option.bind_eq_some_iff.mp follows
  have inside := reads.entries bare.entries renders enters
  rcases isText with ⟨ended, rfl⟩ | ⟨key, ended, is⟩
  · rw [Draft.open?, ended] at opens
    cases opens
    exact inside
  · have line := inside.header bare.header ended bare.isShort opens
    rw [is]
    simpa only [List.append_assoc, List.cons_append] using line

theorem Draft.Reads.sections {sections : List Section} {texts : List String}
    (bare : ∀ part ∈ sections, part.IsBare)
    (written : sections.mapM Section.render? = some texts)
    (follows : sections.foldlM Draft.follow? draft = some next) :
    draft.Reads ("\n".intercalate texts).toList next.document := by
  induction sections generalizing draft texts with
  | nil =>
      cases written
      cases follows
      exact Draft.reads_end _
  | cons part more inductionHypothesis =>
      obtain ⟨isFirst, areMore⟩ := List.forall_mem_cons.mp bare
      obtain ⟨text, others, renders, rendersMore, rfl⟩ := mapM_render?_cons written
      rw [List.foldlM_cons] at follows
      obtain ⟨between, first, follows⟩ := Option.bind_eq_some_iff.mp follows
      have goesOn := inductionHypothesis areMore rendersMore follows
      cases others with
      | nil =>
          rw [String.intercalate_singleton, ← List.append_nil text.toList]
          exact goesOn.part isFirst renders first
      | cons second later =>
          -- The empty line between two sections is read with the later one.
          have same : ("\n".intercalate (text :: second :: later)).toList =
              text.toList ++ '\n' :: ("\n".intercalate (second :: later)).toList := by
            rw [String.intercalate_cons_cons]
            simp
          rw [same]
          exact goesOn.emptyLine.part isFirst renders first

end Lines

/-! ## Documents -/

/-- There is no mark at the front that the reader would skip. -/
def StartsUnmarked (text : List Char) : Prop :=
  text.head? ≠ some '\ufeff'

theorem startsUnmarked_entries {entries : List (String × Toml)} {text : String}
    (bare : ∀ entry ∈ entries, isBareKey entry.1 = true)
    (written : renderEntries? entries = some text) : StartsUnmarked text.toList := by
  cases entries with
  | nil =>
      cases written
      exact nofun
  | cons entry more =>
      obtain ⟨key, value⟩ := entry
      obtain ⟨first, later, spelled⟩ := bareKey (List.forall_mem_cons.mp bare).1
      obtain ⟨_, _, -, -, is⟩ := renderEntries?_cons written
      have notMark : first ≠ '\ufeff' := ne_of_isBare spelled.first rfl
      rw [is, spelled.is]
      exact fun same => notMark (Option.some.inj same)

theorem startsUnmarked_part {part : Section} {text : String} (bare : part.IsBare)
    (written : part.render? = some text) : StartsUnmarked text.toList := by
  obtain ⟨entries, renders, isText⟩ := Section.render?_eq_some written
  rcases isText with ⟨-, rfl⟩ | ⟨key, -, is⟩
  · exact startsUnmarked_entries bare.entries renders
  · have notMark : '[' ≠ '\ufeff' := by decide
    rw [is]
    exact fun same => notMark (Option.some.inj same)

theorem startsUnmarked_sections {sections : List Section} {texts : List String}
    (bare : ∀ part ∈ sections, part.IsBare)
    (written : sections.mapM Section.render? = some texts) :
    StartsUnmarked ("\n".intercalate texts).toList := by
  cases sections with
  | nil =>
      cases written
      exact nofun
  | cons part more =>
      obtain ⟨text, others, renders, -, rfl⟩ := mapM_render?_cons written
      have unmarked := startsUnmarked_part (List.forall_mem_cons.mp bare).1 renders
      cases others with
      | nil =>
          rwa [String.intercalate_singleton]
      | cons second later =>
          rw [String.intercalate_cons_cons]
          cases is : text.toList with
          | nil =>
              simp [StartsUnmarked, is]
          | cons first behind =>
              rw [is] at unmarked
              simpa [StartsUnmarked, is] using unmarked

/-- Sections that add up to a document are read back as this document from the text they are
written as. -/
theorem parse?_render? {sections : List Section} {text : String} {whole : Draft}
    (bare : ∀ part ∈ sections, part.IsBare) (written : render? sections = some text)
    (follows : sections.foldlM Draft.follow? ⟨empty, []⟩ = some whole) :
    parse? text = some whole.document := by
  obtain ⟨texts, renders, written⟩ := Option.bind_eq_some_iff.mp written
  cases written
  have reads := Draft.Reads.sections bare renders follows
  have unmarked := startsUnmarked_sections bare renders
  unfold parse?
  split
  next isMark =>
    rw [StartsUnmarked, isMark] at unmarked
    exact absurd rfl unmarked
  next =>
    exact reads _ (Nat.lt_succ_self _)

/-! ## What has a text -/

theorem isSome_renderEntries? {entries : List (String × Toml)} :
    (renderEntries? entries).isSome = true ↔
      ∀ entry ∈ entries, (renderValue? entry.2).isSome = true := by
  induction entries with
  | nil =>
      simp [renderEntries?]
  | cons entry more inductionHypothesis =>
      rw [List.forall_mem_cons, ← inductionHypothesis]
      obtain ⟨key, value⟩ := entry
      rw [renderEntries?]
      cases renderValue? value <;> cases renderEntries? more <;> simp

theorem Section.isSome_render? {part : Section} :
    part.render?.isSome = true ↔ ∀ entry ∈ part.entries, (renderValue? entry.2).isSome = true := by
  rw [← isSome_renderEntries?, Section.render?]
  cases renderEntries? part.entries <;> simp

/-- Sections have a text if each of their values has one. -/
theorem isSome_render? {sections : List Section} :
    (render? sections).isSome = true ↔
      ∀ part ∈ sections, ∀ entry ∈ part.entries, (renderValue? entry.2).isSome = true := by
  have eachRenders : (sections.mapM Section.render?).isSome = true ↔
      ∀ part ∈ sections, part.render?.isSome = true := by
    induction sections with
    | nil =>
        simp
    | cons part more inductionHypothesis =>
        rw [List.forall_mem_cons, ← inductionHypothesis, List.mapM_cons]
        cases part.render? <;> cases more.mapM Section.render? <;> simp
  simp only [Section.isSome_render?] at eachRenders
  rw [← eachRenders, render?]
  cases sections.mapM Section.render? <;> simp

end Parley.Toml
