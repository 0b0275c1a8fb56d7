import Parley.Proofs.Files.Tree
import Parley.Proofs.Text.Utf8
import Parley.Proofs.Toml.Documents
import Parley.Settings.Chat

/-!
# Settings saved to a file and loaded again

The sections of settings have a text if every integer fits a file, and from this text the settings
come back, whatever characters their strings have. Whether there is a text is known before the file
is opened for writing, so a file is lost neither by settings that fit nor by settings that do not.
-/

namespace Parley.Settings

/-! ## From JSON -/

section Decoding

variable (surplus : Json.Surplus)

theorem ofValue?_natural {greatest value : Nat} (fits : value ≤ greatest) :
    (Json.Decoder.natural greatest).ofValue? surplus (.ofNat value) = some value := by
  simp [Json.Decoder.natural, Json.ofNat, Json.natural?, fits]

theorem Endpoint.ofValue?_toJson (endpoint : Endpoint) :
    Endpoint.record.decoder.ofValue? surplus endpoint.toJson = some endpoint :=
  rfl

/-- The integers fit the words in which they are kept. -/
structure Backoff.IsRepresentable (backoff : Backoff) : Prop where
  baseDelay : backoff.baseDelay ≤ greatestWord
  maxDelay : backoff.maxDelay ≤ greatestWord
  attemptLimit : backoff.attemptLimit ≤ greatestHalfWord

theorem Backoff.ofValue?_toJson {backoff : Backoff} (fits : backoff.IsRepresentable) :
    Backoff.record.decoder.ofValue? surplus backoff.toJson = some backoff := by
  simp [Backoff.record, Backoff.toJson, Json.Record.decoder, Json.Record.ofMembers?, Json.lookup?,
    Json.Field.of, ofValue?_natural, fits.baseDelay, fits.maxDelay, fits.attemptLimit]

structure Client.IsRepresentable (client : Client) : Prop where
  backlogLimit : client.backlogLimit ≤ greatestWord
  tokenLook : client.tokenLook ≤ greatestWord
  noticeDelay : client.noticeDelay ≤ greatestWord
  idleSeconds : client.idleSeconds ≤ greatestWord
  messageLimit : client.messageLimit ≤ greatestWord
  backoff : client.backoff.IsRepresentable

theorem Client.ofValue?_toJson {client : Client} (fits : client.IsRepresentable) :
    Client.record.decoder.ofValue? surplus client.toJson = some client := by
  have endpoint := client.endpoint.ofValue?_toJson surplus
  have backoff := Backoff.ofValue?_toJson surplus fits.backoff
  rw [Client.record, Client.toJson, Json.Record.decoder]
  simp [Json.Record.ofMembers?, Json.lookup?, Json.Field.of, ofValue?_natural, fits.backlogLimit,
    fits.tokenLook, fits.noticeDelay, fits.idleSeconds, fits.messageLimit, endpoint, backoff]

end Decoding

namespace Chat

variable {settings : Chat}

/-! ## The text -/

def numbers (settings : Chat) : List Nat :=
  let client := settings.client
  [client.backlogLimit, client.tokenLook, client.noticeDelay, client.idleSeconds,
    client.messageLimit, client.backoff.baseDelay, client.backoff.maxDelay,
    client.backoff.attemptLimit]

/-- A file can hold every integer. -/
def FitsFile (settings : Chat) : Prop :=
  ∀ number ∈ settings.numbers, number ≤ Nat.pow 2 63 - 1

instance (settings : Chat) : Decidable settings.FitsFile :=
  inferInstanceAs (Decidable (∀ number ∈ settings.numbers, number ≤ Nat.pow 2 63 - 1))

theorem isSome_renderValue?_natural (value : Nat) :
    (Toml.renderValue? (.integer value)).isSome = true ↔ value ≤ Nat.pow 2 63 - 1 := by
  have notNegative : ¬ (value : Int) < 0 := by omega
  have greatest : Toml.greatestInteger false = Nat.pow 2 63 - 1 := rfl
  rw [Toml.renderValue?, decide_eq_false notNegative, greatest, Int.natAbs_natCast]
  split
  next fits =>
    exact iff_of_true rfl fits
  next beyond =>
    exact iff_of_false Bool.false_ne_true beyond

theorem isSome_render? : settings.render?.isSome = true ↔ settings.FitsFile := by
  have texts : ∀ text : String, (Toml.renderValue? (.string text)).isSome = true := fun _ => rfl
  have truths : ∀ value : Bool, (Toml.renderValue? (.boolean value)).isSome = true := fun _ => rfl
  obtain ⟨backend, tokenPath, client⟩ := settings
  rw [render?, Toml.isSome_render?]
  cases backend with
  | none =>
      simp [sections, FitsFile, numbers, isSome_renderValue?_natural, texts, truths,
        and_assoc, -Prod.forall]
  | some backend =>
      simp [sections, FitsFile, numbers, isSome_renderValue?_natural, texts, truths,
        and_assoc, -Prod.forall]

theorem isBare_sections (settings : Chat) : ∀ part ∈ settings.sections, part.IsBare := by
  obtain ⟨backend, tokenPath, client⟩ := settings
  cases backend with
  | none =>
      simp +decide [sections, Toml.Section.isBare_iff, Toml.nestingLimit, -Prod.forall]
  | some backend =>
      simp +decide [sections, Toml.Section.isBare_iff, Toml.nestingLimit, -Prod.forall]

/-- The table that the sections add up to. -/
def document (settings : Chat) : Toml :=
  let client := settings.client
  let number := fun (value : Nat) => Toml.integer value
  .table .header (
    (settings.backend.toList.map fun backend => ("backend_id", Toml.string backend)) ++ [
      ("token_file", .string settings.tokenPath),
      ("client", .table .header [
        ("queue_capacity", number client.backlogLimit),
        ("token_poll_interval_ms", number client.tokenLook),
        ("auth_reload_delay_ms", number client.noticeDelay),
        ("idle_timeout_secs", number client.idleSeconds),
        ("max_message_size", number client.messageLimit),
        ("endpoint", .table .header [
          ("host", .string client.endpoint.host),
          ("secure", .boolean client.endpoint.secure),
          ("desktop_shell", .boolean client.endpoint.desktop),
          ("path", .string client.endpoint.path)]),
        ("reconnect", .table .header [
          ("base_delay_ms", number client.backoff.baseDelay),
          ("max_delay_ms", number client.backoff.maxDelay),
          ("max_attempts", number client.backoff.attemptLimit)])])])

theorem follow?_sections (settings : Chat) :
    settings.sections.foldlM Toml.Draft.follow? ⟨.empty, []⟩ =
      some ⟨settings.document, ["client", "reconnect"]⟩ := by
  obtain ⟨backend, tokenPath, client⟩ := settings
  cases backend with
  | none =>
      simp [sections, document, Toml.Draft.follow?, Toml.Draft.open?, Toml.Draft.enter?,
        Toml.changeAt, Toml.insert, Toml.define, Toml.openTable, Toml.lookup?, Toml.assign,
        Toml.empty, Toml.Way.leadsThrough]
  | some backend =>
      simp [sections, document, Toml.Draft.follow?, Toml.Draft.open?, Toml.Draft.enter?,
        Toml.changeAt, Toml.insert, Toml.define, Toml.openTable, Toml.lookup?, Toml.assign,
        Toml.empty, Toml.Way.leadsThrough]

theorem toJson_document (settings : Chat) :
    settings.document.toJson =
      .object ((settings.backend.toList.map fun backend => ("backend_id", .string backend)) ++
        [("token_file", .string settings.tokenPath), ("client", settings.client.toJson)]) := by
  have naturals : ∀ value : Nat, Toml.integerToJson value = .ofNat value := fun _ => rfl
  obtain ⟨backend, tokenPath, client⟩ := settings
  cases backend with
  | none =>
      simp [document, Toml.toJson, Toml.entriesToJson, naturals, Client.toJson, Endpoint.toJson,
        Backoff.toJson]
  | some backend =>
      simp [document, Toml.toJson, Toml.entriesToJson, naturals, Client.toJson, Endpoint.toJson,
        Backoff.toJson]

theorem isRepresentable_of_fitsFile (fits : settings.FitsFile)
    (attempts : settings.client.backoff.attemptLimit ≤ greatestHalfWord) :
    settings.client.IsRepresentable := by
  have within : Nat.pow 2 63 - 1 ≤ greatestWord := by decide
  have each : ∀ number ∈ settings.numbers, number ≤ greatestWord :=
    fun number member => Nat.le_trans (fits number member) within
  simp only [numbers, List.forall_mem_cons] at each
  obtain ⟨backlogLimit, tokenLook, noticeDelay, idleSeconds, messageLimit, baseDelay, maxDelay,
    -⟩ := each
  exact ⟨backlogLimit, tokenLook, noticeDelay, idleSeconds, messageLimit,
    ⟨baseDelay, maxDelay, attempts⟩⟩

theorem ofValue?_document (home : Option String) (fits : settings.client.IsRepresentable) :
    (record home).decoder.ofValue? .ignored settings.document.toJson = some settings := by
  have decoded := Client.ofValue?_toJson .ignored fits
  obtain ⟨backend, tokenPath, client⟩ := settings
  rw [toJson_document, record, Json.Record.decoder]
  cases backend with
  | none =>
      simp [standard, Json.Record.ofMembers?, Json.lookup?, Json.Field.of, Json.Decoder.text,
        Json.Decoder.optional, Json.text?, decoded]
  | some backend =>
      simp [Json.Record.ofMembers?, Json.lookup?, Json.Field.of, Json.Decoder.text,
        Json.Decoder.optional, Json.text?, decoded]

/-- The settings come back from their text, wherever the home directory is. -/
theorem parse?_of_render? (home : Option String) {text : String}
    (written : settings.render? = some text)
    (attempts : settings.client.backoff.attemptLimit ≤ greatestHalfWord) :
    parse? home text = some settings := by
  have fits : settings.FitsFile := by
    rw [← isSome_render?, written]
    rfl
  have document : Toml.parse? text = some settings.document :=
    Toml.parse?_render? settings.isBare_sections written settings.follow?_sections
  rw [parse?, document]
  exact ofValue?_document home (isRepresentable_of_fitsFile fits attempts)

/-! ## The file -/

section File

variable {tree : Files.Tree} {path : String}

/-- The settings are in the file that the path leads to, and only its owner may read it. -/
structure IsKept (settings : Chat) (path : String) (tree : Files.Tree) : Prop where
  isPrivate : tree.mode? path = some Files.privateMode
  loads : ∀ home, load tree home path = .ok (settings, tree)

/-- The settings are refused, and a file that the path leads to stays as it is. -/
structure IsRefused (settings : Chat) (path : String) (tree : Files.Tree) : Prop where
  fails : ∃ fault, (settings.saveTo tree path).1 = .error fault
  /-- It is for the integers if nothing else is in the way. -/
  asToml : tree.Accepts path → (settings.saveTo tree path).1 = .error .toml
  keeps :
    ∀ bytes mode, tree.HoldsFile path bytes mode →
      (settings.saveTo tree path).2.HoldsFile path bytes mode

theorem isKept_of_holdsFile {text : String} (written : settings.render? = some text)
    (attempts : settings.client.backoff.attemptLimit ≤ greatestHalfWord)
    (holds : tree.HoldsFile path (Text.Utf8.encode text.toList) Files.privateMode) :
    settings.IsKept path tree where
  isPrivate := holds.mode_eq
  loads := by
    intro home
    have isThere := Files.Tree.pathExists_of_read holds.read
    have read := Files.Tree.readText_of_read holds.read (Text.Utf8.decode_encode text.toList)
    rw [String.ofList_toList] at read
    simp only [load, isThere, if_true, read, parse?_of_render? home written attempts]

theorem isKept_of_saveTo (fits : settings.FitsFile)
    (attempts : settings.client.backoff.attemptLimit ≤ greatestHalfWord)
    (accepts : tree.Accepts path) :
    ∃ after, settings.saveTo tree path = (.ok (), after) ∧ settings.IsKept path after := by
  obtain ⟨text, written⟩ := Option.isSome_iff_exists.mp (isSome_render?.mpr fits)
  obtain ⟨above, filled, after, laid, filled_eq, made⟩ :=
    accepts.exists_steps (Text.Utf8.encode text.toList)
  have saved : settings.saveTo tree path = (.ok (), after) := by
    simp only [saveTo, laid, written, filled_eq, made]
  have whole : tree.writePrivate path (Text.Utf8.encode text.toList) = .ok after :=
    Files.Tree.writePrivate_eq_ok.mpr ⟨above, filled, laid, filled_eq, made⟩
  have holds := Files.Tree.holdsFile_writePrivate whole
  exact ⟨after, saved, isKept_of_holdsFile written attempts holds⟩

theorem isRefused_of_not_fitsFile (path : String) (tree : Files.Tree)
    (unfit : ¬ settings.FitsFile) : settings.IsRefused path tree := by
  have noText : settings.render? = none := by
    rw [← isSome_render?, Bool.not_eq_true, Option.isSome_eq_false_iff] at unfit
    exact Option.isNone_iff_eq_none.mp unfit
  have keeps := Files.Tree.keeps_layAbove tree path
  rcases laid : tree.layAbove path with ⟨outcome, left⟩
  rw [laid] at keeps
  cases outcome with
  | error refusal =>
      have refused : settings.saveTo tree path = (.error (.file refusal), left) := by
        simp only [saveTo, laid]
      refine ⟨⟨.file refusal, by rw [refused]⟩, ?_, ?_⟩
      · intro accepts
        obtain ⟨above, filled, after, laidToo, -⟩ := accepts.exists_steps []
        rw [laid] at laidToo
        cases laidToo
      · intro bytes mode holds
        rw [refused]
        exact holds.kept keeps
  | ok _ =>
      have refused : settings.saveTo tree path = (.error .toml, left) := by
        simp only [saveTo, laid, noText]
      refine ⟨⟨.toml, by rw [refused]⟩, fun _ => by rw [refused], ?_⟩
      intro bytes mode holds
      rw [refused]
      exact holds.kept keeps

theorem fitsFile_standard (home : Option String) : (standard home).FitsFile := by
  have numbers : (standard home).numbers = [100, 1000, 1500, 75, 16777216, 1000, 30000, 10] := rfl
  rw [FitsFile, numbers]
  decide

/-- Settings that fit a file come back from the file they are saved to, and settings that do not
are refused before a file is overwritten. A missing file is created with the settings that are
loaded from it ever after. The limit of attempts is kept in half a word, which every file can
hold. -/
theorem saved_settings_return (tree : Files.Tree) (path : String) (settings : Chat)
    (attempts : settings.client.backoff.attemptLimit ≤ greatestHalfWord) :
    (settings.FitsFile → tree.Accepts path →
      ∃ after, settings.saveTo tree path = (.ok (), after) ∧ settings.IsKept path after) ∧
    (¬ settings.FitsFile → settings.IsRefused path tree) ∧
    (tree.pathExists path = false → tree.Accepts path → ∀ home,
      ∃ after, load tree home path = .ok (standard home, after) ∧
        (standard home).IsKept path after) := by
  refine ⟨fun fits accepts => isKept_of_saveTo fits attempts accepts,
    isRefused_of_not_fitsFile path tree, ?_⟩
  intro missing accepts home
  have few : (standard home).client.backoff.attemptLimit ≤ greatestHalfWord :=
    (by decide : 10 ≤ greatestHalfWord)
  obtain ⟨after, saved, kept⟩ := isKept_of_saveTo (fitsFile_standard home) few accepts
  have created : (standard home).save tree path = .ok after := by
    rw [save, saved]
    rfl
  refine ⟨after, ?_, kept⟩
  simp only [load, missing, Bool.false_eq_true, if_false, created, Bind.bind, Except.bind]

/-- Settings with strings that no single kind of quotation marks suits. -/
def awkward : Chat where
  backend := some "a\"\"\"b'''c\nd\\e"
  tokenPath := "C:\\tokens\t\"mine\"\x01é"
  client := Client.standard

/-- Settings with an integer that no file can hold. -/
def oversized : Chat :=
  { awkward with client := { Client.standard with tokenLook := Nat.pow 2 63 } }

/-- A directory with a file that is no settings file yet. -/
def occupied : Files.Tree :=
  ⟨[(["etc"], .directory), (["etc", "chat.toml"], .file [1, 2, 3] Files.createdMode)], ["etc"]⟩

theorem awkward_settings_return :
    (∃ after, awkward.saveTo occupied "chat.toml" = (.ok (), after) ∧
      awkward.IsKept "chat.toml" after) ∧
    (oversized.saveTo occupied "chat.toml").1 = .error .toml ∧
    (oversized.saveTo occupied "chat.toml").2.HoldsFile "chat.toml" [1, 2, 3] Files.createdMode ∧
    (∃ after, load occupied none "new/chat.toml" = .ok (standard none, after) ∧
      (standard none).IsKept "new/chat.toml" after) := by
  have accepts : occupied.Accepts "chat.toml" := ⟨_, rfl⟩
  have acceptsNew : occupied.Accepts "new/chat.toml" := ⟨_, rfl⟩
  have holds : occupied.HoldsFile "chat.toml" [1, 2, 3] Files.createdMode :=
    ⟨["etc", "chat.toml"], rfl, rfl⟩
  obtain ⟨keeps, -, -⟩ := saved_settings_return occupied "chat.toml" awkward (by decide)
  obtain ⟨-, refuses, -⟩ := saved_settings_return occupied "chat.toml" oversized (by decide)
  obtain ⟨-, -, creates⟩ := saved_settings_return occupied "new/chat.toml" awkward (by decide)
  have refused := refuses (by decide)
  exact ⟨keeps (by decide) accepts, refused.asToml accepts, refused.keeps _ _ holds,
    creates rfl acceptsNew none⟩

end File

end Chat

end Parley.Settings
