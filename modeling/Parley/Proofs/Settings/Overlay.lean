import Parley.Proofs.Json.Objects
import Parley.Proofs.Settings.Chat

/-!
# Settings that a text gives in part

A text with some of the settings is an overlay: what it gives is taken from it, and everything else
is standard, also inside the endpoint and the backoff. Neither order nor spelling nor members
without a meaning make a difference.
-/

namespace Parley.Settings

/-- The members of an object: keys and the texts of their values. -/
abbrev Entries := List (String × List Char)

/-! ## Endpoint -/

namespace Endpoint

/-- The endpoint where it is given, and the standard one elsewhere. -/
def overlay (endpoint : Endpoint) (given : List String) : Endpoint where
  host := if "host" ∈ given then endpoint.host else standard.host
  secure := if "secure" ∈ given then endpoint.secure else standard.secure
  desktop := if "desktop_shell" ∈ given then endpoint.desktop else standard.desktop
  path := if "path" ∈ given then endpoint.path else standard.path

/-- The text is what the endpoint has under the key, or any value at all if it has none. -/
def Gives (endpoint : Endpoint) (key : String) (text : List Char) : Prop :=
  match key with
  | "host" => Json.WritesText endpoint.host text
  | "secure" => text = (toString endpoint.secure).toList
  | "desktop_shell" => text = (toString endpoint.desktop).toList
  | "path" => Json.WritesText endpoint.path text
  | _ => Json.Fits .value text

/-- The object gives some of the endpoint. -/
def GivenBy (endpoint : Endpoint) (entries : Entries) : Prop :=
  (∀ entry ∈ entries, endpoint.Gives entry.1 entry.2) ∧ Json.GivesOnce record.keys entries

theorem isOverlay_overlay (endpoint : Endpoint) : record.IsOverlay endpoint.overlay where
  start := by
    simp [overlay, record]
  depends first second same := by
    simp only [Json.Record.keys, record, Json.Field.of, List.map_cons, List.map_nil,
      List.forall_mem_cons] at same
    simp [overlay, same]

theorem suits_of_gives {endpoint : Endpoint} {entry : String × List Char}
    (gives : endpoint.Gives entry.1 entry.2) (depth : Nat) :
    record.Suits depth endpoint.overlay entry := by
  obtain ⟨key, text⟩ := entry
  simp only [Gives] at gives
  split at gives
  · exact Json.Record.suits_of_field rfl (Json.Decoder.finds_text depth gives)
      fun seen => by simp [overlay]
  · subst gives
    exact Json.Record.suits_of_field rfl (Json.Decoder.finds_bool depth _)
      fun seen => by simp [overlay]
  · subst gives
    exact Json.Record.suits_of_field rfl (Json.Decoder.finds_bool depth _)
      fun seen => by simp [overlay]
  · exact Json.Record.suits_of_field rfl (Json.Decoder.finds_text depth gives)
      fun seen => by simp [overlay]
  next notHost notSecure notDesktop notPath =>
    have other : key ∉ record.keys := by
      simpa [Json.Record.keys, record, Json.Field.of] using
        ⟨notHost, notSecure, notDesktop, notPath⟩
    exact Json.Record.suits_of_other other gives

/-- An endpoint that is given in part is found as its overlay. -/
theorem finds_overlay {endpoint : Endpoint} {entries : Entries} {text : List Char} (depth : Nat)
    (given : endpoint.GivenBy entries) (writes : Json.WritesObject entries text) :
    record.decoder.Finds (depth + 1) (endpoint.overlay (entries.map Prod.fst)) text :=
  Json.Record.finds_of_suits endpoint.isOverlay_overlay (by decide)
    (fun entry member => suits_of_gives (given.1 entry member) depth) given.2 writes

end Endpoint

/-! ## Backoff -/

namespace Backoff

/-- The backoff where it is given, and the standard one elsewhere. -/
def overlay (backoff : Backoff) (given : List String) : Backoff where
  baseDelay := if "base_delay_ms" ∈ given then backoff.baseDelay else standard.baseDelay
  maxDelay := if "max_delay_ms" ∈ given then backoff.maxDelay else standard.maxDelay
  attemptLimit := if "max_attempts" ∈ given then backoff.attemptLimit else standard.attemptLimit

/-- The text is what the backoff has under the key, or any value at all if it has none. -/
def Gives (backoff : Backoff) (key : String) (text : List Char) : Prop :=
  match key with
  | "base_delay_ms" => text = Nat.toDigits 10 backoff.baseDelay
  | "max_delay_ms" => text = Nat.toDigits 10 backoff.maxDelay
  | "max_attempts" => text = Nat.toDigits 10 backoff.attemptLimit
  | _ => Json.Fits .value text

/-- The object gives some of the backoff. -/
def GivenBy (backoff : Backoff) (entries : Entries) : Prop :=
  (∀ entry ∈ entries, backoff.Gives entry.1 entry.2) ∧ Json.GivesOnce record.keys entries

theorem isOverlay_overlay (backoff : Backoff) : record.IsOverlay backoff.overlay where
  start := by
    simp [overlay, record]
  depends first second same := by
    simp only [Json.Record.keys, record, Json.Field.of, List.map_cons, List.map_nil,
      List.forall_mem_cons] at same
    simp [overlay, same]

theorem suits_of_gives {backoff : Backoff} (fits : backoff.IsRepresentable)
    {entry : String × List Char} (gives : backoff.Gives entry.1 entry.2) (depth : Nat) :
    record.Suits depth backoff.overlay entry := by
  obtain ⟨key, text⟩ := entry
  simp only [Gives] at gives
  split at gives
  · subst gives
    exact Json.Record.suits_of_field rfl
      (Json.Decoder.finds_natural depth fits.baseDelay (Nat.le_refl _))
      fun seen => by simp [overlay]
  · subst gives
    exact Json.Record.suits_of_field rfl
      (Json.Decoder.finds_natural depth fits.maxDelay (Nat.le_refl _))
      fun seen => by simp [overlay]
  · subst gives
    exact Json.Record.suits_of_field rfl
      (Json.Decoder.finds_natural depth fits.attemptLimit (by decide))
      fun seen => by simp [overlay]
  next notBase notMax notLimit =>
    have other : key ∉ record.keys := by
      simpa [Json.Record.keys, record, Json.Field.of] using ⟨notBase, notMax, notLimit⟩
    exact Json.Record.suits_of_other other gives

/-- A backoff that is given in part is found as its overlay. -/
theorem finds_overlay {backoff : Backoff} (fits : backoff.IsRepresentable) {entries : Entries}
    {text : List Char} (depth : Nat) (given : backoff.GivenBy entries)
    (writes : Json.WritesObject entries text) :
    record.decoder.Finds (depth + 1) (backoff.overlay (entries.map Prod.fst)) text :=
  Json.Record.finds_of_suits backoff.isOverlay_overlay (by decide)
    (fun entry member => suits_of_gives fits (given.1 entry member) depth) given.2 writes

end Backoff

/-! ## All settings -/

namespace Client

/-- The settings where they are given, and the standard ones elsewhere, each part an overlay of its
own. -/
def overlay (settings : Client) (inEndpoint inBackoff given : List String) : Client where
  backlogLimit := if "queue_capacity" ∈ given then settings.backlogLimit else standard.backlogLimit
  tokenLook := if "token_poll_interval_ms" ∈ given then settings.tokenLook else standard.tokenLook
  noticeDelay := if "auth_reload_delay_ms" ∈ given then settings.noticeDelay
    else standard.noticeDelay
  idleSeconds := if "idle_timeout_secs" ∈ given then settings.idleSeconds else standard.idleSeconds
  messageLimit := if "max_message_size" ∈ given then settings.messageLimit
    else standard.messageLimit
  endpoint := if "endpoint" ∈ given then settings.endpoint.overlay inEndpoint else standard.endpoint
  backoff := if "reconnect" ∈ given then settings.backoff.overlay inBackoff else standard.backoff

/-- The text is what the settings have under the key, in part for the endpoint and the backoff, or
any value at all if they have none. -/
def Gives (settings : Client) (inEndpoint inBackoff : Entries) (key : String) (text : List Char) :
    Prop :=
  match key with
  | "queue_capacity" => text = Nat.toDigits 10 settings.backlogLimit
  | "token_poll_interval_ms" => text = Nat.toDigits 10 settings.tokenLook
  | "auth_reload_delay_ms" => text = Nat.toDigits 10 settings.noticeDelay
  | "idle_timeout_secs" => text = Nat.toDigits 10 settings.idleSeconds
  | "max_message_size" => text = Nat.toDigits 10 settings.messageLimit
  | "endpoint" => Json.WritesObject inEndpoint text ∧ settings.endpoint.GivenBy inEndpoint
  | "reconnect" => Json.WritesObject inBackoff text ∧ settings.backoff.GivenBy inBackoff
  | _ => Json.Fits .value text

/-- The object gives some of the settings. -/
def GivenBy (settings : Client) (inEndpoint inBackoff entries : Entries) : Prop :=
  (∀ entry ∈ entries, settings.Gives inEndpoint inBackoff entry.1 entry.2) ∧
    Json.GivesOnce record.keys entries

theorem isOverlay_overlay (settings : Client) (inEndpoint inBackoff : List String) :
    record.IsOverlay (settings.overlay inEndpoint inBackoff) where
  start := by
    simp [overlay, record]
  depends first second same := by
    simp only [Json.Record.keys, record, Json.Field.of, List.map_cons, List.map_nil,
      List.forall_mem_cons] at same
    simp [overlay, same]

theorem suits_of_gives {settings : Client} (fits : settings.IsRepresentable)
    {inEndpoint inBackoff : Entries} {entry : String × List Char}
    (gives : settings.Gives inEndpoint inBackoff entry.1 entry.2) (depth : Nat) :
    record.Suits (depth + 1)
      (settings.overlay (inEndpoint.map Prod.fst) (inBackoff.map Prod.fst)) entry := by
  obtain ⟨key, text⟩ := entry
  simp only [Gives] at gives
  have word {value : Nat} (fits : value ≤ greatestWord) :=
    Json.Decoder.finds_natural (depth + 1) fits (Nat.le_refl _)
  split at gives
  · subst gives
    exact Json.Record.suits_of_field rfl (word fits.backlogLimit) fun seen => by simp [overlay]
  · subst gives
    exact Json.Record.suits_of_field rfl (word fits.tokenLook) fun seen => by simp [overlay]
  · subst gives
    exact Json.Record.suits_of_field rfl (word fits.noticeDelay) fun seen => by simp [overlay]
  · subst gives
    exact Json.Record.suits_of_field rfl (word fits.idleSeconds) fun seen => by simp [overlay]
  · subst gives
    exact Json.Record.suits_of_field rfl (word fits.messageLimit) fun seen => by simp [overlay]
  · exact Json.Record.suits_of_field rfl (Endpoint.finds_overlay depth gives.2 gives.1)
      fun seen => by simp [overlay]
  · exact Json.Record.suits_of_field rfl (Backoff.finds_overlay fits.backoff depth gives.2 gives.1)
      fun seen => by simp [overlay]
  next notBacklog notLook notDelay notIdle notLimit notEndpoint notBackoff =>
    have other : key ∉ record.keys := by
      simpa [Json.Record.keys, record, Json.Field.of] using
        ⟨notBacklog, notLook, notDelay, notIdle, notLimit, notEndpoint, notBackoff⟩
    exact Json.Record.suits_of_other other gives

end Client

/-! ## Settings that are given in full -/

theorem renderValue_bool (value : Bool) :
    Json.renderValue (.bool value) = (toString value).toList := by
  cases value <;> rfl

theorem renderValue_string (content : String) :
    Json.renderValue (.string content) = Json.renderText content := by
  rw [Json.renderValue]

theorem renderValue_ofNat (value : Nat) :
    Json.renderValue (.ofNat value) = Nat.toDigits 10 value := by
  rw [Json.ofNat, Json.renderValue, Json.renderNumber]

namespace Endpoint

def entries (endpoint : Endpoint) : Entries := [
  ("host", Json.renderText endpoint.host),
  ("secure", (toString endpoint.secure).toList),
  ("desktop_shell", (toString endpoint.desktop).toList),
  ("path", Json.renderText endpoint.path)]

theorem writesObject_entries (endpoint : Endpoint) :
    Json.WritesObject endpoint.entries (Json.renderValue endpoint.toJson) := by
  simpa [entries, toJson, renderValue_bool, renderValue_string] using Json.writesObject_render [
    ("host", .string endpoint.host), ("secure", .bool endpoint.secure),
    ("desktop_shell", .bool endpoint.desktop), ("path", .string endpoint.path)]

theorem givenBy_entries (endpoint : Endpoint) : endpoint.GivenBy endpoint.entries := by
  refine ⟨?_, ?_⟩
  · simp [entries, Gives, Json.writesText_renderText]
  · have keys : endpoint.entries.map Prod.fst = record.keys := rfl
    rw [Json.GivesOnce, keys]
    decide

theorem overlay_entries (endpoint : Endpoint) :
    endpoint.overlay (endpoint.entries.map Prod.fst) = endpoint := by
  simp [entries, overlay]

end Endpoint

namespace Backoff

def entries (backoff : Backoff) : Entries := [
  ("base_delay_ms", Nat.toDigits 10 backoff.baseDelay),
  ("max_delay_ms", Nat.toDigits 10 backoff.maxDelay),
  ("max_attempts", Nat.toDigits 10 backoff.attemptLimit)]

theorem writesObject_entries (backoff : Backoff) :
    Json.WritesObject backoff.entries (Json.renderValue backoff.toJson) := by
  simpa [entries, toJson, renderValue_ofNat] using Json.writesObject_render [
    ("base_delay_ms", .ofNat backoff.baseDelay), ("max_delay_ms", .ofNat backoff.maxDelay),
    ("max_attempts", .ofNat backoff.attemptLimit)]

theorem givenBy_entries (backoff : Backoff) : backoff.GivenBy backoff.entries := by
  refine ⟨?_, ?_⟩
  · simp [entries, Gives]
  · have keys : backoff.entries.map Prod.fst = record.keys := rfl
    rw [Json.GivesOnce, keys]
    decide

theorem overlay_entries (backoff : Backoff) :
    backoff.overlay (backoff.entries.map Prod.fst) = backoff := by
  simp [entries, overlay]

end Backoff

namespace Client

def entries (settings : Client) : Entries := [
  ("queue_capacity", Nat.toDigits 10 settings.backlogLimit),
  ("token_poll_interval_ms", Nat.toDigits 10 settings.tokenLook),
  ("auth_reload_delay_ms", Nat.toDigits 10 settings.noticeDelay),
  ("idle_timeout_secs", Nat.toDigits 10 settings.idleSeconds),
  ("max_message_size", Nat.toDigits 10 settings.messageLimit),
  ("endpoint", Json.renderValue settings.endpoint.toJson),
  ("reconnect", Json.renderValue settings.backoff.toJson)]

theorem writesObject_entries (settings : Client) :
    Json.WritesObject settings.entries (Json.renderValue settings.toJson) := by
  simpa [entries, toJson, renderValue_ofNat] using Json.writesObject_render [
    ("queue_capacity", .ofNat settings.backlogLimit),
    ("token_poll_interval_ms", .ofNat settings.tokenLook),
    ("auth_reload_delay_ms", .ofNat settings.noticeDelay),
    ("idle_timeout_secs", .ofNat settings.idleSeconds),
    ("max_message_size", .ofNat settings.messageLimit),
    ("endpoint", settings.endpoint.toJson),
    ("reconnect", settings.backoff.toJson)]

theorem givenBy_entries (settings : Client) :
    settings.GivenBy settings.endpoint.entries settings.backoff.entries settings.entries := by
  refine ⟨?_, ?_⟩
  · simp [entries, Gives, Endpoint.writesObject_entries, Endpoint.givenBy_entries,
      Backoff.writesObject_entries, Backoff.givenBy_entries]
  · have keys : settings.entries.map Prod.fst = record.keys := rfl
    rw [Json.GivesOnce, keys]
    decide

theorem overlay_entries (settings : Client) :
    settings.overlay (settings.endpoint.entries.map Prod.fst)
      (settings.backoff.entries.map Prod.fst) (settings.entries.map Prod.fst) = settings := by
  rw [overlay, Endpoint.overlay_entries, Backoff.overlay_entries]
  simp [entries]

theorem holdsObject_render (settings : Client) :
    Json.HoldsObject settings.entries settings.toJson.render := by
  refine ⟨[], _, [], Json.areBlanks_nil, settings.writesObject_entries, Json.areBlanks_nil, ?_⟩
  rw [Json.render, String.toList_ofList, List.nil_append, List.append_nil]

/-- Settings that a text gives in part are laid over the standard ones, and those that are written
in full come back. -/
theorem parse_gives_overlay (settings : Client) (fits : settings.IsRepresentable) :
    (∀ (text : String) (entries inEndpoint inBackoff : Entries), Json.HoldsObject entries text →
      settings.GivenBy inEndpoint inBackoff entries →
        parse text = .ok (settings.overlay (inEndpoint.map Prod.fst) (inBackoff.map Prod.fst)
          (entries.map Prod.fst))) ∧
      parse settings.toJson.render = .ok settings := by
  have inPart (text : String) (entries inEndpoint inBackoff : Entries)
      (holds : Json.HoldsObject entries text)
      (given : settings.GivenBy inEndpoint inBackoff entries) :
      parse text = .ok (settings.overlay (inEndpoint.map Prod.fst) (inBackoff.map Prod.fst)
        (entries.map Prod.fst)) :=
    Json.Record.parse_of_suits (settings.isOverlay_overlay _ _) (by decide)
      (fun entry member => suits_of_gives fits (given.1 entry member) 125) given.2 holds
  refine ⟨inPart, ?_⟩
  rw [inPart _ _ _ _ settings.holdsObject_render settings.givenBy_entries, overlay_entries]

/-- One member has no meaning and holds what no number and no string can be read from; the key of
another is spelled with an escape. -/
theorem overlay_of_path :
    let settings : Client := ⟨7, 8, 9, 5, 6, ⟨"elsewhere", true, false, "/a"⟩, ⟨1, 2, 3⟩⟩
    settings.IsRepresentable ∧
      parse " \x7b\"x\":[1e999, \"\\ud800\"], \"endpoint\":\x7b\"p\\u0061th\":\"/a\"\x7d\x7d" =
        .ok { standard with endpoint := { Endpoint.standard with path := "/a" } } := by
  intro settings
  have fits : settings.IsRepresentable :=
    ⟨by decide, by decide, by decide, by decide, by decide, by decide, by decide, by decide⟩
  refine ⟨fits, ?_⟩
  have space : Json.AreBlanks [' '] := by decide
  have nothing : Json.AreBlanks [] := Json.areBlanks_nil
  -- The value that has no meaning.
  have great : Json.IsMagnitude "1e999".toList :=
    @Json.IsMagnitude.mk ['1'] [] ['e', '9', '9', '9'] (by decide) (by decide) .absent
      (@Json.IsExponent.present 'e' [] ['9', '9', '9'] (by decide) (by decide) (by decide))
  have half : Json.IsContent "\\ud800\"".toList :=
    @Json.IsContent.code ['d', '8', '0', '0'] ['"'] 0xD800 ⟨13, 8, 0, 0, by decide, by decide⟩
      .closes
  have ignored : Json.Fits .value "[1e999, \"\\ud800\"]".toList :=
    .filled (.more (.item (.padded nothing (.unsigned great) nothing))
      (.last (.item (.padded space (.string half) nothing))))
  -- The endpoint, of which the path alone is given.
  have key : Json.Spells "path".toList "p\\u0061th\"".toList :=
    .plain (by decide) (by decide) (by decide)
      (@Json.Spells.code ['0', '0', '6', '1'] ['t', 'h'] ['t', 'h', '"'] 0x61
        ⟨0, 0, 6, 1, by decide, by decide⟩ (by decide) (by decide)
        (Json.spells_flatMap_escape ['t', 'h']))
  have path : Json.WritesText "/a" "\"/a\"".toList := Json.writesText_renderText "/a"
  let inEndpoint : Entries := [("path", "\"/a\"".toList)]
  have writesEndpoint : Json.WritesObject inEndpoint "\x7b\"p\\u0061th\":\"/a\"\x7d".toList :=
    .members (.last (.mk nothing key nothing nothing nothing))
  have givenEndpoint : settings.endpoint.GivenBy inEndpoint :=
    ⟨List.forall_mem_singleton.mpr path, by decide⟩
  let entries : Entries := [("x", "[1e999, \"\\ud800\"]".toList),
    ("endpoint", "\x7b\"p\\u0061th\":\"/a\"\x7d".toList)]
  have members : Json.WritesMembers entries _ :=
    .more (.mk nothing (Json.spells_flatMap_escape ['x']) nothing nothing nothing)
      (.last (.mk space (Json.spells_flatMap_escape "endpoint".toList) nothing nothing nothing))
  have given : settings.GivenBy inEndpoint [] entries :=
    ⟨List.forall_mem_cons.mpr ⟨ignored, List.forall_mem_singleton.mpr
      ⟨writesEndpoint, givenEndpoint⟩⟩, by decide⟩
  refine (parse_gives_overlay settings fits).1 _ entries inEndpoint []
    ⟨[' '], _, [], space, .members members, nothing, ?_⟩ given
  decide

end Client

end Parley.Settings
