import Parley.Files.Tree
import Parley.Settings.Client
import Parley.Toml.Reader
import Parley.Toml.Writer

/-!
# Terminal settings

What the terminal is set up with, and the file that says it. If there is no file, one with the
standard settings is created, private to its owner.
-/

namespace Parley.Settings

structure Chat where
  /-- The language model backend to ask for, if not that of the server. -/
  backend : Option String
  /-- The file that keeps the login token. -/
  tokenPath : String
  client : Client
deriving DecidableEq, Repr

/-- Why a settings file cannot be read or written. -/
inductive FileFault where
  | file (refusal : Files.Refusal)
  /-- The text is no settings, or the settings have no text. -/
  | toml
deriving DecidableEq, Repr

def directory (home : Option String) : String :=
  Files.join (Files.join (home.getD "/tmp") ".config") "neomind"

/-- The file that settings come from unless another one is named. -/
def standardPath (home : Option String) : String :=
  Files.join (directory home) "chat.toml"

namespace Chat

def standard (home : Option String) : Chat where
  backend := none
  tokenPath := Files.join (directory home) "token.json"
  client := Client.standard

def record (home : Option String) : Json.Record Chat where
  start := standard home
  fields := [
    .of "backend_id" false (.optional .text) fun backend settings =>
      { settings with backend },
    .of "token_file" false .text fun tokenPath settings => { settings with tokenPath },
    .of "client" false Client.record.decoder fun client settings => { settings with client }]

/-- The settings that a text gives; everything it leaves out is standard. -/
def parse? (home : Option String) (text : String) : Option Chat := do
  (record home).decoder.ofValue? .ignored (← Toml.parse? text).toJson

def sections (settings : Chat) : List Toml.Section :=
  let client := settings.client
  let number := fun (value : Nat) => Toml.integer value
  [⟨[],
      (settings.backend.toList.map fun backend => ("backend_id", Toml.string backend)) ++
        [("token_file", .string settings.tokenPath)]⟩,
    ⟨["client"], [
      ("queue_capacity", number client.backlogLimit),
      ("token_poll_interval_ms", number client.tokenLook),
      ("auth_reload_delay_ms", number client.noticeDelay),
      ("idle_timeout_secs", number client.idleSeconds),
      ("max_message_size", number client.messageLimit)]⟩,
    ⟨["client", "endpoint"], [
      ("host", .string client.endpoint.host),
      ("secure", .boolean client.endpoint.secure),
      ("desktop_shell", .boolean client.endpoint.desktop),
      ("path", .string client.endpoint.path)]⟩,
    ⟨["client", "reconnect"], [
      ("base_delay_ms", number client.backoff.baseDelay),
      ("max_delay_ms", number client.backoff.maxDelay),
      ("max_attempts", number client.backoff.attemptLimit)]⟩]

/-- The text of a settings file; none if a number is too large for one. -/
def render? (settings : Chat) : Option String :=
  Toml.render? settings.sections

/-- Saves settings to a file: what comes of it, and the files that are left. The directories above
the file are created before the settings may turn out to have no text. -/
def saveTo (tree : Files.Tree) (path : String) (settings : Chat) :
    Except FileFault Unit × Files.Tree :=
  match tree.layAbove path with
  | (.error refusal, left) => (.error (.file refusal), left)
  | (.ok (), above) =>
      match settings.render? with
      | none => (.error .toml, above)
      | some text =>
          match above.write path (Text.Utf8.encode text.toList) with
          | .error refusal => (.error (.file refusal), above)
          | .ok filled =>
              match filled.makePrivate path with
              | .error refusal => (.error (.file refusal), filled)
              | .ok after => (.ok (), after)

def save (tree : Files.Tree) (path : String) (settings : Chat) :
    Except FileFault Files.Tree :=
  Files.ifDone (settings.saveTo tree path)

/-- The settings in a file, and the files afterwards. -/
def load (tree : Files.Tree) (home : Option String) (path : String) :
    Except FileFault (Chat × Files.Tree) :=
  if tree.pathExists path then
    match tree.readText path with
    | .error refusal => .error (.file refusal)
    | .ok text =>
        match parse? home text with
        | some settings => .ok (settings, tree)
        | none => .error .toml
  else do
    let settings := standard home
    .ok (settings, ← settings.save tree path)

end Chat

end Parley.Settings
