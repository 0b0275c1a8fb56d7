import Parley.Settings.Chat

/-!
# Arguments

The words after the name of the program on its command line. They are read one after the other, and
the first that asks for help, asks for the version or cannot be used decides. What options rule each
other out is looked at only when all words are read.
-/

namespace Parley.Terminal

/-- What the command line may set. -/
structure Arguments where
  config : Option String
  host : Option String
  secure : Bool
  desktop : Bool
  session : Option String
  newSession : Bool
  token : Option String
  backend : Option String
deriving DecidableEq, Repr

namespace Arguments

def unset : Arguments :=
  ⟨none, none, false, false, none, false, none, none⟩

structure Valued where
  name : String
  /-- The name that the value has in messages. -/
  value : String
  allowsEmpty : Bool
  get : Arguments → Option String
  put : String → Arguments → Arguments

structure Flag where
  name : String
  get : Arguments → Bool
  put : Arguments → Arguments

def valued : List Valued := [
  ⟨"config", "path", false, config, fun value arguments =>
    { arguments with config := some value }⟩,
  ⟨"host", "HOST", true, host, fun value arguments => { arguments with host := some value }⟩,
  ⟨"session", "SESSION", true, session, fun value arguments =>
    { arguments with session := some value }⟩,
  ⟨"token", "TOKEN", true, token, fun value arguments =>
    { arguments with token := some value }⟩,
  ⟨"backend", "BACKEND", true, backend, fun value arguments =>
    { arguments with backend := some value }⟩]

def flags : List Flag := [
  ⟨"secure", secure, fun arguments => { arguments with secure := true }⟩,
  ⟨"desktop", desktop, fun arguments => { arguments with desktop := true }⟩,
  ⟨"new-session", newSession, fun arguments => { arguments with newSession := true }⟩]

/-- How an option is written in messages. -/
def Valued.usage (option : Valued) : String :=
  "--" ++ option.name ++ " <" ++ option.value ++ ">"

def Flag.usage (flag : Flag) : String :=
  "--" ++ flag.name

/-- Why a command line cannot be used. -/
inductive Fault where
  | unexpected (word : String)
  | unexpectedValue (value usage : String)
  | missingValue (usage : String)
  | repeated (usage : String)
  | conflict (usage other : String)
deriving DecidableEq, Repr

def Fault.message : Fault → String
  | .unexpected word => "unexpected argument '" ++ word ++ "' found"
  | .unexpectedValue value usage =>
      "unexpected value '" ++ value ++ "' for '" ++ usage ++
        "' found; no more were expected"
  | .missingValue usage => "a value is required for '" ++ usage ++ "' but none was supplied"
  | .repeated usage => "the argument '" ++ usage ++ "' cannot be used multiple times"
  | .conflict usage other =>
      "the argument '" ++ usage ++ "' cannot be used with '" ++ other ++ "'"

/-- What a command line asks for. -/
inductive Outcome where
  | run (arguments : Arguments)
  | help
  | version
  | refused (fault : Fault)
deriving DecidableEq, Repr

/-- Sets an option, which may be done once. -/
def Valued.set (option : Valued) (value : String) (arguments : Arguments) :
    Except Fault Arguments :=
  if (option.get arguments).isSome then .error (.repeated option.usage)
  else if value.isEmpty ∧ ! option.allowsEmpty then .error (.missingValue option.usage)
  else .ok (option.put value arguments)

/-- Sets a flag, which may be done once. -/
def Flag.set (flag : Flag) (arguments : Arguments) : Except Fault Arguments :=
  if flag.get arguments then .error (.repeated flag.usage) else .ok (flag.put arguments)

/-- Options that rule each other out, by how they are written and whether they are set. -/
def conflicts (arguments : Arguments) : List ((String × Bool) × (String × Bool)) :=
  let desktop := ("--desktop", arguments.desktop)
  [(desktop, ("--host <HOST>", arguments.host.isSome)),
    (desktop, ("--secure", arguments.secure)),
    (("--new-session", arguments.newSession),
      ("--session <SESSION>", arguments.session.isSome))]

def finish (arguments : Arguments) : Outcome :=
  match arguments.conflicts.find? fun (left, right) => left.2 && right.2 with
  | some (left, right) => .refused (.conflict left.1 right.1)
  | none => .run arguments

/-- What a single word asks for when no option waits for its value. -/
inductive Step where
  | continue (arguments : Arguments)
  /-- The next word is the value of an option. -/
  | await (option : Valued)
  /-- All words that follow are no options. -/
  | endOfOptions
  | stop (outcome : Outcome)

def Step.ofSetting : Except Fault Arguments → Step
  | .ok arguments => .continue arguments
  | .error fault => .stop (.refused fault)

/-- A long option, with the value that is attached to it by an equals sign. -/
def stepLong (word name : String) (attached : Option String) (arguments : Arguments) : Step :=
  match valued.find? (·.name == name), flags.find? (·.name == name), attached with
  | some option, _, some value => .ofSetting (option.set value arguments)
  | some option, _, none => .await option
  | _, some flag, none => .ofSetting (flag.set arguments)
  | _, some flag, some value => .stop (.refused (.unexpectedValue value flag.usage))
  | _, _, _ =>
      if name = "help" ∨ name = "version" then
        match attached with
        | some value => .stop (.refused (.unexpectedValue value ("--" ++ name)))
        | none => .stop (if name = "help" then .help else .version)
      else .stop (.refused (.unexpected word))

def step (word : String) (arguments : Arguments) : Step :=
  match word.toList with
  | ['-', '-'] => .endOfOptions
  | '-' :: '-' :: body =>
      let name := String.ofList (body.takeWhile (· ≠ '='))
      match body.dropWhile (· ≠ '=') with
      | _ :: value => stepLong word name (some (String.ofList value)) arguments
      | [] => stepLong word name none arguments
  | '-' :: 'h' :: _ => .stop .help
  | '-' :: 'V' :: _ => .stop .version
  | _ => .stop (.refused (.unexpected word))

/-- The word is written like an option. A dash alone is not. -/
def isDashed (word : String) : Bool :=
  match word.toList with
  | '-' :: _ :: _ => true
  | _ => false

/-- Reads the words that are left. `awaiting` is an option that still needs its value. -/
def read (awaiting : Option Valued) (arguments : Arguments) : List String → Outcome
  | [] =>
      match awaiting with
      | some option => .refused (.missingValue option.usage)
      | none => finish arguments
  | word :: rest =>
      match awaiting with
      | some option =>
          if isDashed word then .refused (.missingValue option.usage)
          else
            match option.set word arguments with
            | .ok arguments => read none arguments rest
            | .error fault => .refused fault
      | none =>
          match step word arguments with
          | .continue arguments => read none arguments rest
          | .await option => read (some option) arguments rest
          | .endOfOptions =>
              match rest with
              | [] => finish arguments
              | word :: _ => .refused (.unexpected word)
          | .stop outcome => outcome

/-- What the words of a command line ask for. -/
def parse (words : List String) : Outcome :=
  read none unset words

/-! ## Texts -/

def versionText : String :=
  "neomind-chat 0.1.0\n"

/-- The line on how the program is called. -/
def usageText : String :=
  "Usage: neomind-chat [OPTIONS]\n"

def helpText : String :=
  "Chat with a NeoMind agent from the terminal\n\n" ++ usageText ++ "\nOptions:\n" ++
  "      --config <path>      Config file (default: ~/.config/neomind/chat.toml)\n" ++
  "      --host <HOST>        Server host[:port]\n" ++
  "      --secure             Use wss:// instead of ws://\n" ++
  "      --desktop            Connect to the desktop app's local server\n" ++
  "      --session <SESSION>  Resume an existing chat session\n" ++
  "      --new-session        Start a new session with a client-chosen id\n" ++
  "      --token <TOKEN>      Auth token (overrides NEOMIND_TOKEN and the token file)\n" ++
  "      --backend <BACKEND>  LLM backend to use\n" ++
  "  -h, --help               Print help\n" ++
  "  -V, --version            Print version\n"

/-- The answer to a command line that cannot be used. -/
def Fault.report (fault : Fault) : String :=
  "error: " ++ fault.message ++ "\n\n" ++ usageText ++
    "\nFor more information, try '--help'.\n"

/-! ## Their effect -/

/-- The settings with what the command line changes about them. -/
def apply (arguments : Arguments) (settings : Settings.Chat) : Settings.Chat :=
  let endpoint := settings.client.endpoint
  { settings with
    backend := arguments.backend <|> settings.backend
    client := { settings.client with
      endpoint := { endpoint with
        host := arguments.host.getD endpoint.host
        secure := arguments.secure || endpoint.secure
        desktop := arguments.desktop || endpoint.desktop } } }

/-- The session to start with, where `fresh` is an identifier that no session has. -/
def firstSession (fresh : String) (arguments : Arguments) : Option String :=
  if arguments.newSession then some fresh else arguments.session

end Arguments

end Parley.Terminal
