import Parley.Text.Blank

/-!
# Input lines

What a line typed into the terminal asks for. A line that starts with a slash is a command, named
by what stands before its first blank; any other line is said to the assistant.
-/

namespace Parley.Terminal

/-- What a line asks for. -/
inductive Entry where
  | say (text : String)
  | image (path text : String)
  | disconnect
  | reconnect
  | state
  | help
  | quit
  | empty
  | invalid (reason : String)
deriving DecidableEq, Repr

def helpText : String :=
  "commands:\n" ++
  "  /image <path> <text>   send text with an image attached\n" ++
  "  /disconnect            close the connection\n" ++
  "  /reconnect             reconnect now\n" ++
  "  /state                 show the connection state\n" ++
  "  /quit                  exit"

def imageUsage : String :=
  "usage: /image <path> <text>"

namespace Entry

/-- The path up to the first blank, and the text after it; there have to be both. -/
def ofImageArguments (arguments : List Char) : Entry :=
  match Text.splitAtBlank? arguments with
  | some (path, after) =>
      let text := Text.trim after
      if text.isEmpty then .invalid imageUsage
      else .image (String.ofList path) (String.ofList text)
  | none => .invalid imageUsage

/-- A command without its slash. -/
def ofCommand (command : List Char) : Entry :=
  let (name, arguments) := (Text.splitAtBlank? command).getD (command, [])
  match String.ofList name with
  | "image" => ofImageArguments (Text.trim arguments)
  | "disconnect" => .disconnect
  | "reconnect" => .reconnect
  | "state" => .state
  | "help" => .help
  | "quit" => .quit
  | "exit" => .quit
  | other => .invalid ("unknown command /" ++ other ++ ", try /help")

def ofLine (line : String) : Entry :=
  match Text.trim line.toList with
  | [] => .empty
  | '/' :: command => ofCommand command
  | text => .say (String.ofList text)

end Entry

end Parley.Terminal
