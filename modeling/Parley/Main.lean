import Parley.Terminal.Identifier
import Parley.Terminal.Session
import Std.Time.Zoned

/-!
# The program

The outer layer: arguments, environment, files, clock and lines are read here, and what the session
writes goes to standard output. There is no network, so every dial is refused.
-/

namespace Parley.Program

open Terminal

/-- What is found at a path: a file, or something else if it cannot be read as one. -/
def look (path : String) : IO (Option Files.Node) := do
  try
    let bytes ← IO.FS.readBinFile path
    return some (.file bytes.toList Files.createdMode)
  catch fault =>
    match fault with
    | .noFileOrDirectory .. => return none
    | _ => return some .directory

/-- The tree with what is found now at a path and above it. -/
def remember (tree : Files.Tree) (path : String) : IO Files.Tree := do
  let mut tree := tree
  for count in List.range (Files.splitPath path).length do
    let place := "/".intercalate ((Files.splitPath path).take (count + 1))
    if let .ok found := tree.resolve place then
      match ← look place with
      | some node => tree := tree.put found node
      | none => tree := tree.erase found
  return tree

/-- Writes a private file that is new in a tree. -/
def create (tree : Files.Tree) (path : String) : IO Unit := do
  if let .ok bytes := tree.read path then
    try
      if let some parent := Files.parentPath? path then
        unless parent.isEmpty do IO.FS.createDirAll parent
      IO.FS.writeBinFile path ⟨bytes.toArray⟩
      IO.setAccessRights path { user := { read := true, write := true } }
    catch _ => return

/-- The next line of standard input, without its end; none at the end of the input. -/
partial def readLine (input : IO.FS.Stream) (line : Array UInt8) :
    IO (Option (List UInt8)) := do
  let bytes ← input.read 1
  match bytes.toList with
  | [] => return (if line.isEmpty then none else some line.toList)
  | byte :: _ => if byte = 10 then return some line.toList else readLine input (line.push byte)

def twoDigits (value : Int) : String :=
  if value < 10 then "0" ++ toString value else toString value

/-- The time of day as notes show it. -/
def timeOfDay : IO String := do
  let now ← Std.Time.PlainTime.now
  return ":".intercalate
    ([now.hour.toInt, now.minute.toInt, now.second.toInt].map twoDigits)

/-- Writes what the session has to say, and refuses what it dials. -/
def attend (session : Session) : IO Session := do
  let refused := session.traffic.foldl (fun session (dial, event) =>
    match event with
    | .dialed _ _ => session.onClient (·.refuse dial "no network")
    | _ => session) { session with traffic := [] }
  let time ← timeOfDay
  let output ← IO.getStdout
  output.putStr (String.join (refused.pieces.map (·.render time)))
  output.flush
  return { refused with pieces := [] }

/-- The files with the token file as it is now, if the token comes from it. -/
def lookForToken (session : Session) : IO Files.Tree :=
  match session.tokenSource with
  | .constant _ => pure session.files
  | .stored store => remember session.files store.path

/-- Runs a session until a line or the end of the input ends it. -/
partial def converse (input : IO.FS.Stream) (started : Nat)
    (line : Task (Except IO.Error (Option (List UInt8)))) (session : Session) :
    IO Ending := do
  let files ← lookForToken session
  let elapsed := (← IO.monoMsNow) - started
  let session := { session with files }.advance (elapsed - session.client.now)
  let session ← attend session
  if ← IO.hasFinished line then
    match line.get with
    | .error fault => return .failed (toString fault)
    | .ok none =>
        let _ ← attend session.shutdown
        return .finished
    | .ok (some bytes) =>
        let files ←
          match (Text.Utf8.decode bytes).map fun text => Entry.ofLine (String.ofList text) with
          | .ok (.image path _) => remember session.files path
          | _ => pure session.files
        let (session, ending) := { session with files }.enter [bytes]
        let session ← attend session
        match ending with
        | some ending => return ending
        | none => converse input started (← IO.asTask (readLine input #[])) session
  else
    IO.sleep 20
    converse input started line session

def run (arguments : Arguments) : IO UInt32 := do
  let home ← IO.getEnv "HOME"
  let random ← IO.getRandomBytes 16
  let directory := (← IO.currentDir).toString
  let place := (Files.splitPath directory).filter (! ·.isEmpty)
  let path := arguments.config.getD (Settings.standardPath home)
  let surroundings : Surroundings :=
    ⟨home, ← IO.getEnv tokenVariable, identifierOf random.toList,
      ← remember (Files.Tree.ofDirectory place) path⟩
  let (settings, _) := Session.loadSettings surroundings arguments
  let files ← remember surroundings.files settings.tokenPath
  let (after, outcome) := Session.start { surroundings with files } arguments
  unless files.pathExists path do create after path
  match outcome with
  | .error message =>
      IO.eprintln ("Error: " ++ message)
      return 1
  | .ok session =>
      let input ← IO.getStdin
      let started ← IO.monoMsNow
      match ← converse input started (← IO.asTask (readLine input #[])) session with
      | .finished => return 0
      | .failed message =>
          IO.eprintln ("Error: " ++ message)
          return 1

end Parley.Program

def main (words : List String) : IO UInt32 := do
  match Parley.Terminal.Arguments.parse words with
  | .help =>
      IO.print Parley.Terminal.Arguments.helpText
      return 0
  | .version =>
      IO.print Parley.Terminal.Arguments.versionText
      return 0
  | .refused fault =>
      IO.eprint fault.report
      return 2
  | .run arguments => Parley.Program.run arguments
