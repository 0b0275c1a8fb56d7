import Parley.Url.Form
import Parley.Url.Host

/-!
# URLs of web sockets

The parts of a URL with the scheme `ws` or `wss`, how they are read from a text and how they are
written. Reading follows the rules for web addresses: blanks at the end, tabs and line breaks are
dropped, backslashes count as slashes, `.` and `..` are resolved in the path, and the port of the
scheme is left out.
-/

namespace Parley.Url

inductive Scheme where
  | plain
  | secure
deriving DecidableEq, Repr

namespace Scheme

def name : Scheme → String
  | .plain => "ws"
  | .secure => "wss"

/-- The port that a URL need not name. -/
def defaultPort : Scheme → Nat
  | .plain => 80
  | .secure => 443

end Scheme

/-- The parts of a URL. User name, password, path, query and fragment are held encoded. -/
structure Parts where
  scheme : Scheme
  username : List Char
  password : List Char
  host : Host
  port : Option Nat
  /-- The segments of the path, of which there is at least one. -/
  path : List (List Char)
  query : Option (List Char)
  fragment : Option (List Char)
deriving DecidableEq, Repr

/-! ## Reading -/

/-- Tabs and line breaks, which are dropped wherever they stand. -/
def isDropped (character : Char) : Bool :=
  character == '\t' || character == '\n' || character == '\r'

/-- The text without blanks and control characters at its end, and without dropped characters. -/
def tidy (text : List Char) : List Char :=
  (text.reverse.dropWhile (·.toNat ≤ 0x20)).reverse.filter (! isDropped ·)

def isSlash (character : Char) : Bool :=
  character == '/' || character == '\\'

/-- The character ends the part of a URL that names user, host and port. -/
def endsAuthority (character : Char) : Bool :=
  isSlash character || character == '?' || character == '#'

/-- The part before the last `@`, if there is one, and the part after it. -/
def splitUser (authority : List Char) : Option (List Char) × List Char :=
  let behind := (authority.reverse.takeWhile (· ≠ '@')).reverse
  if behind.length = authority.length then (none, authority)
  else (some (authority.take (authority.length - behind.length - 1)), behind)

/-- The host and what follows it. Colons in brackets belong to the host. -/
def splitHost (inBrackets : Bool) : List Char → List Char × List Char
  | [] => ([], [])
  | character :: rest =>
      if character = ':' ∧ ! inBrackets then ([], character :: rest)
      else
        let inBrackets :=
          if character = '[' then true else if character = ']' then false else inBrackets
        let (host, after) := splitHost inBrackets rest
        (character :: host, after)

/-- The port that a text behind the host writes; none if it is left out or is the usual one. -/
def readPort (scheme : Scheme) : List Char → Except Defect (Option Nat)
  | ':' :: digits =>
      let port := Text.numeral 10 digits
      if ! digits.all Char.isDigit ∨ port > 65535 then .error .port
      else if digits.isEmpty ∨ port = scheme.defaultPort then .ok none
      else .ok (some port)
  | _ => .ok none

/-- A segment that stands for the current place, in any of its spellings. -/
def isSingleDot (segment : List Char) : Bool :=
  [['.'], ['%', '2', 'e']].contains (segment.map Char.toLower)

/-- A segment that stands for the place above, in any of its spellings. -/
def isDoubleDot (segment : List Char) : Bool :=
  [['.', '.'], ['.', '%', '2', 'e'], ['%', '2', 'e', '.'],
    ['%', '2', 'e', '%', '2', 'e']].contains (segment.map Char.toLower)

/-- A segment that names a drive; `..` does not leave it. -/
def isDrive : List Char → Bool
  | [letter, mark] => letter.isAlpha && (mark == ':' || mark == '|')
  | _ => false

/-- The segments above the last of `above`, which stand in reverse. -/
def ascend : List (List Char) → List (List Char)
  | [] => []
  | segment :: above => if isDrive segment then segment :: above else above

/-- Resolves segments after those `above`, which stand in reverse. A dot segment at the end leaves
an empty segment. -/
def resolve (above : List (List Char)) : List (List Char) → List (List Char)
  | [] => above.reverse
  | segment :: rest =>
      let (above, kept) :=
        if isDoubleDot segment then (ascend above, false)
        else if isSingleDot segment then (above, false)
        else (above, true)
      if kept then resolve (segment :: above) rest
      else if rest.isEmpty then ([] :: above).reverse
      else resolve above rest

/-- The segments of a path after its leading slash. -/
def readPath (text : List Char) : List (List Char) :=
  let text := match text with
    | character :: rest => if isSlash character then rest else text
    | [] => text
  resolve [] ((text.splitOnP isSlash).map (percentEncode pathSet))

/-- The part of a text before the mark, and the part after it if there is one. -/
def splitAtMark (mark : Char) (text : List Char) : List Char × Option (List Char) :=
  match text.dropWhile (· ≠ mark) with
  | [] => (text, none)
  | _ :: after => (text.takeWhile (· ≠ mark), some after)

/-- The user name and password of the part before `@`. -/
def readUser (text : List Char) : List Char × List Char :=
  let (name, password) := splitAtMark ':' text
  (percentEncode userSet name, percentEncode userSet (password.getD []))

/-- The URL of a scheme and the text after its colon, which starts with slashes. -/
def read (scheme : Scheme) (text : List Char) : Except Defect Parts := do
  let text := (tidy text).dropWhile isSlash
  let (before, fragment) := splitAtMark '#' text
  let (before, query) := splitAtMark '?' before
  let authority := before.takeWhile (! endsAuthority ·)
  let (user, address) := splitUser authority
  let (name, behind) := splitHost false address
  let (username, password) := readUser (user.getD [])
  if name.isEmpty then .error .emptyHost
  else
    let host ← Host.read name
    let port ← readPort scheme behind
    .ok
      { scheme
        username
        password
        host
        port
        path := readPath (before.drop authority.length)
        query := query.map (percentEncode querySet)
        fragment := fragment.map (percentEncode fragmentSet) }

/-! ## Writing -/

namespace Parts

/-- The user name and password with their marks, if either is there. -/
def renderUser (url : Parts) : List Char :=
  let password := if url.password.isEmpty then [] else ':' :: url.password
  if url.username.isEmpty ∧ url.password.isEmpty then []
  else url.username ++ password ++ ['@']

/-- The port behind its colon. -/
def renderPort (url : Parts) : List Char :=
  match url.port with
  | some port => ':' :: Nat.toDigits 10 port
  | none => []

/-- A part behind its mark, or nothing. -/
def renderMarked (mark : Char) : Option (List Char) → List Char
  | some text => mark :: text
  | none => []

def render (url : Parts) : String :=
  String.ofList (url.scheme.name.toList ++ [':', '/', '/'] ++ url.renderUser ++
    url.host.render ++ url.renderPort ++ url.path.flatMap ('/' :: ·) ++
    renderMarked '?' url.query ++ renderMarked '#' url.fragment)

/-- The URL with a further pair at the end of its query. -/
def appendPair (url : Parts) (name value : String) : Parts :=
  { url with query := some (Form.append (url.query.getD []) name.toList value.toList) }

end Parts

end Parley.Url
