import Parley.Json.Decoder
import Parley.Url.Basic

/-!
# Endpoint

Where the chat server is, the URL that this makes, and the URL with credentials in its query.
-/

namespace Parley.Settings

/-- The host on which the desktop program serves the chat. -/
def desktopAddress : String := "127.0.0.1:9375"

/-- The path under which the chat is served. -/
def chatRoute : String := "/api/chat"

/-- Where the chat server is. -/
structure Endpoint where
  host : String
  /-- Dial over an encrypted connection. -/
  secure : Bool
  /-- Dial the desktop program on this machine, whatever the host says. -/
  desktop : Bool
  path : String
deriving DecidableEq, Repr

/-- Why settings cannot be used. -/
inductive Defect where
  | invalid (reason : String)
  | url (defect : Url.Defect)
deriving DecidableEq, Repr

def Defect.message : Defect → String
  | .invalid reason => "invalid configuration: " ++ reason
  | .url defect => "invalid endpoint URL: " ++ defect.message

namespace Endpoint

/-- The desktop program on this machine. -/
def standard : Endpoint :=
  ⟨desktopAddress, false, false, chatRoute⟩

/-- The scheme that is dialled. The desktop program is reached without encryption. -/
def scheme (endpoint : Endpoint) : Url.Scheme :=
  if endpoint.secure && ! endpoint.desktop then .secure else .plain

def address (endpoint : Endpoint) : String :=
  if endpoint.desktop then desktopAddress else endpoint.host

/-- The URL without credentials. -/
def target (endpoint : Endpoint) : Except Defect Url.Parts :=
  if endpoint.address.isEmpty then .error (.invalid "endpoint host is empty")
  else if endpoint.path.toList.head? ≠ some '/' then
    .error (.invalid ("endpoint path must start with '/': " ++ endpoint.path))
  else
    match Url.read endpoint.scheme
        ('/' :: '/' :: (endpoint.address.toList ++ endpoint.path.toList)) with
    | .ok url => .ok url
    | .error defect => .error (.url defect)

def record : Json.Record Endpoint where
  start := standard
  fields := [
    .of "host" false .text fun host endpoint => { endpoint with host },
    .of "secure" false .bool fun secure endpoint => { endpoint with secure },
    .of "desktop_shell" false .bool fun desktop endpoint => { endpoint with desktop },
    .of "path" false .text fun path endpoint => { endpoint with path }]

def toJson (endpoint : Endpoint) : Json :=
  .object [
    ("host", .string endpoint.host),
    ("secure", .bool endpoint.secure),
    ("desktop_shell", .bool endpoint.desktop),
    ("path", .string endpoint.path)]

end Endpoint

/-- The URL with the token and, unless it is empty, the session at the end of its query. -/
def authorizedUrl (base : Url.Parts) (token : String) (session : Option String) :
    Url.Parts :=
  let url := base.appendPair "token" token
  match session.filter (! ·.isEmpty) with
  | some session => url.appendPair "sessionId" session
  | none => url

end Parley.Settings
