import Parley.Json.Decoder
import Parley.Json.Printer

/-!
# Requests

What the client sends: chat requests with their images, and the answer to a heartbeat. An optional
member that is absent is left out of the text.
-/

namespace Parley.Wire

/-- A picture that goes with a request. -/
structure Image where
  data : String
  mediaType : Option String
deriving DecidableEq, Repr

/-- Something said to the assistant. -/
structure Request where
  message : String
  session : Option String
  backend : Option String
  images : Option (List Image)
deriving DecidableEq, Repr

/-- The answer to a heartbeat. -/
structure Pong where
  kind : String
deriving DecidableEq, Repr

/-- A member whose value is present, or none. -/
def optionalMember {α : Type} (key : String) (encode : α → Json) (value : Option α) :
    List (String × Json) :=
  (value.map fun value => (key, encode value)).toList

namespace Image

def members (image : Image) : List (String × Json) :=
  ("data", .string image.data) :: optionalMember "mimeType" Json.string image.mediaType

def toJson (image : Image) : Json :=
  .object image.members

def record : Json.Record Image where
  start := ⟨"", none⟩
  fields := [
    .of "data" true .text fun data image => { image with data },
    .of "mimeType" false (.optional .text) fun mediaType image => { image with mediaType }]

end Image

namespace Request

def ofMessage (message : String) : Request :=
  ⟨message, none, none, none⟩

def forSession (request : Request) (session : Option String) : Request :=
  { request with session }

def usingBackend (request : Request) (backend : Option String) : Request :=
  { request with backend }

/-- The request with a further image behind those it has. -/
def addImage (request : Request) (image : Image) : Request :=
  { request with images := some (request.images.getD [] ++ [image]) }

/-- The members that the request gives, in the order in which they are written. -/
def members (request : Request) : List (String × Json) :=
  ("message", .string request.message) ::
    (optionalMember "sessionId" Json.string request.session ++
      optionalMember "backendId" Json.string request.backend ++
      optionalMember "images" (fun images => .array (images.map Image.toJson)) request.images)

def toJson (request : Request) : Json :=
  .object request.members

def record : Json.Record Request where
  start := ofMessage ""
  fields := [
    .of "message" true .text fun text request => { request with message := text },
    .of "sessionId" false (.optional .text) fun session request => { request with session },
    .of "backendId" false (.optional .text) fun backend request => { request with backend },
    .of "images" false (.optional (.list Image.record.decoder)) fun images request =>
      { request with images }]

def render (request : Request) : String :=
  request.toJson.render

def parse (text : String) : Except Json.Fault Request :=
  record.decoder.parse text

end Request

namespace Pong

/-- The pong that answers every heartbeat. -/
def answer : Pong :=
  ⟨"pong"⟩

def toJson (pong : Pong) : Json :=
  .object [("type", .string pong.kind)]

def record : Json.Record Pong where
  start := ⟨""⟩
  fields := [.of "type" true .text fun kind pong => { pong with kind }]

def render (pong : Pong) : String :=
  pong.toJson.render

def parse (text : String) : Except Json.Fault Pong :=
  record.decoder.parse text

end Pong

end Parley.Wire
