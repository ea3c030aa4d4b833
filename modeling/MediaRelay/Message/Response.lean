import MediaRelay.Message.Request
import MediaRelay.Message.Status

/-!
# Responses

A response is a status, header fields and a body. Its fields are written in the order of their
names, and the length of the body is stated from the body itself.
-/

namespace MediaRelay

structure Response where
  status : Status
  headers : Headers
  body : Bytes := []
  deriving DecidableEq, Repr

namespace Response

/-- What the relay calls itself in every response. -/
def serverAgent : Text := "rtsp-relay/0.1".toList

/-- A response that carries nothing but the name of the server. -/
def new (status : Status) : Response := ⟨status, [("Server".toList, serverAgent)], []⟩

/-- Adds a header field at the end. -/
def add (response : Response) (name value : Text) : Response :=
  { response with headers := response.headers.add name value }

/-- Replaces all header fields with a name by one at the end. -/
def set (response : Response) (name value : Text) : Response :=
  { response with headers := response.headers.set name value }

/-- Replaces the body. -/
def withBody (response : Response) (body : Bytes) : Response := { response with body := body }

/-- The value of the first header field with a name. -/
def header? (response : Response) (name : Text) : Option Text := response.headers.get? name

/-- The fields as written. -/
def writtenHeaders (response : Response) : Headers :=
  (response.headers.without Headers.contentLength ++
    Request.lengthField response.body).sortedByName

/-- The first line, terminator included. -/
def statusLine (response : Response) : Text :=
  protocolVersion ++ ' ' :: response.status.line ++ "\r\n".toList

/-- The response as it is sent. -/
def encode (response : Response) : Bytes :=
  Utf8.encode (response.statusLine ++ response.writtenHeaders.lines ++ "\r\n".toList) ++
    response.body

end Response

end MediaRelay
