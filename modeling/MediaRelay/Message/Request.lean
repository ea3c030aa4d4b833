import MediaRelay.Message.Headers
import MediaRelay.Message.Method
import MediaRelay.Text.Blank
import MediaRelay.Text.Decimal
import MediaRelay.Text.Utf8

/-!
# Requests

A request is a method, the target it addresses, header fields and a body. `Request.encode` is its
form on the wire; `MediaRelay.Message.RequestReader` reads that form back.
-/

namespace MediaRelay

/-- The protocol version that the relay speaks. -/
def protocolVersion : Text := "RTSP/1.0".toList

structure Request where
  /-- The method word as received, known or not. -/
  method : Text
  uri : Text
  version : Text := protocolVersion
  headers : Headers := []
  body : Bytes := []
  deriving DecidableEq, Repr

namespace Request

/-- The first line, terminator included. -/
def requestLine (request : Request) : Text :=
  request.method ++ ' ' :: request.uri ++ ' ' :: request.version ++ "\r\n".toList

/-- The field that announces a body; an empty body is not announced. -/
def lengthField (body : Bytes) : Headers :=
  if body.isEmpty then [] else [(Headers.contentLength, Decimal.digits body.length)]

/-- The fields as written: the length of the body is stated last, from the body itself. -/
def writtenHeaders (request : Request) : Headers :=
  request.headers.without Headers.contentLength ++ lengthField request.body

/-- The request as it is sent. -/
def encode (request : Request) : Bytes :=
  Utf8.encode (request.requestLine ++ request.writtenHeaders.lines ++ "\r\n".toList) ++
    request.body

/-- The method, if it is one that the relay knows. -/
def known? (request : Request) : Option Method := Method.ofToken? request.method

/-- The value of the first header field with a name. -/
def header? (request : Request) (name : Text) : Option Text := request.headers.get? name

/-- The number that pairs a request with its response. -/
def cseq? (request : Request) : Option Text := request.header? "CSeq".toList

/-- A field's value without the parameters that follow a semicolon. -/
def mainValue (value : Text) : Text := Text.trimmed (Text.upTo ';' value)

/-- The session that the request names. -/
def sessionId? (request : Request) : Option Text :=
  ((request.header? "Session".toList).map mainValue).filter fun id => !id.isEmpty

/-- The media type of the body. -/
def contentType? (request : Request) : Option Text :=
  (request.header? "Content-Type".toList).map mainValue

end Request

end MediaRelay
