import MediaRelay.Text.Decimal

/-!
# Response statuses

The status codes that the relay answers with, and the reason phrase of each.
-/

namespace MediaRelay

inductive Status where
  | ok
  | badRequest
  | notFound
  | methodNotAllowed
  | sessionNotFound
  | methodNotValidInThisState
  | unsupportedTransport
  | internalServerError
  | versionNotSupported
  deriving DecidableEq, Repr

namespace Status

def code : Status → Nat
  | ok => 200
  | badRequest => 400
  | notFound => 404
  | methodNotAllowed => 405
  | sessionNotFound => 454
  | methodNotValidInThisState => 455
  | unsupportedTransport => 461
  | internalServerError => 500
  | versionNotSupported => 505

def reason : Status → Text
  | ok => "OK".toList
  | badRequest => "Bad Request".toList
  | notFound => "Not Found".toList
  | methodNotAllowed => "Method Not Allowed".toList
  | sessionNotFound => "Session Not Found".toList
  | methodNotValidInThisState => "Method Not Valid in This State".toList
  | unsupportedTransport => "Unsupported Transport".toList
  | internalServerError => "Internal Server Error".toList
  | versionNotSupported => "RTSP Version Not Supported".toList

/-- The code and the reason, as in a status line. -/
def line (status : Status) : Text := Decimal.digits status.code ++ ' ' :: status.reason

end Status

end MediaRelay
