import MediaRelay.Text.Decimal

/-!
# Errors

What can go wrong when a message or a frame is read, and when a server is started, with the text
of each.
-/

namespace MediaRelay

/-- The rule of the message format that a request breaks. -/
inductive Malformed where
  | requestLine
  | header
  | contentLength
  | lineTooLong
  | tooManyHeaders
  | bodyTooLarge
  | notUtf8
  deriving DecidableEq, Repr

namespace Malformed

def message : Malformed → Text
  | requestLine => "invalid request line".toList
  | header => "invalid header".toList
  | contentLength => "invalid content length".toList
  | lineTooLong => "line too long".toList
  | tooManyHeaders => "too many headers".toList
  | bodyTooLarge => "body too large".toList
  | notUtf8 => "invalid utf-8".toList

end Malformed

/-- Why reading from a connection or running a server failed. -/
inductive RelayError where
  /-- A request breaks a rule of the message format. -/
  | malformed (rule : Malformed)
  /-- A request names another protocol version. -/
  | unsupportedVersion (version : Text)
  /-- The input ends inside a message or a frame. -/
  | truncated
  /-- A frame begins with another byte than the frame marker. -/
  | badMarker (found : UInt8)
  /-- A frame declares or carries more payload than fits. -/
  | frameTooLarge (length : Nat)
  /-- A channel no longer takes packages. -/
  | channelClosed (name : Text)
  /-- The server has never been started. -/
  | notStarted
  /-- The server is running already. -/
  | alreadyRunning
  /-- A port that the server is to use for datagrams is held by another socket. -/
  | addressInUse
  deriving DecidableEq, Repr

namespace RelayError

/-- The two lowercase hexadecimal digits of a byte. -/
def hexByte (b : UInt8) : Text := [Nat.digitChar (b.toNat / 16), Nat.digitChar (b.toNat % 16)]

def message : RelayError → Text
  | malformed rule => "RTSP parse error: ".toList ++ rule.message
  | unsupportedVersion version => "unsupported RTSP version: ".toList ++ version
  | truncated => "truncated message".toList
  | badMarker found => "bad interleaved magic byte: 0x".toList ++ hexByte found
  | frameTooLarge length =>
    "interleaved frame too large: ".toList ++ Decimal.digits length ++ " bytes".toList
  | channelClosed name => "channel closed: ".toList ++ name
  | notStarted => "server not started".toList
  | alreadyRunning => "server already running".toList
  | addressInUse => "I/O error: Address already in use (os error 98)".toList

end RelayError

/-- Two steps in a row succeed if the first does and then the second. -/
theorem bind_eq_ok_iff {ε α β : Type} {first : Except ε α} {next : α → Except ε β} {result : β} :
    (first >>= next) = .ok result ↔ ∃ value, first = .ok value ∧ next value = .ok result := by
  cases first with
  | error error => simp [bind, Except.bind]
  | ok value => simp [bind, Except.bind]

theorem map_eq_ok_iff {ε α β : Type} {first : Except ε α} {change : α → β} {result : β} :
    first.map change = .ok result ↔ ∃ value, first = .ok value ∧ change value = result := by
  cases first with
  | error error => simp [Except.map]
  | ok value => simp [Except.map]

end MediaRelay
