import MediaRelay.Session.Negotiation

/-!
# Sessions

A session is what the relay knows about one peer: its address, whether its link still takes
messages, and what it has negotiated. `Session.forward` sends it a package.
-/

namespace MediaRelay

abbrev SessionId := Text

/-- Where a peer sends from. Hosts are told apart by number. -/
structure Address where
  host : Nat
  port : UInt16
  deriving DecidableEq, Repr

/-- What leaves the relay for a peer. -/
inductive Parcel where
  /-- A whole message on the peer's connection. -/
  | written (message : Bytes)
  /-- A datagram from the socket of a half. -/
  | datagram (half : Half) (destination : Address) (payload : Bytes)
  deriving DecidableEq, Repr

/-- Why a peer could not be sent something. -/
inductive SendError where
  | noRelay
  | linkClosed
  | oversized (length : Nat)
  deriving DecidableEq, Repr

namespace SendError

def message : SendError → Text
  | noRelay => "no UDP relay".toList
  | linkClosed => "link closed".toList
  | oversized length => (RelayError.frameTooLarge length).message

end SendError

structure Session where
  id : SessionId
  peer : Address
  /-- The ports of the sockets that carry its datagrams, if there are any. -/
  relayPorts : Option (UInt16 × UInt16)
  linkOpen : Bool := true
  negotiation : Negotiation := .initial
  deriving DecidableEq

namespace Session

/-- Sends a whole message on the peer's connection. -/
def send (session : Session) (message : Bytes) : Except SendError Parcel :=
  if session.linkOpen then .ok (.written message) else .error .linkClosed

/-- Sends a package, if it belongs to a medium of the session. -/
def forward (session : Session) (package : Package) : Except SendError (Option Parcel) :=
  match session.negotiation.outlet? package with
  | none => .ok none
  | some (.frame channel) =>
    match Frame.encode ⟨channel, package.payload⟩ with
    | .error _ => .error (.oversized package.payload.length)
    | .ok message =>
      match session.send message with
      | .error error => .error error
      | .ok parcel => .ok (some parcel)
  | some (.datagram half port) =>
    match session.relayPorts with
    | none => .error .noRelay
    | some _ => .ok (some (.datagram half ⟨session.peer.host, port⟩ package.payload))

/-- The value of the header field that names the session and its idle timeout in seconds. -/
def headerValue (session : Session) (timeout : Nat) : Text :=
  session.id ++ ";timeout=".toList ++ Decimal.digits timeout

/-- Changes what the session has negotiated. -/
def negotiate (session : Session) (change : Negotiation → Negotiation) : Session :=
  { session with negotiation := change session.negotiation }

end Session

end MediaRelay
