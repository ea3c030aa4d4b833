import MediaRelay.Text.Blank
import MediaRelay.Text.Decimal

/-!
# Transport specifications

The `Transport` header of a set-up request says how a medium is to travel: in frames on the
connection itself or in datagrams between pairs of ports. `Transport.parse` reads a specification,
`Transport.render` writes it.
-/

namespace MediaRelay

/-- What carries the packets of a medium. -/
inductive Carrier where
  | udp
  | tcp
  deriving DecidableEq, Repr

structure Transport where
  carrier : Carrier
  multicast : Bool
  /-- Whether the peer is going to send the medium rather than to receive it. -/
  record : Bool
  interleaved : Option (UInt8 × UInt8)
  clientPorts : Option (UInt16 × UInt16)
  serverPorts : Option (UInt16 × UInt16)
  deriving DecidableEq, Repr

/-- Why a specification cannot be used. -/
inductive TransportError where
  | missingProfile
  | missingDelivery
  | invalidParameter (parameter : Text)
  | multicast
  | missingInterleaved
  | missingClientPort
  deriving DecidableEq, Repr

namespace TransportError

def message : TransportError → Text
  | missingProfile => "no RTP/AVP profile".toList
  | missingDelivery => "neither unicast nor multicast".toList
  | invalidParameter parameter => "invalid parameter: ".toList ++ parameter
  | multicast => "multicast is not supported".toList
  | missingInterleaved => "TCP transport without interleaved channels".toList
  | missingClientPort => "UDP transport without client ports".toList

end TransportError

namespace Transport

/-- Two numbers up to a limit, joined by a dash. A single number stands for itself and the next. -/
def readPair? (limit : Nat) (value : Text) : Option (Nat × Nat) :=
  match Text.cut? '-' value with
  | some (first, second) =>
    (Decimal.read? limit (Text.trimmed first)).bind fun first =>
      (Decimal.read? limit (Text.trimmed second)).map fun second => (first, second)
  | none =>
    (Decimal.read? limit (Text.trimmed value)).bind fun number =>
      if number < limit then some (number, number + 1) else none

/-- Two channel numbers. -/
def readChannels? (value : Text) : Option (UInt8 × UInt8) :=
  (readPair? 0xFF value).map fun pair => (.ofNat pair.1, .ofNat pair.2)

/-- Two ports. -/
def readPorts? (value : Text) : Option (UInt16 × UInt16) :=
  (readPair? 0xFFFF value).map fun pair => (.ofNat pair.1, .ofNat pair.2)

/-- What the parameters read so far say. -/
structure Draft where
  carrier : Option Carrier := none
  unicast : Bool := false
  multicast : Bool := false
  record : Bool := false
  interleaved : Option (UInt8 × UInt8) := none
  clientPorts : Option (UInt16 × UInt16) := none
  serverPorts : Option (UInt16 × UInt16) := none
  deriving DecidableEq, Repr

namespace Draft

/-- Takes in a parameter of the form `name=value`; of a repeated one the last counts, and unknown
ones are left out. -/
def takeValue (draft : Draft) (parameter : Text) : Except TransportError Draft :=
  if let some mode := Text.after? "mode=".toList parameter then
    .ok { draft with
      record := Text.sameFolded (Text.trimmedOf (fun c => c = '"') mode) "record".toList }
  else if let some value := Text.after? "interleaved=".toList parameter then
    match readChannels? value with
    | some pair => .ok { draft with interleaved := some pair }
    | none => .error (.invalidParameter parameter)
  else if let some value := Text.after? "client_port=".toList parameter then
    match readPorts? value with
    | some pair => .ok { draft with clientPorts := some pair }
    | none => .error (.invalidParameter parameter)
  else if let some value := Text.after? "server_port=".toList parameter then
    match readPorts? value with
    | some pair => .ok { draft with serverPorts := some pair }
    | none => .error (.invalidParameter parameter)
  else
    .ok draft

/-- Takes in a parameter. -/
def take (draft : Draft) (parameter : Text) : Except TransportError Draft :=
  if parameter = "RTP/AVP".toList ∨ parameter = "RTP/AVP/UDP".toList then
    .ok { draft with carrier := some .udp }
  else if parameter = "RTP/AVP/TCP".toList then
    .ok { draft with carrier := some .tcp }
  else if parameter = "unicast".toList then
    .ok { draft with unicast := true }
  else if parameter = "multicast".toList then
    .ok { draft with multicast := true }
  else
    draft.takeValue parameter

/-- Takes in the parameters in order. -/
def takeAll (draft : Draft) : List Text → Except TransportError Draft
  | [] => .ok draft
  | parameter :: rest =>
    match draft.take parameter with
    | .error error => .error error
    | .ok draft => draft.takeAll rest

/-- The specification, once the profile and the delivery are known. -/
def finish (draft : Draft) : Except TransportError Transport :=
  match draft.carrier with
  | none => .error .missingProfile
  | some carrier =>
    if !draft.unicast && !draft.multicast then
      .error .missingDelivery
    else
      .ok ⟨carrier, draft.multicast, draft.record, draft.interleaved, draft.clientPorts,
        draft.serverPorts⟩

end Draft

/-- The parameters of the first specification in a header value. -/
def parameters (value : Text) : List Text :=
  (Text.pieces ';' (Text.upTo ',' value)).map Text.trimmed

/-- Reads the first of the specifications in a header value. -/
def parse (value : Text) : Except TransportError Transport :=
  match Draft.takeAll {} (parameters value) with
  | .error error => .error error
  | .ok draft => draft.finish

/-- Whether the medium travels in frames on the connection. -/
def isInterleaved (transport : Transport) : Bool := transport.carrier = .tcp

/-- Checks that the relay can serve the specification. -/
def validate (transport : Transport) : Except TransportError Unit :=
  if transport.multicast then
    .error .multicast
  else
    match transport.carrier with
    | .tcp => if transport.interleaved.isNone then .error .missingInterleaved else .ok ()
    | .udp => if transport.clientPorts.isNone then .error .missingClientPort else .ok ()

/-- A parameter that holds a pair; nothing if there is no pair. -/
def renderPair (name : Text) : Option (Nat × Nat) → Text
  | none => []
  | some (first, second) =>
    ';' :: name ++ '=' :: Decimal.digits first ++ '-' :: Decimal.digits second

/-- Writes the specification. -/
def render (transport : Transport) : Text :=
  (match transport.carrier with
    | .tcp => "RTP/AVP/TCP".toList
    | .udp => "RTP/AVP".toList) ++
  (if transport.multicast then ";multicast".toList else ";unicast".toList) ++
  renderPair "interleaved".toList (transport.interleaved.map fun p => (p.1.toNat, p.2.toNat)) ++
  renderPair "client_port".toList (transport.clientPorts.map fun p => (p.1.toNat, p.2.toNat)) ++
  renderPair "server_port".toList (transport.serverPorts.map fun p => (p.1.toNat, p.2.toNat)) ++
  (if transport.record then ";mode=record".toList else [])

end Transport

end MediaRelay
