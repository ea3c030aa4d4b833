import MediaRelay.Connection
import MediaRelay.Relay.Snapshot
import MediaRelay.Relay.Source

/-!
# The server

A server starts and stops. Each start sets up a relay anew; connections stay with the relay that
was there when they were accepted. Stopping ends a connection after the request it waits for,
provided that the server has not been started again by then. It does not give back the ports of
the sockets for datagrams, so a server with fixed ports starts only once.
-/

namespace MediaRelay

/-- A connection with the relay that it was accepted by, counted from the first start. -/
structure Client where
  generation : Nat
  connection : Connection
  deriving DecidableEq, Repr

structure Server where
  config : RelayConfig
  running : Bool := false
  /-- One relay for each start, the first one first. -/
  relays : List Relay := []
  /-- The connections that have not ended, by the ids of their sessions. -/
  clients : Table SessionId Client := {}
  deriving DecidableEq

/-- What came of an event on a server: what was done, what left it and which connection ended. -/
structure ServerStep where
  server : Server
  acts : List Act := []
  deliveries : List Delivery := []
  ended : Option (SessionId × Ending) := none
  deriving DecidableEq

namespace Server

/-- The relay of the latest start. -/
def relay? (server : Server) : Option Relay := server.relays.getLast?

/-- The ports that the sockets of earlier starts hold. -/
def heldPorts (server : Server) : List UInt16 :=
  server.relays.flatMap fun relay =>
    match relay.ports with
    | some (rtp, rtcp) => [rtp, rtcp]
    | none => []

/-- Whether a socket can be bound to a port while others are held. Port zero means any free one. -/
def isFree (held : List UInt16) (port : UInt16) : Bool := port = 0 || port ∉ held

/-- Whether the sockets for datagrams can be bound, the one for streams first. -/
def canBind (server : Server) : Bool :=
  match server.config.ports with
  | some (rtp, rtcp) => isFree server.heldPorts rtp && isFree (rtp :: server.heldPorts) rtcp
  | none => true

/-- Starts the server with a new relay. A server that cannot start stays as it was. -/
def start (server : Server) : Except RelayError Server :=
  if server.running then
    .error .alreadyRunning
  else if !server.canBind then
    .error .addressInUse
  else
    .ok { server with running := true, relays := server.relays ++ [.new server.config] }

/-- Replaces the relay of a start. -/
def withRelay (server : Server) (generation : Nat) (relay : Relay) : Server :=
  { server with relays := server.relays.set generation relay }

/-- Changes the relay of the latest start. -/
def changeLatest (server : Server) (change : Relay → Relay) : Server :=
  { server with relays := server.relays.modify (server.relays.length - 1) change }

/-- Stops the server. Connections are not closed. -/
def stop (server : Server) : Server :=
  { server.changeLatest Relay.forgetSources with running := false }

/-- The registry of the latest start. -/
def registry (server : Server) : Except RelayError Registry :=
  match server.relay? with
  | some relay => .ok relay.registry
  | none => .error .notStarted

/-- The ports of the sockets for datagrams. -/
def relayPorts? (server : Server) : Option (UInt16 × UInt16) := server.relay?.bind Relay.ports

/-- What is shown of the channels; nothing before the first start. -/
def channels (server : Server) : List ChannelInfo :=
  match server.relay? with
  | some relay => relay.snapshot
  | none => []

/-- Accepts a connection. -/
def accept (server : Server) (id : SessionId) (peer : Address) : Server :=
  if server.running then
    let client : Client := ⟨server.relays.length - 1, .new id peer⟩
    { server with clients := server.clients.set id client }
  else
    server

/-- Takes in what a connection has done: one that has ended is cleaned up. -/
def settle (server : Server) (generation : Nat) (done : Progress) : ServerStep :=
  let id := done.connection.id
  match done.ending with
  | none =>
    { server := { server.withRelay generation done.relay with
        clients := server.clients.set id ⟨generation, done.connection⟩ }
      acts := done.acts
      deliveries := done.deliveries }
  | some ending =>
    { server := { server.withRelay generation (done.connection.cleanUp done.relay) with
        clients := server.clients.erase id }
      acts := done.acts
      deliveries := done.deliveries
      ended := some (id, ending) }

/-- Changes a connection and lets it act. -/
def advance (server : Server) (id : SessionId) (change : Connection → Connection) : ServerStep :=
  match server.clients.get? id with
  | none => { server }
  | some client =>
    match server.relays[client.generation]? with
    | none => { server }
    | some relay =>
      server.settle client.generation ((change client.connection).advance server.running relay)

/-- A connection receives bytes. -/
def receive (server : Server) (id : SessionId) (bytes : Bytes) : ServerStep :=
  server.advance id fun connection => { connection with input := connection.input ++ bytes }

/-- The peer of a connection ends its sending side. -/
def finish (server : Server) (id : SessionId) : ServerStep :=
  server.advance id fun connection => { connection with finished := true }

/-- Nothing comes on a connection for the idle timeout. -/
def expire (server : Server) (id : SessionId) : ServerStep :=
  match server.clients.get? id with
  | none => { server }
  | some client =>
    match server.relays[client.generation]? with
    | none => { server }
    | some relay =>
      if client.connection.mayExpire relay then
        server.settle client.generation (client.connection.endedBy relay .timedOut)
      else
        { server }

/-- A datagram comes on the socket of a half. -/
def takeDatagram (server : Server) (source : Address) (half : Half) (payload : Bytes) :
    ServerStep :=
  match server.relay? with
  | some relay =>
    if server.running && relay.ports.isSome then
      let (relay, _, sent) := relay.takeDatagram source half payload
      { server := server.withRelay (server.relays.length - 1) relay, deliveries := sent }
    else
      { server }
  | none => { server }

end Server

end MediaRelay
