import MediaRelay.Dispatch.Standard

/-!
# Connections

A connection reads requests from its peer and answers them in order. While its session records on
the connection itself, frames between the requests are pushed into the session's channel; frames
at any other time are skipped. `Connection.turn` acts on the next message of the input,
`Connection.advance` on as many as are there.
-/

namespace MediaRelay

structure Connection where
  /-- The id that the connection's session has, or gets with the first request. -/
  id : SessionId
  peer : Address
  /-- Whether the session has been opened. -/
  opened : Bool := false
  /-- What was received and not yet read. -/
  input : Bytes := []
  /-- Whether the peer has ended its sending side. -/
  finished : Bool := false
  deriving DecidableEq, Repr

/-- Why a connection ends. -/
inductive Ending where
  | closedByPeer
  | malformedRequest
  | malformedFrame
  | midMessage
  | timedOut
  | writeFailed
  | tornDown
  | serverStopped
  deriving DecidableEq, Repr

/-- What a connection does about one message. -/
inductive Act where
  /-- A request was carried out or refused. -/
  | answered (request : Request) (reply : Reply)
  /-- A request could not be read. -/
  | rejected (status : Status)
  /-- A frame was pushed into a channel. -/
  | fed (channel : Text) (package : Package)
  /-- A frame was left out. -/
  | skipped (frame : Frame)
  deriving DecidableEq, Repr

/-- What a connection has done, and why it ended if it did. -/
structure Progress where
  relay : Relay
  connection : Connection
  acts : List Act := []
  deliveries : List Delivery := []
  ending : Option Ending := none
  deriving DecidableEq

namespace Connection

/-- A connection on which nothing has happened yet. -/
def new (id : SessionId) (peer : Address) : Connection := { id, peer }

/-- The session of the connection. -/
def session? (connection : Connection) (relay : Relay) : Option Session :=
  if connection.opened then relay.session? connection.id else none

/-- Where the frames of a connection go: its session, while it records on the connection, and the
channel that the session is bound to. -/
def feeding? (connection : Connection) (relay : Relay) : Option (Session × Text × Channel) :=
  ((connection.session? relay).filter fun session =>
    session.negotiation.isRecording && session.negotiation.interleaved).bind fun session =>
      session.negotiation.channel.bind fun name =>
        (relay.registry.get? name).map fun channel => (session, name, channel)

/-- Ends the connection. -/
def endedBy (connection : Connection) (relay : Relay) (ending : Ending) : Progress :=
  ⟨relay, connection, [], [], some ending⟩

/-- What becomes of a connection whose input does not go on as it should: where it only stops, the
connection waits for more, unless there is no more to come. -/
def broken (connection : Connection) (relay : Relay) (error : RelayError) : Option Progress :=
  match error with
  | .truncated => if connection.finished then some (connection.endedBy relay .midMessage) else none
  | _ => some (connection.endedBy relay .malformedFrame)

/-- Sends a message on the connection, if its link takes one. -/
def write (connection : Connection) (relay : Relay) (message : Bytes) : Option Delivery :=
  match connection.session? relay with
  | none => some ⟨connection.id, .written message⟩
  | some session =>
    match session.send message with
    | .ok parcel => some ⟨connection.id, parcel⟩
    | .error _ => none

/-- Answers a request that cannot be read, and ends the connection. -/
def reject (connection : Connection) (relay : Relay) (status : Status) : Progress where
  relay := relay
  connection := connection
  acts := [.rejected status]
  deliveries := (connection.write relay (Response.new status).encode).toList
  ending := some .malformedRequest

/-- Opens the session, if no request has come before. -/
def openedOn (connection : Connection) (relay : Relay) : Relay :=
  if connection.opened then relay else relay.openSession connection.id connection.peer

/-- Why the connection ends after an answer, if it does: the answer could not be sent or is the
last one, or the server has been stopped. -/
def endingAfter (running : Bool) (sent : Option Delivery) (reply : Reply) : Option Ending :=
  if sent.isNone then some .writeFailed
  else if reply.closes then some .tornDown
  else if running then none
  else some .serverStopped

/-- Answers a request. -/
def answer (running : Bool) (connection : Connection) (relay : Relay) (request : Request)
    (rest : Bytes) : Progress :=
  let relay := connection.openedOn relay
  let connection := { connection with opened := true, input := rest }
  match relay.session? connection.id with
  | none => connection.endedBy relay .writeFailed
  | some session =>
    let (relay, reply) := relay.route Handlers.standard session request
    let sent := connection.write relay reply.response.encode
    { relay := relay
      connection := connection
      acts := [.answered request reply]
      deliveries := sent.toList
      ending := endingAfter running sent reply }

/-- Acts on a request. Nothing comes back while the connection waits for the rest of it. -/
def requestTurn (running : Bool) (connection : Connection) (relay : Relay) : Option Progress :=
  match Request.read connection.input with
  | .ok none => if connection.finished then some (connection.endedBy relay .closedByPeer) else none
  | .ok (some (request, rest)) => some (connection.answer running relay request rest)
  | .error (.malformed _) => some (connection.reject relay .badRequest)
  | .error (.unsupportedVersion _) => some (connection.reject relay .versionNotSupported)
  | .error error => connection.broken relay error

/-- Acts on a frame of a recording session, or on the request that stands in its place. -/
def feedTurn (running : Bool) (connection : Connection) (relay : Relay) (session : Session)
    (name : Text) (channel : Channel) : Option Progress :=
  let (package, pool) := relay.packagePool.acquire
  let relay := { relay with packagePool := pool }
  match Frame.read package.buffer.length connection.input with
  | .ok (some (frame, rest)) =>
    let package := { package.fill frame.payload with
      interleaved := true
      channel := frame.channel
      order := session.negotiation.ordinalForChannel frame.channel }
    let (relay, sent) := relay.push channel package
    some ⟨relay, { connection with input := rest }, [.fed name package], sent, none⟩
  | .ok none => connection.requestTurn running (relay.discard package)
  | .error error => connection.broken (relay.discard package) error

/-- Acts on a request, or leaves out a frame that stands in its place. -/
def plainTurn (running : Bool) (connection : Connection) (relay : Relay) : Option Progress :=
  if connection.input.head? = some Frame.marker then
    match Frame.read maxPayload connection.input with
    | .ok (some (frame, rest)) =>
      some ⟨relay, { connection with input := rest }, [.skipped frame], [], none⟩
    | .ok none => connection.requestTurn running relay
    | .error error => connection.broken relay error
  else
    connection.requestTurn running relay

/-- Acts on the next message of the input. Nothing comes back while the connection waits for the
rest of it. -/
def turn (running : Bool) (connection : Connection) (relay : Relay) : Option Progress :=
  match connection.feeding? relay with
  | some (session, name, channel) => connection.feedTurn running relay session name channel
  | none => connection.plainTurn running relay

/-- Acts on at most so many messages. -/
def advanceBy (running : Bool) : (turns : Nat) → Connection → Relay → Progress
  | 0, connection, relay => { relay, connection }
  | turns + 1, connection, relay =>
    match connection.turn running relay with
    | none => { relay, connection }
    | some done =>
      if done.ending.isSome then
        done
      else
        let later := advanceBy running turns done.connection done.relay
        { later with
          acts := done.acts ++ later.acts
          deliveries := done.deliveries ++ later.deliveries }

/-- Acts on the messages of the input, until the connection ends or waits for more. Every message
takes at least one byte, so the number of turns is bounded by the length of the input. -/
def advance (running : Bool) (connection : Connection) (relay : Relay) : Progress :=
  advanceBy running (connection.input.length + 1) connection relay

/-- Lets the connection receive a whole stream and acts on it to its end. -/
def run (connection : Connection) (relay : Relay) (stream : Bytes) : Progress :=
  { connection with input := connection.input ++ stream, finished := true }.advance true relay

/-- Closes the session of a connection that has ended. -/
def cleanUp (connection : Connection) (relay : Relay) : Relay :=
  if connection.opened then relay.closeSession connection.id else relay

/-- Whether media flow in datagrams, so that the connection itself may be silent. -/
def streamsElsewhere (connection : Connection) (relay : Relay) : Bool :=
  match connection.session? relay with
  | none => false
  | some session =>
    session.negotiation.state.isStreaming && !session.negotiation.interleaved

/-- Whether the connection ends when nothing comes for the idle timeout. -/
def mayExpire (connection : Connection) (relay : Relay) : Bool :=
  relay.timeout ≠ 0 && !connection.streamsElsewhere relay

end Connection

end MediaRelay
