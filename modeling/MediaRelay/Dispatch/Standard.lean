import MediaRelay.Dispatch.Basic

/-!
# The standard handlers

What each method does to its session and to the channel it addresses. A handler first checks all
that it can check and then makes its changes; a later failure is answered, too, but what was
changed before it stays.
-/

namespace MediaRelay

namespace Relay

/-- The header value that names a session. -/
def sessionValue (relay : Relay) (session : Session) : Text :=
  session.headerValue relay.timeoutSeconds

/-- A response of success that names the session. -/
def granted (relay : Relay) (session : Session) : Response :=
  (Response.new .ok).add "Session".toList (relay.sessionValue session)

/-- The name of the channel that a target addresses. -/
def channelName (relay : Relay) (uri : Text) : Except Refusal Text :=
  match relay.registry.resolve? (Target.ofUri uri).channel with
  | some name => .ok name
  | none => .error (.notFound uri)

/-- The channel with a name. -/
def existing (relay : Relay) (name : Text) : Except Refusal Channel :=
  match relay.registry.get? name with
  | some channel => .ok channel
  | none => .error (.notFound ("channel ".toList ++ name))

/-- The name of the channel that a session streams with: its own, or the one addressed. -/
def streamName (relay : Relay) (session : Session) (request : Request) : Except Refusal Text :=
  match session.negotiation.channel with
  | some name => .ok name
  | none => relay.channelName request.uri

end Relay

/-- The refusal for a channel without a description. -/
def undescribed (name : Text) : Refusal :=
  .internal ("channel ".toList ++ name ++ " has no description".toList)

/-- The refusal for a channel whose producer is another session. -/
def occupied (name : Text) : Refusal :=
  .internal ("channel ".toList ++ name ++ " has another producer".toList)

/-- The refusal for a session that is bound to another channel. -/
def boundElsewhere (session : Session) : Refusal :=
  .badRequest ("session is bound to channel ".toList ++ session.negotiation.channel.getD [])

/-- The description of a channel. -/
def described (name : Text) (channel : Channel) : Except Refusal Description :=
  match channel.description with
  | some description => .ok description
  | none => .error (undescribed name)

/-- The media type of descriptions. -/
def descriptionType : Text := "application/sdp".toList

namespace Handler

/-- Advertises the methods that are served. -/
def options : Handler := fun methods relay _ _ =>
  (relay, .ok ⟨(Response.new .ok).add "Public".toList (publicValue methods), false⟩)

/-- The description of the addressed channel. -/
def describeReply (relay : Relay) (request : Request) : Except Refusal Reply := do
  let name ← relay.channelName request.uri
  let channel ← relay.existing name
  match channel.raw with
  | none => throw (undescribed name)
  | some raw =>
    let response := (Response.new .ok).add "Content-Type".toList descriptionType
    return ⟨(response.add "Content-Base".toList request.uri).withBody raw, false⟩

/-- Passes on the description of the addressed channel as it was received. -/
def describe : Handler := fun _ relay _ request => (relay, describeReply relay request)

/-- Checks that a body is announced as a description. -/
def checkContentType (request : Request) : Except Refusal Unit :=
  match request.contentType? with
  | some given =>
    if Text.sameFolded given descriptionType then
      .ok ()
    else
      .error (.badRequest ("unsupported content type ".toList ++ given))
  | none => .error (.badRequest "unsupported content type (none)".toList)

/-- The description in the body of a request. -/
def bodyDescription (request : Request) : Except Refusal Description :=
  match Description.parse request.body with
  | .ok description => .ok description
  | .error error => .error (.badRequest error.message)

/-- What an announcement describes, and the name of the channel. -/
def announcement (relay : Relay) (session : Session) (request : Request) :
    Except Refusal (Description × Text) := do
  checkContentType request
  let description ← bodyDescription request
  let name ← relay.channelName request.uri
  if !session.negotiation.mayBind name then
    throw (boundElsewhere session)
  return (description, name)

/-- Takes the producer's place in a channel and describes it. -/
def announce : Handler := fun _ relay session request =>
  match announcement relay session request with
  | .error refusal => (relay, .error refusal)
  | .ok (description, name) =>
    let relay := relay.ensureChannel name
    match (relay.registry.get? name).bind fun channel =>
      channel.describe? session.id description request.body with
    | none => (relay, .error (occupied name))
    | some channel =>
      let relay := relay.modifyChannel name fun _ => channel
      let relay := relay.negotiate session.id fun negotiation => negotiation.bind name
      (relay, .ok ⟨relay.granted session, false⟩)

/-- What a set-up request asks for. -/
structure SetupPlan where
  transport : Transport
  name : Text
  description : Description
  ordinal : Nat
  control : Text

/-- The position of the addressed medium. The only medium of a channel need not be named. -/
def position? (description : Description) (control : Text) : Option Nat :=
  (description.position? control).or
    (if control.isEmpty && description.sections.length = 1 then some 0 else none)

/-- Reads what a set-up request asks for. -/
def setupPlan (relay : Relay) (request : Request) : Except Refusal SetupPlan := do
  let transport ← request.transport
  let control := (Target.ofUri request.uri).control
  let name ← relay.channelName request.uri
  let channel ← relay.existing name
  let description ← described name channel
  match (position? description control).bind fun ordinal =>
    (description.controls[ordinal]?).map fun control => (ordinal, control) with
  | some (ordinal, control) => return ⟨transport, name, description, ordinal, control⟩
  | none =>
    throw (.notFound ("media ".toList ++ control ++ " in channel ".toList ++ name))

/-- The transport as granted: for datagrams, with the ports of the relay. -/
def grantedTransport (relay : Relay) (transport : Transport) : Except Refusal Transport :=
  if transport.isInterleaved then
    .ok transport
  else
    match relay.ports with
    | some ports => .ok { transport with serverPorts := some ports }
    | none => .error (.unsupportedTransport "UDP relay disabled".toList)

/-- What a session has negotiated once it is bound to the channel and the medium is set up. -/
def setUp (plan : SetupPlan) (negotiation : Negotiation) : Except Refusal Negotiation :=
  match Media.ofTransport? (.ofNat plan.ordinal) plan.transport with
  | none => .error (.unsupportedTransport "no channel or port pair".toList)
  | some media =>
    (negotiation.addMedia plan.control media plan.description).map Prod.fst

/-- Sets up a medium of a channel. The session is bound to the channel first. -/
def setup : Handler := fun _ relay session request =>
  match setupPlan relay request with
  | .error refusal => (relay, .error refusal)
  | .ok plan =>
    if !session.negotiation.mayBind plan.name then
      (relay, .error (boundElsewhere session))
    else
      let bound := session.negotiation.bind plan.name
      match setUp plan bound with
      | .error refusal => (relay.negotiate session.id fun _ => bound, .error refusal)
      | .ok negotiation =>
        let relay := relay.negotiate session.id fun _ => negotiation
        match grantedTransport relay plan.transport with
        | .error refusal => (relay, .error refusal)
        | .ok transport =>
          let response := (Response.new .ok).add "Transport".toList transport.render
          (relay, .ok ⟨response.add "Session".toList (relay.sessionValue session), false⟩)

/-- What a session needs to know to stream. -/
structure StreamPlan where
  name : Text
  channel : Channel
  interleaved : Bool

/-- Checks that a session can stream in a direction. -/
def streamPlan (direction : Direction) (relay : Relay) (session : Session) (request : Request) :
    Except Refusal StreamPlan := do
  let name ← relay.streamName session request
  let channel ← relay.existing name
  let description ← described name channel
  let interleaved ← session.negotiation.checkMedia description direction
  return ⟨name, channel, interleaved⟩

/-- Takes the producer's place and starts to take in media. -/
def record : Handler := fun _ relay session request =>
  match streamPlan .record relay session request with
  | .error refusal => (relay, .error refusal)
  | .ok plan =>
    match plan.channel.claim? session.id with
    | none => (relay, .error (occupied plan.name))
    | some channel =>
      let relay := relay.modifyChannel plan.name fun _ => channel
      let relay := relay.negotiate session.id fun negotiation =>
        negotiation.start .record plan.interleaved
      (relay, .ok ⟨relay.granted session, false⟩)

/-- Subscribes to the channel and starts to send media. -/
def play : Handler := fun _ relay session request =>
  match streamPlan .play relay session request with
  | .error refusal => (relay, .error refusal)
  | .ok plan =>
    let relay := relay.negotiate session.id fun negotiation =>
      negotiation.start .play plan.interleaved
    let relay := relay.modifyChannel plan.name fun channel => channel.subscribe session.id
    (relay, .ok ⟨(relay.granted session).add "Range".toList "npt=0.000-".toList, false⟩)

/-- Stops streaming; the media stay set up. -/
def pause : Handler := fun _ relay session _ =>
  let relay := relay.negotiate session.id Negotiation.pause
  (relay, .ok ⟨relay.granted session, false⟩)

/-- Leaves every channel, forgets what was negotiated and ends the connection. -/
def teardown : Handler := fun _ relay session _ =>
  let relay := (relay.teardown session.id).negotiate session.id Negotiation.clear
  (relay, .ok ⟨relay.granted session, true⟩)

/-- Answers a sign of life. -/
def getParameter : Handler := fun _ relay session request =>
  let response :=
    if request.sessionId?.isSome then relay.granted session else Response.new .ok
  (relay, .ok ⟨response, false⟩)

end Handler

namespace Handlers

/-- The handlers of a relay: every method is served. -/
def standard : Handlers
  | .options => some Handler.options
  | .describe => some Handler.describe
  | .announce => some Handler.announce
  | .setup => some Handler.setup
  | .play => some Handler.play
  | .pause => some Handler.pause
  | .record => some Handler.record
  | .teardown => some Handler.teardown
  | .getParameter => some Handler.getParameter

end Handlers

end MediaRelay
