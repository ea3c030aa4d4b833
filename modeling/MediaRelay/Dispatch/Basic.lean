import MediaRelay.Message.RequestReader
import MediaRelay.Message.Response
import MediaRelay.Relay.Basic

/-!
# Dispatching requests

A request passes four checks before a handler sees it: its method is served, it names no other
session, the session's state allows the method, and a set-up request says how its medium travels.
`Relay.route` turns every outcome into a reply and repeats the request's number in it.
-/

namespace MediaRelay

/-- The answer to a request. -/
structure Reply where
  response : Response
  /-- Whether the connection ends after the response. -/
  closes : Bool := false
  deriving DecidableEq, Repr

/-- What carries out the requests of a method. It is told which methods are served. -/
abbrev Handler :=
  List Method → Relay → Session → Request → Relay × Except Refusal Reply

/-- The handlers of the methods that are served. -/
abbrev Handlers := Method → Option Handler

namespace Handlers

/-- The methods that are served, in advertised order. -/
def methods (handlers : Handlers) : List Method :=
  Method.all.filter fun method => (handlers method).isSome

end Handlers

/-- The header value that advertises methods. -/
def publicValue (methods : List Method) : Text :=
  ", ".toList.intercalate (methods.map Method.token)

namespace Method

/-- The states in which a method is allowed; every state if there is no such list. -/
def legalStates : Method → Option (List SessionState)
  | announce => some [.init, .ready]
  | record => some [.ready, .recording]
  | play => some [.ready, .playing]
  | pause => some [.ready, .playing, .recording]
  | options | describe | setup | teardown | getParameter => none

/-- Whether a state allows a method. -/
def allowedIn (method : Method) (state : SessionState) : Bool :=
  match method.legalStates with
  | none => true
  | some states => state ∈ states

end Method

namespace Request

/-- The transport that a request asks for, if the relay can serve it. -/
def transport (request : Request) : Except Refusal Transport :=
  match request.header? "Transport".toList with
  | none => .error (.unsupportedTransport "missing Transport header".toList)
  | some value =>
    match Transport.parse value with
    | .error error => .error (.unsupportedTransport error.message)
    | .ok transport =>
      match transport.validate with
      | .error error => .error (.unsupportedTransport error.message)
      | .ok () => .ok transport

end Request

namespace Session

/-- Whether a request names another session. -/
def disowns? (session : Session) (request : Request) : Option Refusal :=
  match request.sessionId? with
  | none => none
  | some id => if id = session.id then none else some (.sessionNotFound id)

/-- Why a session does not let a request of a method through to its handler. -/
def objection? (session : Session) (method : Method) (request : Request) : Option Refusal :=
  match session.disowns? request with
  | some refusal => some refusal
  | none =>
    if !method.allowedIn session.negotiation.state then
      some (.invalidState method.token session.negotiation.state)
    else if method = .setup then
      match request.transport with
      | .error refusal => some refusal
      | .ok _ => none
    else
      none

end Session

/-- The reply to a request that is refused. Where the method is at fault it says which are not. -/
def Refusal.reply (refusal : Refusal) (methods : List Method) : Reply :=
  let response := Response.new refusal.status
  match refusal with
  | .methodNotAllowed _ => ⟨response.add "Public".toList (publicValue methods), false⟩
  | _ => ⟨response, false⟩

namespace Relay

/-- Lets the handler of a request carry it out, unless something is against it. -/
def dispatch (handlers : Handlers) (relay : Relay) (session : Session) (request : Request) :
    Relay × Except Refusal Reply :=
  match request.known? with
  | none => (relay, .error (.methodNotAllowed request.method))
  | some method =>
    match handlers method with
    | none => (relay, .error (.methodNotAllowed method.token))
    | some handler =>
      match session.objection? method request with
      | some refusal => (relay, .error refusal)
      | none => handler handlers.methods relay session request

/-- Repeats the number of a request in its reply. -/
def numbered (request : Request) (reply : Reply) : Reply :=
  match request.cseq? with
  | none => reply
  | some number => { reply with response := reply.response.set "CSeq".toList number }

/-- Answers a request of a session. -/
def route (handlers : Handlers) (relay : Relay) (session : Session) (request : Request) :
    Relay × Reply :=
  match relay.dispatch handlers session request with
  | (relay, .ok reply) => (relay, numbered request reply)
  | (relay, .error refusal) => (relay, numbered request (refusal.reply handlers.methods))

end Relay

end MediaRelay
