import MediaRelay.Proofs.Dispatch.Precedence
import MediaRelay.Proofs.Message.Specification
import MediaRelay.Proofs.Relay.Lookups
import MediaRelay.Proofs.Relay.Portless
import MediaRelay.Proofs.Relay.SetUps

/-! # What a granted set-up is told

The reply to a set-up states a specification of its own. It is the one that was asked for, with the
ports of the relay in place of any that the peer named for it if the medium travels in datagrams
(`Handler.grantedTransport_eq_ok_iff`), and asks for the same medium. So whoever reads the reply
learns exactly what the session has set up (`Relay.confirmed_reached`).
-/

namespace MediaRelay

namespace Transport

/-- What the relay grants of a specification: frames as they were asked for, and datagrams to and
from its own ports. -/
def Granted (ports : Option (UInt16 × UInt16)) (asked told : Transport) : Prop :=
  match asked.carrier with
  | .tcp => told = asked
  | .udp => ∃ own, ports = some own ∧ told = { asked with serverPorts := some own }

variable {ports : Option (UInt16 × UInt16)} {asked told : Transport}

/-- The ports of the relay are no part of what a specification asks for. -/
theorem Granted.eq_withServerPorts (granted : Granted ports asked told) :
    ∃ own, told = { asked with serverPorts := own } := by
  unfold Granted at granted
  split at granted
  · exact ⟨asked.serverPorts, granted⟩
  · obtain ⟨own, _, same⟩ := granted
    exact ⟨some own, same⟩

theorem Granted.validate_eq (granted : Granted ports asked told) :
    told.validate = asked.validate := by
  obtain ⟨own, rfl⟩ := granted.eq_withServerPorts
  rfl

theorem Granted.ofTransport?_eq (granted : Granted ports asked told) (ordinal : Ordinal) :
    Media.ofTransport? ordinal told = Media.ofTransport? ordinal asked := by
  obtain ⟨own, rfl⟩ := granted.eq_withServerPorts
  rfl

end Transport

theorem Handler.grantedTransport_eq_ok_iff {relay : Relay} {asked told : Transport} :
    grantedTransport relay asked = .ok told ↔ Transport.Granted relay.ports asked told := by
  unfold grantedTransport Transport.Granted Transport.isInterleaved
  cases asked.carrier with
  | tcp => simp [eq_comm]
  | udp => cases relay.ports <;> simp [eq_comm]

namespace Relay

variable {relay : Relay} {session : Session} {request : Request} {reply : Reply}

/-- A target addresses the medium at a position of a channel's description, under a control. -/
def Addresses (relay : Relay) (uri control : Text) (position : Nat) : Prop :=
  ∃ name channel description, relay.channelName uri = .ok name ∧
    relay.registry.get? name = some channel ∧ channel.description = some description ∧
    Handler.position? description (Target.ofUri uri).control = some position ∧
    description.controls[position]? = some control

/-- A set-up request and the reply to it agree with what becomes of the session: `asked` is what the
request says, `told` what the reply says and `media` what is set up. -/
structure Confirmed (relay : Relay) (session later : Session) (request : Request) (reply : Reply)
    (asked told : Transport) (control : Text) (media : Media) : Prop where
  requested : ∃ value, request.headers.First "Transport".toList value ∧
    Transport.parse value = .ok asked
  /-- The reply has one field of the name. -/
  answered : ∃ value,
    reply.response.headers.called "Transport".toList = [("Transport".toList, value)] ∧
      Transport.parse value = .ok told
  valid : told.validate = .ok ()
  addressed : ∃ position, relay.Addresses request.uri control position ∧
    media.ordinal = .ofNat position
  held : later.negotiation.media.get? control = some media
  others : ∀ other ≠ control,
    later.negotiation.media.get? other = session.negotiation.media.get? other
  same : Media.ofTransport? media.ordinal told = some media

/-- The reply to a set-up has one specification, whatever number is repeated in it. -/
theorem called_numbered_setUp (request : Request) (specified identity : Text) :
    (numbered request ⟨((Response.new .ok).add "Transport".toList specified).add
      "Session".toList identity, false⟩).response.headers.called "Transport".toList =
        [("Transport".toList, specified)] := by
  unfold numbered
  cases request.cseq? <;> rfl

/-- A set-up request that is answered with success has been carried out. -/
theorem confirmed_route (found : relay.session? session.id = some session)
    (known : request.known? = some .setup)
    (success : (relay.route Handlers.standard session request).2.response.status = .ok) :
    ∃ later asked told control media,
      (relay.route Handlers.standard session request).1.session? session.id = some later ∧
      relay.Confirmed session later request (relay.route Handlers.standard session request).2
        asked told control media ∧ Transport.Granted relay.ports asked told := by
  have only {method : Method} (admitted : session.Admits method request) : method = .setup :=
    Option.some.inj (admitted.known.symm.trans known)
  obtain ⟨given, answered⟩ := status_route_ok_iff.mp success
  have outcome := outcome_dispatch relay session request
  rw [route_eq, answered]
  rw [answered] at outcome
  generalize (relay.dispatch Handlers.standard session request).1 = after at outcome
  cases outcome with
  | @setUp plan negotiation told admitted planned free fits given =>
      obtain ⟨asking, named, ⟨channel, registered, described⟩, placed, listed⟩ :=
        setupPlan_ok planned
      obtain ⟨value, stated, parsed, valid⟩ := Request.transport_eq_ok_iff.mp asking
      obtain ⟨media, asks, goes, rfl⟩ := setUp_eq_ok_iff.mp fits
      have granted := Handler.grantedTransport_eq_ok_iff.mp given
      refine ⟨_, plan.transport, told, plan.control, media, session?_negotiate_self found _, ?_,
        granted⟩
      exact {
        requested := ⟨value, stated, parsed⟩
        answered := ⟨told.render, called_numbered_setUp request _ _, Transport.parse_render told⟩
        valid := granted.validate_eq.trans valid
        addressed := ⟨plan.ordinal,
          ⟨plan.name, channel, plan.description, named, registered, described, placed, listed⟩,
          Media.ordinal_of_ofTransport? asks⟩
        held := by
          change (Negotiation.settle _ plan.description).media.get? plan.control = some media
          rw [Negotiation.media_settle, Table.get?_set, if_pos rfl]
        others := by
          intro other different
          change (Negotiation.settle _ plan.description).media.get? other = _
          rw [Negotiation.media_settle, Table.get?_set, if_neg different]
          rfl
        same := by
          rw [Media.ordinal_of_ofTransport? asks, granted.ofTransport?_eq]
          exact asks }
  | informed admitted query _ _ =>
      obtain rfl := only admitted
      exact absurd query (by decide)
  | announced admitted _ _ => exact absurd (only admitted) (by decide)
  | recorded admitted _ _ => exact absurd (only admitted) (by decide)
  | played admitted _ => exact absurd (only admitted) (by decide)
  | paused admitted => exact absurd (only admitted) (by decide)
  | tornDown admitted => exact absurd (only admitted) (by decide)

/-- **The reply to a set-up states what was set up.** The reply has one specification, which is read
without fault, can be served and asks for just the medium that the session now has under the
addressed control. It is the specification of the request, but for the ports of the relay, which it
states if the medium travels in datagrams, whatever the request said of them. -/
theorem confirmed_reached {config : RelayConfig} {events : List Event} {id : SessionId}
    (found : (reached config events).session? id = some session)
    (known : request.known? = some .setup)
    (answered : (reached config events).reply? (.requested id request) = some reply)
    (success : reply.response.status = .ok) :
    ∃ later asked told control media,
      (reached config (events ++ [.requested id request])).session? id = some later ∧
      (reached config events).Confirmed session later request reply asked told control media ∧
      Transport.Granted config.ports asked told := by
  obtain rfl := identified_reached config events id session found
  rw [reply?_requested found, Option.some.injEq] at answered
  subst answered
  obtain ⟨later, asked, told, control, media, left, confirmed, granted⟩ :=
    confirmed_route found known success
  rw [reached_concat, after_requested found]
  rw [ports_reached] at granted
  exact ⟨later, asked, told, control, media, left, confirmed, granted⟩

end Relay

namespace Sample

/-- The only medium in datagrams, asked for with ports of the relay, in a first specification that
names the ports of the viewer twice and says something unknown. -/
def viewRoundabout : Request :=
  setUp "/cam".toList ("RTP/AVP/UDP; unicast;x=1;client_port=9;server_port=1-2;".toList ++
    "client_port= 7000;mode=\"PLAY\", RTP/AVP/TCP;unicast".toList)

end Sample

namespace Relay

set_option maxRecDepth 100000 in
/-- The viewer is told the ports of the relay, and the ports that it named last. -/
theorem confirmed_reached_roundabout : ∃ session reply later control media,
    (reached Sample.config Sample.watched).session? Sample.viewer = some session ∧
    (reached Sample.config Sample.watched).reply? (.requested Sample.viewer Sample.viewRoundabout) =
      some reply ∧ reply.response.status = .ok ∧
    (reached Sample.config (Sample.watched ++
      [.requested Sample.viewer Sample.viewRoundabout])).session? Sample.viewer = some later ∧
    (reached Sample.config Sample.watched).Confirmed session later Sample.viewRoundabout reply
      ⟨.udp, false, false, none, some (7000, 7001), some (1, 2)⟩
      ⟨.udp, false, false, none, some (7000, 7001), some (6000, 6001)⟩ control media := by
  have opened : ((reached Sample.config Sample.watched).session? Sample.viewer).isSome = true := by
    decide +kernel
  have granted : ((reached Sample.config Sample.watched).reply?
      (.requested Sample.viewer Sample.viewRoundabout)).map (fun reply => reply.response.status) =
        some .ok := by
    decide +kernel
  obtain ⟨session, found⟩ := Option.isSome_iff_exists.mp opened
  obtain ⟨reply, answered, success⟩ := Option.map_eq_some_iff.mp granted
  obtain ⟨later, asked, told, control, media, left, confirmed, given⟩ :=
    confirmed_reached found (by decide +kernel : Sample.viewRoundabout.known? = some .setup)
      answered success
  obtain ⟨value, stated, parsed⟩ := confirmed.requested
  have named := Headers.get?_eq_some_iff.mpr stated
  obtain rfl := Option.some.inj (named.symm.trans rfl)
  have read : Transport.parse ("RTP/AVP/UDP; unicast;x=1;client_port=9;server_port=1-2;".toList ++
      "client_port= 7000;mode=\"PLAY\", RTP/AVP/TCP;unicast".toList) =
        .ok ⟨.udp, false, false, none, some (7000, 7001), some (1, 2)⟩ := by
    decide +kernel
  obtain rfl := Except.ok.inj (parsed.symm.trans read)
  obtain ⟨own, ported, rfl⟩ := given
  obtain rfl := Option.some.inj ported
  exact ⟨session, reply, later, control, media, found, answered, success, left, confirmed⟩

end Relay

end MediaRelay
