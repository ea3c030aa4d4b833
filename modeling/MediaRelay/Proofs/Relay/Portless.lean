import MediaRelay.Proofs.Relay.Atomicity

/-! # Relays without ports

Without ports for datagrams a relay grants media in frames only. That the ports are missing is
noticed last, when the session has been bound and its medium set up, and the refusal takes nothing
back: a session that asks for datagrams is left as if its request had been granted, and it may go on
to stream (`setUp_without_ports`). Any other set-up request that is refused changes nothing.
-/

namespace MediaRelay

namespace Relay

variable {relay after : Relay} {session : Session} {request : Request} {plan : Handler.SetupPlan}
  {negotiation : Negotiation}

/-- A request for datagrams that nothing stands against but the missing ports. The negotiation is
that of the session once the medium is set up. -/
structure Withholds (relay : Relay) (session : Session) (request : Request)
    (plan : Handler.SetupPlan) (negotiation : Negotiation) : Prop where
  admitted : session.Admits .setup request
  planned : Handler.setupPlan relay request = .ok plan
  free : session.negotiation.mayBind plan.name = true
  fits : Handler.setUp plan (session.negotiation.bind plan.name) = .ok negotiation
  datagrams : plan.transport.isInterleaved = false

theorem grantedTransport_of_portless (portless : relay.ports = none) (transport : Transport) :
    Handler.grantedTransport relay transport =
      if transport.isInterleaved then .ok transport
      else .error (.unsupportedTransport "UDP relay disabled".toList) := by
  unfold Handler.grantedTransport
  rw [portless]

theorem Withholds.dispatch_eq (withheld : relay.Withholds session request plan negotiation)
    (portless : relay.ports = none) :
    relay.dispatch Handlers.standard session request =
      (relay.negotiate session.id fun _ => negotiation,
        .error (.unsupportedTransport "UDP relay disabled".toList)) := by
  have still : (relay.negotiate session.id fun _ => negotiation).ports = none := portless
  have refused := grantedTransport_of_portless still plan.transport
  rw [withheld.datagrams] at refused
  rw [dispatch_of_admits withheld.admitted rfl]
  simp only [Handler.setup, withheld.planned, withheld.free, withheld.fits, refused, Bool.not_true,
    Bool.false_eq_true, ↓reduceIte]

/-- The medium that was asked for stays with the session, which is bound to its channel. -/
theorem Withholds.installs (withheld : relay.Withholds session request plan negotiation) :
    negotiation.channel = some plan.name ∧
      ∃ media, negotiation.media.get? plan.control = some media ∧ media.isInterleaved = false := by
  obtain ⟨media, asked, _, rfl⟩ := setUp_eq_ok_iff.mp withheld.fits
  refine ⟨Negotiation.channel_settle _ _, media, ?_, ?_⟩
  · rw [Negotiation.media_settle, Table.get?_set, if_pos rfl]
  · rw [Media.ofTransport?, if_neg (Bool.eq_false_iff.mp withheld.datagrams)] at asked
    obtain ⟨pair, _, rfl⟩ := Option.map_eq_some_iff.mp asked
    rfl

/-- A set-up request is granted in frames, changes nothing or is withheld from. -/
theorem Outcome.of_portless {result : Except Refusal Reply}
    (outcome : relay.Outcome session request after result) (portless : relay.ports = none)
    (known : request.known? = some .setup)
    (found : relay.session? session.id = some session) (settled : session.negotiation.Settled) :
    (∃ reply transport, result = .ok reply ∧ request.transport = .ok transport ∧
        transport.isInterleaved = true) ∨
      (∃ refusal, result = .error refusal ∧ after = relay) ∨
      ∃ plan negotiation, relay.Withholds session request plan negotiation := by
  have only {method : Method} (admitted : session.Admits method request) : method = .setup :=
    Option.some.inj (admitted.known.symm.trans known)
  cases outcome with
  | refused refusal => exact .inr (.inl ⟨refusal, rfl, rfl⟩)
  | boundOnly admitted planned free misfit =>
      obtain ⟨media, mixed⟩ := mixes_of_setUp_error planned misfit
      have equipped : session.negotiation.media.entries ≠ [] :=
        Negotiation.media_ne_nil_of_mixes mixed
      have fixed := Negotiation.bind_eq_self (settled.bound equipped) free
      exact .inr (.inl ⟨_, rfl, negotiate_eq_self found fixed⟩)
  | @ungranted plan negotiation _ admitted planned free fits withheld =>
      rw [grantedTransport_of_portless portless] at withheld
      cases framed : plan.transport.isInterleaved with
      | true =>
          rw [framed] at withheld
          exact nomatch withheld
      | false => exact .inr (.inr ⟨plan, negotiation, admitted, planned, free, fits, framed⟩)
  | @setUp plan negotiation transport admitted planned _ _ given =>
      rw [grantedTransport_of_portless portless] at given
      cases framed : plan.transport.isInterleaved with
      | true => exact .inl ⟨_, plan.transport, rfl, (setupPlan_ok planned).1, framed⟩
      | false =>
          rw [framed] at given
          exact nomatch given
  | informed admitted query _ _ =>
      obtain rfl := only admitted
      exact nomatch query
  | announced admitted _ _ => exact nomatch only admitted
  | recorded admitted _ _ => exact nomatch only admitted
  | played admitted _ => exact nomatch only admitted
  | paused admitted => exact nomatch only admitted
  | tornDown admitted => exact nomatch only admitted

/-- **A refusal for want of ports comes too late.** Of the set-up requests that a relay without
ports refuses, just those that it would carry out if it had ports change the session: the medium is
set up and the session is bound to the channel. What is granted travels in frames. -/
theorem setUp_without_ports {config : RelayConfig} {events : List Event} {id : SessionId}
    (portless : config.ports = none)
    (found : (reached config events).session? id = some session)
    (known : request.known? = some .setup) :
    (((reached config events).route Handlers.standard session request).2.response.status = .ok →
      ∃ transport, request.transport = .ok transport ∧ transport.isInterleaved = true) ∧
    (((reached config events).route Handlers.standard session request).2.response.status ≠ .ok →
      (∀ plan negotiation,
        ¬ (reached config events).Withholds session request plan negotiation) →
      ((reached config events).route Handlers.standard session request).1 =
        reached config events) ∧
    ∀ plan negotiation, (reached config events).Withholds session request plan negotiation →
      ((reached config events).route Handlers.standard session request).2.response.status =
        .unsupportedTransport ∧
      ((reached config events).route Handlers.standard session request).1 =
        (reached config events).negotiate id (fun _ => negotiation) ∧
      negotiation.channel = some plan.name ∧
      ∃ media, negotiation.media.get? plan.control = some media ∧ media.isInterleaved = false := by
  obtain rfl := identified_reached config events id session found
  have bare := (ports_reached config events).trans portless
  have settled := ((coherent_reached config events).agrees session.id session found).settled
  have ways := (outcome_dispatch (reached config events) session request).of_portless bare known
    found settled
  have withholding {plan : Handler.SetupPlan} {negotiation : Negotiation}
      (withheld : (reached config events).Withholds session request plan negotiation) :
      ((reached config events).route Handlers.standard session request).2.response.status =
        .unsupportedTransport := by
    rw [route_eq, status_numbered, withheld.dispatch_eq bare]
    rfl
  refine ⟨fun success => ?_, fun refused spared => ?_, fun plan negotiation withheld => ?_⟩
  · rcases ways with ⟨_, transport, _, asked, framed⟩ | ⟨refusal, answered, _⟩ |
      ⟨plan, negotiation, withheld⟩
    · exact ⟨transport, asked, framed⟩
    · obtain ⟨reply, granted⟩ := status_route_ok_iff.mp success
      exact nomatch granted.symm.trans answered
    · exact nomatch success.symm.trans (withholding withheld)
  · rcases ways with ⟨reply, _, answered, _⟩ | ⟨_, _, unchanged⟩ | ⟨plan, negotiation, withheld⟩
    · exact (refused (status_route_ok_iff.mpr ⟨reply, answered⟩)).elim
    · rw [route_eq]
      exact unchanged
    · exact (spared plan negotiation withheld).elim
  · refine ⟨withholding withheld, ?_, withheld.installs⟩
    rw [route_eq, withheld.dispatch_eq bare]

end Relay

namespace Sample

/-- The medium in datagrams, to be received. -/
def viewDatagrams : Request :=
  setUp "/cam/t1".toList "RTP/AVP;unicast;client_port=5000-5001".toList

/-- A viewer comes to a channel that has been announced. -/
def watched : List Event :=
  [.opened recorder address, .requested recorder announceOne, .opened viewer distant]

end Sample

namespace Relay

set_option maxRecDepth 100000 in
/-- A viewer that asks for datagrams is refused, but what it asked for has been set up. -/
theorem setUp_without_ports_viewer : ∃ session,
    (reached {} Sample.watched).session? Sample.viewer = some session ∧
      ((reached {} Sample.watched).route Handlers.standard session
        Sample.viewDatagrams).2.response.status = .unsupportedTransport ∧
      ∃ plan negotiation, (reached {} Sample.watched).Withholds session Sample.viewDatagrams plan
        negotiation := by
  have shown : ((reached {} Sample.watched).session? Sample.viewer).map (fun session =>
      (((reached {} Sample.watched).route Handlers.standard session
        Sample.viewDatagrams).2.response.status,
      decide (((reached {} Sample.watched).route Handlers.standard session
        Sample.viewDatagrams).1 = reached {} Sample.watched))) =
        some (.unsupportedTransport, false) := by
    decide +kernel
  obtain ⟨session, found, same⟩ := Option.map_eq_some_iff.mp shown
  obtain ⟨status, changed⟩ := Prod.mk.inj same
  have exact := setUp_without_ports rfl found (by decide +kernel : Sample.viewDatagrams.known? =
    some .setup)
  refine ⟨session, found, status, ?_⟩
  apply Classical.byContradiction
  intro none
  refine of_decide_eq_false changed (exact.2.1 (by rw [status]; decide) ?_)
  intro plan negotiation withheld
  exact none ⟨plan, negotiation, withheld⟩

set_option maxRecDepth 100000 in
/-- The refused viewer is ready, and plays in datagrams that can never be sent. -/
theorem refused_viewer_plays :
    ((reached {} Sample.watched).reply? (.requested Sample.viewer Sample.viewDatagrams)).map
        (fun reply => reply.response.status) = some .unsupportedTransport ∧
    ((reached {} Sample.watched).session? Sample.viewer).map Session.negotiation =
        some .initial ∧
    ((reached {} (Sample.watched ++ [.requested Sample.viewer Sample.viewDatagrams])).session?
        Sample.viewer).map (fun session => (session.negotiation.state,
          session.negotiation.channel, session.negotiation.media.values.map Media.route)) =
        some (.ready, some "cam".toList, [.udp 5000 5001]) ∧
    ((reached {} (Sample.watched ++ [.requested Sample.viewer Sample.viewDatagrams,
        .requested Sample.viewer { Sample.viewDatagrams with
          method := Method.play.token }])).session? Sample.viewer).map (fun session =>
            (session.negotiation.state, session.negotiation.interleaved)) =
        some (.playing, false) := by
  refine ⟨?_, ?_, ?_, ?_⟩ <;> decide +kernel

end Relay

end MediaRelay
