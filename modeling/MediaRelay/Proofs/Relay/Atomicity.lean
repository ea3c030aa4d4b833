import MediaRelay.Proofs.Relay.Coherence

/-! # Refused requests

A relay with ports for datagrams carries out a request wholly or not at all: what is answered with
another status than success leaves the relay as it was (`refused_leaves_relay`). A set-up request
may fail after the session has been bound, but then the session has media and was bound before.
-/

namespace MediaRelay

namespace Transport

variable {transport : Transport}

/-- A specification that can be served names the pair that its medium travels on. -/
theorem exists_media_of_validate (valid : transport.validate = .ok ()) (ordinal : Ordinal) :
    ∃ media, Media.ofTransport? ordinal transport = some media := by
  unfold validate at valid
  by_cases multicast : transport.multicast = true
  · simp [multicast] at valid
  · cases carried : transport.carrier with
    | tcp =>
        cases pair : transport.interleaved with
        | none => simp [multicast, carried, pair] at valid
        | some channels => simp [Media.ofTransport?, isInterleaved, carried, pair]
    | udp =>
        cases pair : transport.clientPorts with
        | none => simp [multicast, carried, pair] at valid
        | some ports => simp [Media.ofTransport?, isInterleaved, carried, pair]

end Transport

theorem Request.validate_of_transport {request : Request} {transport : Transport}
    (asked : request.transport = .ok transport) : transport.validate = .ok () := by
  unfold Request.transport at asked
  split at asked
  · exact nomatch asked
  · split at asked
    · exact nomatch asked
    · rename_i found _
      cases valid : found.validate with
      | error error =>
          rw [valid] at asked
          exact nomatch asked
      | ok _ =>
          rw [valid] at asked
          rw [← Except.ok.inj asked, valid]

namespace Negotiation

variable {negotiation : Negotiation} {name control : Text} {media : Media}

theorem media_ne_nil_of_mixes (mixed : negotiation.mixes control media = true) :
    negotiation.media.entries ≠ [] := by
  intro empty
  simp [mixes, empty] at mixed

theorem bind_eq_self (bound : negotiation.channel.isSome = true)
    (free : negotiation.mayBind name = true) : negotiation.bind name = negotiation := by
  obtain ⟨current, named⟩ := Option.isSome_iff_exists.mp bound
  obtain rfl := mayBind_iff.mp free current named
  rw [bind, ← named]

end Negotiation

namespace Relay

variable {relay after : Relay} {session : Session} {request : Request}

/-- A medium that does not fit differs from one that has been set up before. -/
theorem mixes_of_setUp_error {plan : Handler.SetupPlan} {negotiation : Negotiation}
    {refusal : Refusal} (planned : Handler.setupPlan relay request = .ok plan)
    (misfit : Handler.setUp plan negotiation = .error refusal) :
    ∃ media, negotiation.mixes plan.control media = true := by
  have valid := Request.validate_of_transport (setupPlan_ok planned).1
  obtain ⟨media, asked⟩ := Transport.exists_media_of_validate valid (.ofNat plan.ordinal)
  refine ⟨media, ?_⟩
  by_contra goes
  have fits := setUp_eq_ok_iff.mpr ⟨media, asked, Bool.eq_false_iff.mpr goes, rfl⟩
  cases misfit.symm.trans fits

theorem negotiate_eq_self (found : relay.session? session.id = some session)
    {change : Negotiation → Negotiation}
    (fixed : change session.negotiation = session.negotiation) :
    relay.negotiate session.id change = relay := by
  have same : relay.sessions.modify session.id (fun session => session.negotiate change) =
      relay.sessions := by
    refine Table.modify_eq_self fun present held => ?_
    obtain rfl := Option.some.inj (found.symm.trans held)
    rw [Session.negotiate, fixed]
  rw [negotiate, same]

/-- A refused request changes nothing, as far as media come with a channel and there are ports for
datagrams. -/
theorem Outcome.eq_of_refused {refusal : Refusal}
    (outcome : relay.Outcome session request after (.error refusal))
    (found : relay.session? session.id = some session) (settled : session.negotiation.Settled)
    (ports : relay.ports.isSome = true) : after = relay := by
  cases outcome with
  | refused _ => rfl
  | @boundOnly plan _ _ planned free misfit =>
      obtain ⟨media, mixed⟩ := mixes_of_setUp_error planned misfit
      -- Binding keeps the media, so the session had them, and a channel with them, before.
      have equipped : session.negotiation.media.entries ≠ [] :=
        Negotiation.media_ne_nil_of_mixes mixed
      have fixed := Negotiation.bind_eq_self (settled.bound equipped) free
      exact negotiate_eq_self found fixed
  | @ungranted plan _ _ _ _ _ _ withheld =>
      obtain ⟨pair, present⟩ := Option.isSome_iff_exists.mp ports
      unfold Handler.grantedTransport at withheld
      split at withheld <;> simp [present] at withheld

theorem Change.ports {event : Event} (change : relay.Change event after) :
    after.ports = relay.ports := by
  cases change with
  | idle same => exact same.ports
  | ensured same => exact same.ports
  | opened _ => rfl
  | @requested _ session request _ =>
      rw [route_eq]
      exact (outcome_dispatch relay session request).fixed.1
  | @closed id session found => simp only [closeSession, found, teardown]
  | linkFailed => rfl

theorem ports_reached (config : RelayConfig) (events : List Event) :
    (reached config events).ports = config.ports :=
  @reached_induction (fun relay => relay.ports = config.ports) config rfl
    (fun _ event same => (change_after _ event).ports.trans same) events

/-- **A refused request changes nothing.** Sessions, channels and all the rest of a relay with ports
for datagrams are as they were. -/
theorem refused_leaves_relay {config : RelayConfig} {events : List Event} {id : SessionId}
    (ports : config.ports.isSome = true)
    (found : (reached config events).session? id = some session)
    (refused : ((reached config events).route Handlers.standard session request).2.response.status ≠
      .ok) :
    ((reached config events).route Handlers.standard session request).1 = reached config events := by
  obtain rfl := identified_reached config events id session found
  have outcome := outcome_dispatch (reached config events) session request
  rw [route_eq]
  cases answered : ((reached config events).dispatch Handlers.standard session request).2 with
  | ok reply => exact (refused (status_route_ok_iff.mpr ⟨reply, answered⟩)).elim
  | error refusal =>
      rw [answered] at outcome
      exact outcome.eq_of_refused found
        ((coherent_reached config events).agrees session.id session found).settled
        ((ports_reached config events).symm ▸ ports)

set_option maxRecDepth 100000 in
/-- A session that has set up a medium in frames cannot set up another in datagrams. -/
theorem refused_leaves_relay_mixing : ∃ session,
    (reached Sample.config Sample.halfSetUp).session? Sample.recorder = some session ∧
      ((reached Sample.config Sample.halfSetUp).route Handlers.standard session
        Sample.datagrams).2.response.status = .unsupportedTransport ∧
      ((reached Sample.config Sample.halfSetUp).route Handlers.standard session
        Sample.datagrams).1 = reached Sample.config Sample.halfSetUp := by
  have statuses : ((reached Sample.config Sample.halfSetUp).session? Sample.recorder).map
      (fun session => ((reached Sample.config Sample.halfSetUp).route Handlers.standard session
        Sample.datagrams).2.response.status) = some .unsupportedTransport := by
    decide +kernel
  obtain ⟨session, found, mixing⟩ := Option.map_eq_some_iff.mp statuses
  exact ⟨session, found, mixing, refused_leaves_relay rfl found (by rw [mixing]; decide)⟩

end Relay

end MediaRelay
