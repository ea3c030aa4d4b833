import MediaRelay.Proofs.Relay.Atomicity
import MediaRelay.Proofs.Relay.Streaming

/-! # The state machine of sessions

A request moves at most the session that sends it, and only if it is carried out.
`Relay.Transition` lists by methods what carrying out a request makes of the state of its session,
with what holds of the media then. There are no other moves, and only a teardown ends the connection
(`Relay.transitions_reached`).
-/

namespace MediaRelay

namespace Channel

@[simp] theorem description_subscribe (channel : Channel) (id : SessionId) :
    (channel.subscribe id).description = channel.description := by
  unfold subscribe
  split <;> rfl

end Channel

namespace Direction

/-- Streaming in a direction is asked for by a session that is ready or streams that way already. -/
theorem allowedIn_method_iff (direction : Direction) {state : SessionState} :
    direction.method.allowedIn state = true ↔ state = .ready ∨ state = direction.state := by
  cases direction <;> cases state <;> decide

end Direction

namespace Negotiation

/-- A description has media, all of them are set up to go one way, and they travel as the session
streams. -/
def FitFor (negotiation : Negotiation) (description : Description) (direction : Direction) : Prop :=
  description.controls ≠ [] ∧
    ∀ control ∈ description.controls, ∃ media, negotiation.media.get? control = some media ∧
      (media.record = true ↔ direction = .record) ∧ media.isInterleaved = negotiation.interleaved

variable {negotiation : Negotiation} {description : Description} {direction : Direction}
  {interleaved : Bool}

theorem covers_iff : negotiation.covers description = true ↔
    ∀ control ∈ description.controls, (negotiation.media.get? control).isSome = true := by
  rw [covers, List.all_eq_true]
  rfl

/-- The media that were checked are fit once streaming has started. -/
theorem fitFor_start (travels : negotiation.framing? description direction = some interleaved) :
    (negotiation.start direction interleaved).FitFor description direction := by
  obtain ⟨filled, checked⟩ := exists_of_framing? travels
  refine ⟨filled, fun control described => ?_⟩
  obtain ⟨media, held, framing, way⟩ := checked control described
  exact ⟨media, held, way, framing⟩

theorem state_pause (begun : negotiation.state ≠ .init) : negotiation.pause.state = .ready := by
  unfold pause
  cases state : negotiation.state with
  | init => exact (begun state).elim
  | ready => exact state
  | playing => rfl
  | recording => rfl

end Negotiation

namespace Relay

/-- The channel that a session is bound to has a description. -/
def Describes (relay : Relay) (negotiation : Negotiation) (description : Description) : Prop :=
  ∃ name, negotiation.channel = some name ∧
    (relay.channelAt name).description = some description

/-- The cases of what carrying out a request of a method makes of a session. The relay is the one
that is left behind. -/
inductive Transition (after : Relay) (before later : Negotiation) : Method → Prop where
  | stays {method : Method} (silent : method.isQuery = true ∨ method = .announce)
      (state : later.state = before.state) : Transition after before later method
  /-- A session stays in its first state as long as a medium is missing. -/
  | setUp {description : Description} (described : after.Describes later description)
      (state : later.state = before.state)
      (missing : before.state = .init →
        ∃ control ∈ description.controls, later.media.get? control = none) :
      Transition after before later .setup
  | readied {description : Description} (described : after.Describes later description)
      (fresh : before.state = .init) (state : later.state = .ready)
      (covered : ∀ control ∈ description.controls, (later.media.get? control).isSome = true) :
      Transition after before later .setup
  | started (direction : Direction) {description : Description}
      (described : after.Describes later description)
      (begun : before.state = .ready ∨ before.state = direction.state)
      (state : later.state = direction.state) (fit : later.FitFor description direction) :
      Transition after before later direction.method
  | paused (begun : before.state ≠ .init) (state : later.state = .ready) :
      Transition after before later .pause
  | tornDown (state : later.state = .init) : Transition after before later .teardown

variable {relay after : Relay} {session : Session} {request : Request} {reply : Reply}

/-! ## One request -/

/-- A set-up makes a session ready exactly if it completes the media of the channel. -/
theorem transition_settle {negotiation bare : Negotiation} {description : Description}
    (described : after.Describes bare description) (state : bare.state = negotiation.state) :
    after.Transition negotiation (bare.settle description) .setup := by
  have told : after.Describes (bare.settle description) description := by
    obtain ⟨name, bound, held⟩ := described
    exact ⟨name, (Negotiation.channel_settle bare description).trans bound, held⟩
  by_cases completed : bare.completes description = true
  · obtain ⟨covered, fresh⟩ := Negotiation.completes_iff.mp completed
    refine .readied told (state.symm.trans fresh) ?_ fun control listed => ?_
    · rw [Negotiation.settle, if_pos completed]
    · rw [Negotiation.media_settle]
      exact Negotiation.covers_iff.mp covered control listed
  · have unsettled : bare.settle description = bare := if_neg completed
    refine .setUp told (by rw [unsettled, state]) fun fresh => ?_
    have uncovered : ¬ bare.covers description = true := fun covered =>
      completed (Negotiation.completes_iff.mpr ⟨covered, state.trans fresh⟩)
    rw [Negotiation.covers_iff] at uncovered
    push Not at uncovered
    obtain ⟨control, listed, absent⟩ := uncovered
    refine ⟨control, listed, ?_⟩
    rw [unsettled]
    exact Option.not_isSome_iff_eq_none.mp absent

/-- A session that may stream starts with the media that were checked. -/
theorem transition_start {direction : Direction} {plan : Handler.StreamPlan}
    (planned : Handler.streamPlan direction relay session request = .ok plan)
    (settled : session.negotiation.Settled)
    (allowed : direction.method.allowedIn session.negotiation.state = true)
    (told : (after.channelAt plan.name).description = plan.channel.description) :
    after.Transition session.negotiation
      (session.negotiation.start direction plan.interleaved) direction.method := by
  obtain ⟨named, _, description, described, travels⟩ := streamPlan_ok planned
  have past : session.negotiation.state ≠ .init := ne_init_of_allowed allowed (by
    cases direction <;> rfl)
  have bound := streamName_eq_ok settled past named
  exact .started direction ⟨plan.name, bound, told.trans described⟩
    ((Direction.allowedIn_method_iff direction).mp allowed) rfl (Negotiation.fitFor_start travels)

/-- The case of a request that is carried out. -/
theorem Outcome.transition (outcome : relay.Outcome session request after (.ok reply))
    (found : relay.session? session.id = some session) (settled : session.negotiation.Settled) :
    ∃ method later, request.known? = some method ∧ after.session? session.id = some later ∧
      after.Transition session.negotiation later.negotiation method ∧
      (reply.closes = true ↔ method = .teardown) := by
  cases outcome with
  | @informed method _ admitted query _ open_ =>
      refine ⟨method, session, admitted.known, found, .stays (.inl query) rfl, ?_⟩
      rw [open_]
      refine iff_of_false Bool.false_ne_true ?_
      rintro rfl
      exact nomatch query
  | announced admitted _ _ =>
      exact ⟨.announce, _, admitted.known, session?_negotiate_self found _,
        .stays (.inr rfl) rfl, by simp⟩
  | @setUp plan _ _ admitted planned _ fits _ =>
      obtain ⟨media, _, _, rfl⟩ := setUp_eq_ok_iff.mp fits
      obtain ⟨_, _, ⟨channel, registered, told⟩, _⟩ := setupPlan_ok planned
      rw [← channelAt_of_found registered] at told
      exact ⟨.setup, _, admitted.known, session?_negotiate_self found _,
        transition_settle ⟨plan.name, rfl, told⟩ rfl, by simp⟩
  | @recorded plan admitted planned _ =>
      have registered := (streamPlan_ok planned).2.1
      have changed := channelAt_modifyChannel registered
        (fun _ => { plan.channel with producer := some session.id }) plan.name
      rw [if_pos rfl] at changed
      have told := congrArg Channel.description changed
      exact ⟨.record, _, admitted.known, session?_negotiate_self found _,
        transition_start planned settled admitted.allowed told, by simp⟩
  | @played plan admitted planned =>
      have registered := (streamPlan_ok planned).2.1
      have changed : ((relay.negotiate session.id fun negotiation =>
          negotiation.start .play plan.interleaved).modifyChannel plan.name
            fun channel => channel.subscribe session.id).channelAt plan.name =
          plan.channel.subscribe session.id :=
        (channelAt_modifyChannel registered _ plan.name).trans (if_pos rfl)
      have told := (congrArg Channel.description changed).trans
        (Channel.description_subscribe plan.channel session.id)
      exact ⟨.play, _, admitted.known, session?_negotiate_self found _,
        transition_start planned settled admitted.allowed told, by simp⟩
  | paused admitted =>
      have begun := ne_init_of_allowed admitted.allowed rfl
      exact ⟨.pause, _, admitted.known, session?_negotiate_self found _,
        .paused begun (Negotiation.state_pause begun), by simp⟩
  | tornDown admitted =>
      have stays : (relay.teardown session.id).session? session.id = some session := found
      exact ⟨.teardown, _, admitted.known, session?_negotiate_self stays _, .tornDown rfl, by simp⟩

/-- Only streaming is started by the method of a direction. -/
theorem Transition.fitFor {before later : Negotiation} {method : Method} {direction : Direction}
    (step : after.Transition before later method) (same : method = direction.method) :
    ∃ description, after.Describes later description ∧ later.FitFor description direction := by
  cases step with
  | started way described _ _ fit =>
      have way_eq : way = direction := by
        cases way <;> cases direction <;> first | rfl | exact nomatch same
      exact ⟨_, described, way_eq ▸ fit⟩
  | stays silent _ =>
      subst same
      cases direction <;> simp [Direction.method, Method.isQuery] at silent
  | setUp _ _ _ => cases direction <;> exact nomatch same
  | readied _ _ _ _ => cases direction <;> exact nomatch same
  | paused _ _ => cases direction <;> exact nomatch same
  | tornDown _ => cases direction <;> exact nomatch same

/-! ## All that is reached -/

/-- **Sessions move along the transitions and in no other way.** A request leaves all other sessions
as they are. If it is refused, it leaves its own session as it is, too; if it is carried out, the
session takes the transition of the request's method. Only a teardown that is carried out ends the
connection. -/
theorem transitions_reached {config : RelayConfig} {events : List Event} {id : SessionId}
    (ports : config.ports.isSome = true)
    (found : (reached config events).session? id = some session) (request : Request) :
    ∃ after reply later,
      (reached config events).route Handlers.standard session request = (after, reply) ∧
      after.session? id = some later ∧
      (∀ other, other ≠ id → after.session? other = (reached config events).session? other) ∧
      (reply.response.status ≠ .ok → later = session) ∧
      (reply.response.status = .ok → ∃ method, request.known? = some method ∧
        after.Transition session.negotiation later.negotiation method) ∧
      (reply.closes = true ↔
        reply.response.status = .ok ∧ request.known? = some .teardown) := by
  obtain rfl := identified_reached config events id session found
  have settled := ((coherent_reached config events).agrees session.id session found).settled
  have ported : (reached config events).ports.isSome = true := by rwa [ports_reached]
  have outcome := outcome_dispatch (reached config events) session request
  have others (other : SessionId) (different : other ≠ session.id) := (outcome.keeps different).session
  rw [route_eq]
  generalize ((reached config events).dispatch Handlers.standard session request).1 = after
    at outcome others
  generalize ((reached config events).dispatch Handlers.standard session request).2 = result
    at outcome
  refine ⟨after, numbered request (unnumbered result), ?_⟩
  rw [status_numbered, closes_numbered]
  cases result with
  | error refusal =>
      obtain rfl := outcome.eq_of_refused found settled ported
      have refused : (unnumbered (.error refusal)).response.status ≠ .ok := by
        rw [unnumbered, status_reply]
        exact refusal.status_ne_ok
      refine ⟨session, rfl, found, others, fun _ => rfl, fun granted => (refused granted).elim, ?_⟩
      rw [unnumbered, closes_reply]
      exact iff_of_false Bool.false_ne_true fun torn => refused torn.1
  | ok reply =>
      obtain ⟨method, later, known, left, step, closing⟩ := outcome.transition found settled
      have granted : (unnumbered (.ok reply)).response.status = .ok := outcome.status_ok
      refine ⟨later, rfl, left, others, fun refused => (refused granted).elim,
        fun _ => ⟨method, known, step⟩, closing.trans ?_⟩
      rw [known, Option.some.injEq, and_iff_right granted]

end Relay

namespace Sample

/-- A viewer has set up both media of a channel. -/
def attending : List Event :=
  [.opened recorder address, .requested recorder announce, .opened viewer distant,
    .requested viewer viewSecond, .requested viewer viewFrames]

end Sample

namespace Relay

set_option maxRecDepth 100000 in
/-- The viewer was ready, and plays. -/
theorem transitions_reached_viewer : ∃ session after reply later,
    (reached Sample.config Sample.attending).session? Sample.viewer = some session ∧
      session.negotiation.state = .ready ∧
      (reached Sample.config Sample.attending).route Handlers.standard session
        (Sample.plain .play) = (after, reply) ∧
      reply.response.status = .ok ∧ reply.closes = false ∧
      after.session? Sample.viewer = some later ∧
      after.Transition session.negotiation later.negotiation .play := by
  have shown : ((reached Sample.config Sample.attending).session? Sample.viewer).map
      (fun session => (session.negotiation.state, ((reached Sample.config Sample.attending).route
        Handlers.standard session (Sample.plain .play)).2.response.status)) =
          some (.ready, .ok) := by decide +kernel
  obtain ⟨session, found, same⟩ := Option.map_eq_some_iff.mp shown
  obtain ⟨state, status⟩ := Prod.mk.inj same
  have known : (Sample.plain .play).known? = some .play := by decide +kernel
  obtain ⟨after, reply, later, routed, left, _, _, granted, closing⟩ :=
    transitions_reached rfl found (Sample.plain .play)
  rw [routed] at status
  obtain ⟨method, asked, step⟩ := granted status
  obtain rfl := Option.some.inj (asked.symm.trans known)
  refine ⟨session, after, reply, later, found, state, routed, status, ?_, left, step⟩
  rw [← Bool.not_eq_true, closing, known]
  exact fun torn => nomatch torn.2

end Relay

end MediaRelay
