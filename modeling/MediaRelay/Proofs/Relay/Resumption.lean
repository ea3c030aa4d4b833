import MediaRelay.Proofs.Relay.Alike
import MediaRelay.Proofs.Relay.SetUps

/-! # Recorders that pause

A session that records holds all that it needs to record: it is bound to the channel that it
produces, and the media which that channel describes are set up to be sent (`Relay.Supplies`). A
pause leaves all of this, what others do does not touch it (`Supplies.kept`), and only a set-up of
its own spoils it. So a recorder that has paused can go on as it was, however long it waits
(`Relay.resumes_reached`).
-/

namespace MediaRelay

namespace Negotiation

@[simp] theorem interleaved_pause (negotiation : Negotiation) :
    negotiation.pause.interleaved = negotiation.interleaved := by
  unfold Negotiation.pause
  split <;> rfl

/-- What can travel does not depend on more than the media. -/
theorem framing?_congr {negotiation changed : Negotiation}
    (media : changed.media = negotiation.media) (description : Description)
    (direction : Direction) :
    changed.framing? description direction = negotiation.framing? description direction := by
  unfold framing?
  rw [media]

end Negotiation

namespace Channel

variable {id : SessionId} {before middle after : Channel}

theorem SameFeed.trans (first : before.SameFeed middle) (second : middle.SameFeed after) :
    before.SameFeed after where
  producer := second.producer.trans first.producer
  described := fun occupied => by
    have left := first.described occupied
    have right := second.described (by rwa [first.producer])
    exact ⟨right.1.trans left.1, right.2.trans left.2⟩

theorem Keeps.sameFeed (kept : Keeps id before after) (held : before.producer = some id) :
    before.SameFeed after where
  producer := (kept.produces.mpr held).trans held.symm
  described := fun _ => kept.described held

/-- What a producer sees of a feed that stays the same. -/
theorem SameFeed.held (same : before.SameFeed after) (held : before.producer = some id) :
    after.producer = some id ∧ after.description = before.description ∧ after.raw = before.raw :=
  ⟨same.producer.trans held, same.described (by rw [held]; rfl)⟩

end Channel

namespace Relay

/-- What a session has negotiated lets it record as it travels now, in the channel of a name that
it produces and that has a description. -/
structure Supplies (relay : Relay) (id : SessionId) (negotiation : Negotiation) (name : Text)
    (description : Description) : Prop where
  bound : negotiation.channel = some name
  produces : (relay.channelAt name).producer = some id
  described : (relay.channelAt name).description = some description
  travels : negotiation.framing? description .record = some negotiation.interleaved

variable {relay after : Relay} {id : SessionId} {session later : Session} {request : Request}
  {event : Event} {events : List Event} {negotiation changed : Negotiation} {name : Text}
  {description : Description}

/-- A session goes on to supply a channel as long as its media and the producer's place stay. -/
theorem Supplies.kept (supplies : relay.Supplies id negotiation name description)
    (same : (relay.channelAt name).SameFeed (after.channelAt name))
    (bound : changed.channel = some name) (media : changed.media = negotiation.media)
    (interleaved : changed.interleaved = negotiation.interleaved) :
    after.Supplies id changed name description where
  bound := bound
  produces := same.producer.trans supplies.produces
  described := (same.described (by rw [supplies.produces]; rfl)).1.trans supplies.described
  travels := by
    rw [Negotiation.framing?_congr media, supplies.travels, interleaved]

/-! ## Starting to record -/

/-- What a granted request to record leaves: the session streams as was checked, and the channel
that it is bound to has it as producer. -/
theorem Grants.recorded (granted : relay.Grants event session.id .record)
    (found : relay.session? session.id = some session)
    (settled : session.negotiation.Settled) : ∃ name description interleaved,
      session.negotiation.channel = some name ∧
      (relay.channelAt name).description = some description ∧
      session.negotiation.framing? description .record = some interleaved ∧
      (relay.after event).channelAt name =
        { relay.channelAt name with producer := some session.id } ∧
      (relay.after event).session? session.id =
        some (session.negotiate fun negotiation => negotiation.start .record interleaved) := by
  obtain ⟨request, reply, rfl, known, replied, success⟩ := granted
  rw [reply?_requested found, Option.some.injEq] at replied
  subst replied
  obtain ⟨reply, answered⟩ := status_route_ok_iff.mp success
  have outcome := outcome_dispatch relay session request
  rw [after_requested found, route_eq]
  rw [answered] at outcome
  have other {method : Method} (admitted : session.Admits method request) : method = .record :=
    Option.some.inj (admitted.known.symm.trans known)
  generalize (relay.dispatch Handlers.standard session request).1 = after at outcome
  cases outcome with
  | informed admitted query _ _ =>
      obtain rfl := other admitted
      exact nomatch query
  | announced admitted _ _ => exact nomatch other admitted
  | setUp admitted _ _ _ _ => exact nomatch other admitted
  | played admitted _ => exact nomatch other admitted
  | paused admitted => exact nomatch other admitted
  | tornDown admitted => exact nomatch other admitted
  | @recorded plan admitted planned _ =>
      obtain ⟨named, registered, description, described, travels⟩ := streamPlan_ok planned
      have past := ne_init_of_allowed admitted.allowed rfl
      have claimed := channelAt_modifyChannel registered
        (fun _ => { plan.channel with producer := some session.id }) plan.name
      refine ⟨plan.name, description, plan.interleaved, streamName_eq_ok settled past named, ?_,
        travels, ?_, session?_negotiate_self found _⟩
      · rw [channelAt_of_found registered, described]
      · rw [channelAt_of_found registered]
        exact claimed.trans (if_pos rfl)

theorem supplies_of_granted (identified : relay.Identified) (coherent : relay.Coherent)
    (granted : relay.Grants event id .record)
    (left : (relay.after event).session? id = some later) :
    ∃ name description, (relay.after event).Supplies id later.negotiation name description := by
  obtain ⟨session, found⟩ : ∃ session, relay.session? id = some session := by
    obtain ⟨request, reply, rfl, _, replied, _⟩ := granted
    obtain ⟨session, found, _⟩ := Option.map_eq_some_iff.mp replied
    exact ⟨session, found⟩
  obtain rfl := identified id session found
  obtain ⟨name, description, interleaved, bound, described, travels, claimed, listed⟩ :=
    granted.recorded found (coherent.agrees _ session found).settled
  obtain rfl := Option.some.inj (listed.symm.trans left)
  exact ⟨name, description, bound, congrArg Channel.producer claimed,
    (congrArg Channel.description claimed).trans described, travels⟩

/-- A session that supplies its channel is granted to record whenever it asks for it by its own
name or by none, unless it plays or has forgotten what it negotiated. -/
theorem Supplies.grants (supplies : relay.Supplies id session.negotiation name description)
    (found : relay.session? id = some session) (named : session.id = id)
    (allowed : Method.record.allowedIn session.negotiation.state = true)
    (known : request.known? = some .record)
    (own : ∀ named, request.sessionId? = some named → named = id) :
    relay.Grants (.requested id request) id .record := by
  subst named
  have unopposed : session.objection? .record request = none := by
    have trusted : session.disowns? request = none := by
      unfold Session.disowns?
      cases named : request.sessionId? with
      | none => rfl
      | some other => exact if_pos (own other named)
    simp only [Session.objection?, trusted, allowed, Bool.not_true, Bool.false_eq_true, ↓reduceIte,
      reduceCtorEq]
  have registered := registered_of_described supplies.described
  have planned : Handler.streamPlan .record relay session request =
      .ok ⟨name, relay.channelAt name, session.negotiation.interleaved⟩ := by
    have named : relay.streamName session request = .ok name := by
      rw [streamName, supplies.bound]
    have held := existing_eq_ok_iff.mpr registered
    have tells : MediaRelay.described name (relay.channelAt name) = .ok description :=
      described_eq_ok_iff.mpr supplies.described
    have checked := checkMedia_eq_ok_iff.mpr supplies.travels
    simp only [Handler.streamPlan, named, held, tells, checked, bind, Except.bind]
    rfl
  have claimed := Channel.claim?_of_held supplies.produces
  refine ⟨request, _, rfl, known, reply?_requested found request, status_route_ok_iff.mpr ?_⟩
  rw [dispatch_of_admits ⟨known, unopposed⟩ rfl]
  simp only [Handler.record, planned, claimed]
  exact ⟨_, rfl⟩

/-! ## While a session records -/

/-- A session that records without having just been granted to, and that sets nothing up, has
recorded before and keeps to how. -/
theorem Renegotiates.still_records (step : relay.Renegotiates id event negotiation changed)
    (silent : relay.setUp? id event = none) (ungranted : ¬ relay.Grants event id .record)
    (recording : changed.state = .recording) :
    negotiation.state = .recording ∧
      (∀ name, negotiation.channel = some name → changed.channel = some name) ∧
      changed.media = negotiation.media ∧ changed.interleaved = negotiation.interleaved := by
  cases step with
  | same _ => exact ⟨recording, fun _ bound => bound, rfl, rfl⟩
  | bound _ free =>
      refine ⟨recording, fun name bound => ?_, rfl, rfl⟩
      rw [Negotiation.mayBind_iff.mp free name bound]
      rfl
  | setUp told _ _ _ _ => exact nomatch silent.symm.trans told
  | @started direction _ _ _ _ granted _ _ _ =>
      cases direction with
      | record => exact (ungranted granted).elim
      | play => exact nomatch recording
  | paused _ =>
      have still := Negotiation.isStreaming_pause negotiation
      rw [recording] at still
      exact nomatch still
  | cleared _ => exact nomatch recording

/-- If the session records, it supplies the channel that it is bound to. -/
def Supplied (relay : Relay) (id : SessionId) : Prop :=
  ∀ session, relay.session? id = some session → session.negotiation.state = .recording →
    ∃ name description, relay.Supplies id session.negotiation name description

theorem Supplied.step (supplied : relay.Supplied id) (identified : relay.Identified)
    (coherent : relay.Coherent) (silent : relay.setUp? id event = none) :
    (relay.after event).Supplied id := by
  intro later left recording
  by_cases granted : relay.Grants event id .record
  · exact supplies_of_granted identified coherent granted left
  · cases found : relay.session? id with
    | none =>
        rw [negotiation_of_absent identified coherent found left] at recording
        exact nomatch recording
    | some session =>
        obtain ⟨before, bound, media, interleaved⟩ :=
          (renegotiates_after identified coherent found left).still_records silent granted recording
        obtain ⟨name, description, supplies⟩ := supplied session found before
        have course := (change_after relay event).course identified name
        have same := course.steady supplies.produces ⟨session, found, decide_eq_true before⟩
          ⟨later, left, decide_eq_true recording⟩
        exact ⟨name, description, supplies.kept same (bound name supplies.bound) media interleaved⟩

/-- By induction on the run: a session that sets nothing up after it was granted to record supplies
its channel whenever it records. -/
theorem supplied_reached (config : RelayConfig) {earlier later : List Event}
    (granted : (reached config earlier).Grants event id .record)
    (silent : ∀ event ∈ later, ∀ request, event = .requested id request →
      request.known? ≠ some .setup) :
    (reached config (earlier ++ event :: later)).Supplied id := by
  induction later using List.reverseRecOn with
  | nil =>
      intro session left _
      rw [reached_concat] at left ⊢
      exact supplies_of_granted (identified_reached config earlier)
        (coherent_reached config earlier) granted left
  | append_singleton later next ih =>
      have before := ih fun event member => silent event (List.mem_append_left _ member)
      have quiet : (reached config (earlier ++ event :: later)).setUp? id next = none := by
        have unasked := silent next (List.mem_append_right _ (List.mem_singleton_self next))
        cases next with
        | requested actor request =>
            refine if_neg ?_
            rintro ⟨rfl, known⟩
            exact unasked request rfl known
        | _ => rfl
      rw [← List.cons_append, ← List.append_assoc, reached_concat]
      exact before.step (identified_reached config _) (coherent_reached config _) quiet

/-! ## While it pauses -/

/-- A pause stops the session, if it is granted, and does nothing else. -/
theorem after_paused (found : relay.session? session.id = some session)
    (known : request.known? = some .pause) :
    (relay.after (.requested session.id request)).registry = relay.registry ∧
      ((relay.after (.requested session.id request)).session? session.id = some session ∨
        (relay.after (.requested session.id request)).session? session.id =
          some (session.negotiate Negotiation.pause)) := by
  rw [after_requested found, route_eq]
  cases opposed : session.objection? .pause request with
  | some refusal =>
      rw [dispatch_of_opposed known opposed]
      exact ⟨rfl, .inl found⟩
  | none =>
      rw [dispatch_of_admits ⟨known, opposed⟩ rfl]
      exact ⟨rfl, .inr (session?_negotiate_self found _)⟩

/-- A session that records and pauses may record again at any time, and it still supplies its
channel. -/
theorem Supplies.paused (supplies : relay.Supplies id session.negotiation name description)
    (found : relay.session? id = some session) (named : session.id = id)
    (recording : session.negotiation.state = .recording) (known : request.known? = some .pause) :
    (relay.channelAt name).SameFeed ((relay.after (.requested id request)).channelAt name) ∧
      ∃ waiting, (relay.after (.requested id request)).session? id = some waiting ∧
        Method.record.allowedIn waiting.negotiation.state = true ∧
        waiting.negotiation.interleaved = session.negotiation.interleaved ∧
        (relay.after (.requested id request)).Supplies id waiting.negotiation name description := by
  subst named
  obtain ⟨registry, stops⟩ := after_paused found known
  have same := sameFeed_of_registry_eq registry name
  refine ⟨same, ?_⟩
  rcases stops with stays | stops
  · exact ⟨session, stays, recording ▸ rfl, rfl, supplies.kept same supplies.bound rfl rfl⟩
  · have ready : session.negotiation.pause.state = .ready := by
      rw [Negotiation.pause, if_pos (by rw [recording]; rfl)]
    have bound := (Negotiation.channel_pause session.negotiation).trans supplies.bound
    refine ⟨_, stops, ?_, Negotiation.interleaved_pause _, ?_⟩
    · change Method.record.allowedIn session.negotiation.pause.state = true
      rw [ready]
      rfl
    · exact supplies.kept same bound (Negotiation.media_pause _) (Negotiation.interleaved_pause _)

/-- A session that supplies its channel records there as before once it is granted to. -/
theorem Supplies.resumed (supplies : relay.Supplies id session.negotiation name description)
    (found : relay.session? id = some session) (named : session.id = id)
    (settled : session.negotiation.Settled) (granted : relay.Grants event id .record) :
    (relay.channelAt name).SameFeed ((relay.after event).channelAt name) ∧
      (relay.after event).session? id = some (session.negotiate fun negotiation =>
        negotiation.start .record session.negotiation.interleaved) := by
  subst named
  obtain ⟨addressed, told, interleaved, bound, described, travels, claimed, left⟩ :=
    granted.recorded found settled
  obtain rfl := Option.some.inj (bound.symm.trans supplies.bound)
  obtain rfl := Option.some.inj (described.symm.trans supplies.described)
  obtain rfl := Option.some.inj (travels.symm.trans supplies.travels)
  refine ⟨.of_eq (claimed.trans ?_), left⟩
  rw [← supplies.produces]

/-- What a session may count on that pauses, waits while others run on and asks to record again. -/
structure Resumes (relay : Relay) (id : SessionId) (negotiation : Negotiation) (pausing : Request)
    (others : List Event) (resuming : Request) : Prop where
  /-- All the time it is the producer of the channel that it is bound to, under the description
  that the channel has. -/
  throughout : ∃ name, negotiation.channel = some name ∧
    ∀ past, past <+: .requested id pausing :: (others ++ [.requested id resuming]) →
      ((relay.afterAll past).channelAt name).producer = some id ∧
        ((relay.afterAll past).channelAt name).description = (relay.channelAt name).description ∧
        ((relay.afterAll past).channelAt name).raw = (relay.channelAt name).raw
  granted : (relay.afterAll (.requested id pausing :: others)).Grants (.requested id resuming) id
    .record
  /-- Then it records, and its media travel as before. -/
  records : ∃ session, (relay.afterAll
      (.requested id pausing :: (others ++ [.requested id resuming]))).session? id = some session ∧
    session.negotiation.state = .recording ∧
    session.negotiation.interleaved = negotiation.interleaved

theorem Supplies.resumes {config : RelayConfig} {pausing resuming : Request} {others : List Event}
    (supplies : (reached config events).Supplies id session.negotiation name description)
    (found : (reached config events).session? id = some session)
    (recording : session.negotiation.state = .recording) (pauses : pausing.known? = some .pause)
    (apart : ∀ event ∈ others, event.actor? ≠ some id) (resumes : resuming.known? = some .record)
    (own : ∀ named, resuming.sessionId? = some named → named = id) :
    (reached config events).Resumes id session.negotiation pausing others resuming := by
  have held := supplies.produces
  obtain ⟨stopped, waiting, present, allowed, interleaved, ready⟩ :=
    supplies.paused found (identified_reached config events id session found) recording pauses
  rw [← reached_concat] at stopped present ready
  have onwards (past : List Event) :
      (reached config events).afterAll (.requested id pausing :: past) =
        (reached config (events ++ [.requested id pausing])).afterAll past := by
    rw [← reached_append, ← reached_append, List.append_assoc, List.singleton_append]
  -- What others do is nothing to the session, up to any point of the wait.
  have waits (past : List Event) (first : past <+: others) :
      Keeps id (reached config (events ++ [.requested id pausing]))
        ((reached config events).afterAll (.requested id pausing :: past)) := by
    rw [onwards]
    exact keeps_afterAll (identified_reached config _) fun event member =>
      apart event (first.subset member)
  have feed (past : List Event) (first : past <+: others) :=
    ((waits past first).channels name).sameFeed ready.produces
  have listed := (waits others List.prefix_rfl).session.trans present
  have supplied := ready.kept (feed others List.prefix_rfl) ready.bound rfl rfl
  rw [onwards, ← reached_append] at listed supplied
  have named := identified_reached config _ id waiting listed
  have again := supplied.grants listed named allowed resumes own
  obtain ⟨resumed, left⟩ := supplied.resumed listed named
    ((coherent_reached config _).agrees id waiting listed).settled again
  have last : (reached config events).afterAll
      (.requested id pausing :: (others ++ [.requested id resuming])) =
        (reached config (events ++ [.requested id pausing] ++ others)).after
          (.requested id resuming) := by
    rw [onwards, ← reached_append, ← List.append_assoc, reached_concat]
  rw [reached_append config _ others, ← onwards] at again resumed
  rw [← last] at left
  refine ⟨⟨name, supplies.bound, fun past first => ?_⟩, again, _, left, rfl, interleaved⟩
  rcases List.prefix_cons_iff.mp first with rfl | ⟨past, rfl, tail⟩
  · exact ⟨held, rfl, rfl⟩
  · rcases List.prefix_concat_iff.mp tail with rfl | shorter
    · rw [last, reached_append config _ others, ← onwards]
      exact ((stopped.trans (feed others List.prefix_rfl)).trans resumed).held held
    · exact (stopped.trans (feed past shorter)).held held

/-- **A recorder that has paused can go on as it was.** A session that records and has set nothing
up since it was last granted to may pause and wait for as long as it likes, whatever others do
meanwhile: when it asks to record again, it is granted that. -/
theorem resumes_reached (config : RelayConfig) {earlier later others : List Event}
    {started : Event} {pausing resuming : Request}
    (granted : (reached config earlier).Grants started id .record)
    (silent : ∀ event ∈ later, ∀ request, event = .requested id request →
      request.known? ≠ some .setup)
    (found : (reached config (earlier ++ started :: later)).session? id = some session)
    (recording : session.negotiation.state = .recording) (pauses : pausing.known? = some .pause)
    (apart : ∀ event ∈ others, event.actor? ≠ some id) (resumes : resuming.known? = some .record)
    (own : ∀ named, resuming.sessionId? = some named → named = id) :
    (reached config (earlier ++ started :: later)).Resumes id session.negotiation pausing others
      resuming := by
  obtain ⟨name, description, supplies⟩ :=
    supplied_reached config granted silent session found recording
  exact supplies.resumes found recording pauses apart resumes own

end Relay

namespace Sample

/-- The recorder of one medium. -/
def equipped : List Event :=
  [.opened recorder address, .requested recorder announceOne, .requested recorder framed]

/-- While the recorder waits, a viewer asks for its channel, plays it and leaves. -/
def meanwhile : List Event :=
  [.requested viewer announce, .requested viewer viewFrames, .requested viewer (plain .play),
    .requested viewer (plain .teardown), .closed viewer]

/-- A request to record that names the recorder, and another channel. -/
def resuming : Request where
  method := Method.record.token
  uri := "/elsewhere".toList
  headers := [("Session".toList, recorder)]

end Sample

namespace Relay

set_option maxRecDepth 100000 in
theorem resumes_reached_recorder :
    ∃ session, (reached Sample.config (Sample.equipped ++ .requested Sample.recorder
        (Sample.plain .record) :: [.opened Sample.viewer Sample.distant])).session?
          Sample.recorder = some session ∧
      session.negotiation.state = .recording ∧ session.negotiation.interleaved = true ∧
      (reached Sample.config (Sample.equipped ++ .requested Sample.recorder
        (Sample.plain .record) :: [.opened Sample.viewer Sample.distant])).Resumes Sample.recorder
          session.negotiation (Sample.plain .pause) Sample.meanwhile Sample.resuming := by
  have records : ((reached Sample.config (Sample.equipped ++ .requested Sample.recorder
      (Sample.plain .record) :: [.opened Sample.viewer Sample.distant])).session?
        Sample.recorder).map (fun session => (session.negotiation.state,
          session.negotiation.interleaved)) = some (.recording, true) := by decide +kernel
  obtain ⟨session, found, state⟩ := Option.map_eq_some_iff.mp records
  obtain ⟨recording, interleaved⟩ := Prod.mk.inj state
  have granted : (reached Sample.config Sample.equipped).Grants
      (.requested Sample.recorder (Sample.plain .record)) Sample.recorder .record := by
    have success : ((reached Sample.config Sample.equipped).reply? (.requested Sample.recorder
        (Sample.plain .record))).map (fun reply => reply.response.status) = some .ok := by
      decide +kernel
    obtain ⟨reply, replied, ok⟩ := Option.map_eq_some_iff.mp success
    exact ⟨_, reply, rfl, by decide, replied, ok⟩
  refine ⟨session, found, recording, interleaved, resumes_reached Sample.config granted ?_ found
    recording (by decide) ?_ (by decide) ?_⟩
  · intro event member request same
    rw [List.mem_singleton.mp member] at same
    exact nomatch same
  · decide
  · decide

end Relay

end MediaRelay
