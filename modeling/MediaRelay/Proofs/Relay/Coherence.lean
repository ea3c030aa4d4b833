import MediaRelay.Proofs.Relay.Runs

/-! # Coherence of sessions and channels

What a session has negotiated and the roles it has in channels are kept in different places. They
agree in all that is reached: a session streams with the channel it is bound to, and has roles in
no other (`coherent_reached`).
-/

namespace MediaRelay

namespace Negotiation

/-- Media come with a channel, and a session that has left its first state has media. -/
structure Settled (negotiation : Negotiation) : Prop where
  equipped : negotiation.state ≠ .init → negotiation.media.entries ≠ []
  bound : negotiation.media.entries ≠ [] → negotiation.channel.isSome = true

variable {negotiation : Negotiation} {name : Text}

theorem settled_initial : initial.Settled :=
  ⟨fun started => (started rfl).elim, fun equipped => (equipped rfl).elim⟩

theorem mayBind_iff : negotiation.mayBind name = true ↔
    ∀ current, negotiation.channel = some current → current = name := by
  unfold mayBind
  cases negotiation.channel <;> simp

theorem Settled.bind (settled : negotiation.Settled) (name : Text) :
    (negotiation.bind name).Settled :=
  ⟨settled.equipped, fun _ => rfl⟩

/-- A session that has left its first state is bound to a channel. -/
theorem Settled.channel_of_state (settled : negotiation.Settled)
    (started : negotiation.state ≠ .init) : ∃ name, negotiation.channel = some name :=
  Option.isSome_iff_exists.mp (settled.bound (settled.equipped started))

theorem Settled.start (settled : negotiation.Settled) (started : negotiation.state ≠ .init)
    (direction : Direction) (interleaved : Bool) :
    (negotiation.start direction interleaved).Settled :=
  ⟨fun _ => settled.equipped started, settled.bound⟩

theorem Settled.pause (settled : negotiation.Settled) : negotiation.pause.Settled := by
  unfold Negotiation.pause
  split
  · rename_i streaming
    have started : negotiation.state ≠ .init := by
      intro same
      simp [same, SessionState.isStreaming] at streaming
    exact ⟨fun _ => settled.equipped started, settled.bound⟩
  · exact settled

theorem isStreaming_pause (negotiation : Negotiation) :
    negotiation.pause.state.isStreaming = false := by
  unfold Negotiation.pause
  split
  · rfl
  · rename_i still
    simpa using still

@[simp] theorem channel_pause (negotiation : Negotiation) :
    negotiation.pause.channel = negotiation.channel := by
  unfold Negotiation.pause
  split <;> rfl

/-- The state after a set-up is ready, if it is not the one before. -/
theorem state_settle (negotiation : Negotiation) (description : Description) :
    (negotiation.settle description).state = negotiation.state ∨
      negotiation.state = .init ∧ (negotiation.settle description).state = .ready := by
  unfold settle
  split
  · rename_i completed
    exact .inr ⟨(completes_iff.mp completed).2, rfl⟩
  · exact .inl rfl

/-- A set-up makes a session ready only if the description is covered. -/
theorem covers_of_settle {negotiation : Negotiation} {description : Description}
    (unready : negotiation.state ≠ .ready)
    (ready : (negotiation.settle description).state = .ready) :
    negotiation.covers description = true := by
  unfold settle at ready
  split at ready
  · rename_i completed
    exact (completes_iff.mp completed).1
  · exact (unready ready).elim

@[simp] theorem channel_settle (negotiation : Negotiation) (description : Description) :
    (negotiation.settle description).channel = negotiation.channel := by
  unfold settle
  split <;> rfl

@[simp] theorem media_settle (negotiation : Negotiation) (description : Description) :
    (negotiation.settle description).media = negotiation.media := by
  unfold settle
  split <;> rfl

end Negotiation

namespace Relay

/-- What a session has negotiated agrees with the roles that it has in channels. -/
structure Agrees (relay : Relay) (id : SessionId) (negotiation : Negotiation) : Prop where
  settled : negotiation.Settled
  producing : negotiation.state = .recording →
    ∃ name, negotiation.channel = some name ∧ (relay.channelAt name).producer = some id
  subscribed : negotiation.state = .playing →
    ∃ name, negotiation.channel = some name ∧ id ∈ (relay.channelAt name).subscribers
  bound : ∀ name, (relay.channelAt name).refersTo id = true → negotiation.channel = some name

/-- Every open session agrees with its roles, closed ones have none, and idle sessions are as
new. -/
structure Coherent (relay : Relay) : Prop where
  agrees : ∀ id session, relay.session? id = some session → relay.Agrees id session.negotiation
  gone : ∀ id, relay.session? id = none → ∀ name, (relay.channelAt name).refersTo id = false
  cleared : ∀ negotiation ∈ relay.sessionPool.free, negotiation = .initial

variable {relay after : Relay} {id : SessionId} {negotiation changed : Negotiation} {name : Text}

/-! ## One session -/

theorem agrees_initial (free : ∀ name, (relay.channelAt name).refersTo id = false) :
    relay.Agrees id .initial where
  settled := Negotiation.settled_initial
  producing := fun recording => nomatch recording
  subscribed := fun playing => nomatch playing
  bound := fun name role => by simp [free name] at role

theorem refersTo_keeps (kept : Keeps id relay after) (name : Text) :
    (after.channelAt name).refersTo id = (relay.channelAt name).refersTo id := by
  rw [Bool.eq_iff_iff, Channel.refersTo_iff, Channel.refersTo_iff, (kept.channels name).produces,
    (kept.channels name).subscribes]

theorem Agrees.keeps (agrees : relay.Agrees id negotiation) (kept : Keeps id relay after) :
    after.Agrees id negotiation where
  settled := agrees.settled
  producing := fun recording =>
    have ⟨name, bound, produces⟩ := agrees.producing recording
    ⟨name, bound, (kept.channels name).produces.mpr produces⟩
  subscribed := fun playing =>
    have ⟨name, bound, listed⟩ := agrees.subscribed playing
    ⟨name, bound, (kept.channels name).subscribes.mpr listed⟩
  bound := fun name role => agrees.bound name (refersTo_keeps kept name ▸ role)

/-- What is negotiated may change as long as the session stays bound and does not start
streaming. -/
theorem Agrees.renegotiate (agrees : relay.Agrees id negotiation) (settled : changed.Settled)
    (bound : ∀ name, negotiation.channel = some name → changed.channel = some name)
    (recording : changed.state = .recording → negotiation.state = .recording)
    (playing : changed.state = .playing → negotiation.state = .playing) :
    relay.Agrees id changed where
  settled := settled
  producing := fun streaming =>
    have ⟨name, named, produces⟩ := agrees.producing (recording streaming)
    ⟨name, bound name named, produces⟩
  subscribed := fun streaming =>
    have ⟨name, named, listed⟩ := agrees.subscribed (playing streaming)
    ⟨name, bound name named, listed⟩
  bound := fun name role => bound name (agrees.bound name role)

/-- The roles of a session may change in the channel that it is bound to. -/
theorem Agrees.assume (agrees : relay.Agrees id negotiation)
    (free : ∀ current, negotiation.channel = some current → current = name)
    (elsewhere : ∀ key, key ≠ name → after.channelAt key = relay.channelAt key)
    (settled : changed.Settled) (bound : changed.channel = some name)
    (recording : changed.state = .recording → (after.channelAt name).producer = some id)
    (playing : changed.state = .playing → id ∈ (after.channelAt name).subscribers) :
    after.Agrees id changed where
  settled := settled
  producing := fun streaming => ⟨name, bound, recording streaming⟩
  subscribed := fun streaming => ⟨name, bound, playing streaming⟩
  bound := fun key role => by
    by_cases same : key = name
    · rw [same, bound]
    · rw [elsewhere key same] at role
      exact (same (free key (agrees.bound key role))).elim

/-! ## Requests -/

variable {session : Session} {request : Request}

theorem session?_negotiate_self (found : relay.session? session.id = some session)
    (change : Negotiation → Negotiation) :
    (relay.negotiate session.id change).session? session.id = some (session.negotiate change) := by
  rw [session?_negotiate, if_pos rfl, found, Option.map_some]

/-- Roles do not depend on what sessions have negotiated. -/
theorem Agrees.negotiate (agrees : relay.Agrees id changed) (actor : SessionId)
    (change : Negotiation → Negotiation) : (relay.negotiate actor change).Agrees id changed :=
  ⟨agrees.settled, agrees.producing, agrees.subscribed, agrees.bound⟩

/-- A medium that is set up leaves the session bound and does not start streaming. -/
theorem Agrees.setUp {plan : Handler.SetupPlan} (agrees : relay.Agrees id negotiation)
    (free : negotiation.mayBind plan.name = true)
    (fits : Handler.setUp plan (negotiation.bind plan.name) = .ok changed) :
    relay.Agrees id changed := by
  obtain ⟨media, _, _, rfl⟩ := setUp_eq_ok_iff.mp fits
  have listed : (negotiation.media.set plan.control media).entries ≠ [] :=
    Table.entries_ne_nil_of_get? (by rw [Table.get?_set, if_pos rfl])
  have state := Negotiation.state_settle
    { negotiation.bind plan.name with media := negotiation.media.set plan.control media }
    plan.description
  refine agrees.renegotiate ⟨fun _ => ?_, fun _ => ?_⟩ (fun name bound => ?_)
    (fun streaming => ?_) fun streaming => ?_
  · rw [Negotiation.media_settle]
    exact listed
  · rw [Negotiation.channel_settle]
    rfl
  · rw [Negotiation.channel_settle, Negotiation.mayBind_iff.mp free name bound]
    rfl
  · rcases state with same | ⟨_, ready⟩
    · exact same.symm.trans streaming
    · exact nomatch ready.symm.trans streaming
  · rcases state with same | ⟨_, ready⟩
    · exact same.symm.trans streaming
    · exact nomatch ready.symm.trans streaming

/-- A session that streams does so with the channel it is bound to. -/
theorem streamName_eq_ok (settled : session.negotiation.Settled)
    (started : session.negotiation.state ≠ .init)
    (named : relay.streamName session request = .ok name) :
    session.negotiation.channel = some name := by
  obtain ⟨current, bound⟩ := settled.channel_of_state started
  simp only [streamName, bound, Except.ok.injEq] at named
  rw [bound, named]

theorem ne_init_of_allowed {method : Method} (allowed : method.allowedIn negotiation.state = true)
    (late : method.allowedIn .init = false) : negotiation.state ≠ .init := by
  intro same
  rw [same, late] at allowed
  exact nomatch allowed

/-- After a request a session agrees with its roles if it did before. -/
theorem Outcome.agrees {result : Except Refusal Reply}
    (outcome : relay.Outcome session request after result)
    (found : relay.session? session.id = some session)
    (agrees : relay.Agrees session.id session.negotiation) {later : Session}
    (left : after.session? session.id = some later) :
    after.Agrees session.id later.negotiation := by
  have started {direction : Direction} {plan : Handler.StreamPlan}
      (planned : Handler.streamPlan direction relay session request = .ok plan)
      (past : session.negotiation.state ≠ .init) :
      session.negotiation.channel = some plan.name :=
    streamName_eq_ok agrees.settled past (streamPlan_ok planned).1
  cases outcome with
  | refused _ =>
      obtain rfl := Option.some.inj (found.symm.trans left)
      exact agrees
  | informed _ _ _ _ =>
      obtain rfl := Option.some.inj (found.symm.trans left)
      exact agrees
  | @announced description name admitted planned _ =>
      obtain rfl := Option.some.inj ((session?_negotiate_self found _).symm.trans left)
      have free := Negotiation.mayBind_iff.mp (announcement_ok planned).2.2
      refine Agrees.negotiate (agrees.assume free (fun key different => ?_)
        (agrees.settled.bind name) rfl (fun recording => ?_) fun playing => ?_) _ _
      · rw [channelAt_replaced, if_neg different]
      · exact nomatch recording ▸ admitted.allowed
      · exact nomatch playing ▸ admitted.allowed
  | boundOnly _ _ free _ =>
      obtain rfl := Option.some.inj ((session?_negotiate_self found _).symm.trans left)
      refine (agrees.renegotiate (agrees.settled.bind _) (fun name bound => ?_) id id).negotiate _ _
      rw [Negotiation.mayBind_iff.mp free name bound]
      rfl
  | ungranted _ _ free fits _ =>
      obtain rfl := Option.some.inj ((session?_negotiate_self found _).symm.trans left)
      exact (agrees.setUp free fits).negotiate _ _
  | setUp _ _ free fits _ =>
      obtain rfl := Option.some.inj ((session?_negotiate_self found _).symm.trans left)
      exact (agrees.setUp free fits).negotiate _ _
  | @recorded plan admitted planned _ =>
      obtain rfl := Option.some.inj ((session?_negotiate_self found _).symm.trans left)
      have past := ne_init_of_allowed admitted.allowed rfl
      have bound := started planned past
      have channels := channelAt_modifyChannel (streamPlan_ok planned).2.1
        fun _ => { plan.channel with producer := some session.id }
      refine (agrees.assume (fun current named => Option.some.inj (named.symm.trans bound))
        (fun key different => (channels key).trans (if_neg different))
        (agrees.settled.start past _ _) bound (fun _ => ?_) fun playing => ?_).negotiate _ _
      · rw [channels, if_pos rfl]
      · exact nomatch playing
  | @played plan admitted planned =>
      obtain rfl := Option.some.inj ((session?_negotiate_self found _).symm.trans left)
      have past := ne_init_of_allowed admitted.allowed rfl
      have bound := started planned past
      have channels (key : Text) : ((relay.negotiate session.id fun negotiation =>
          negotiation.start .play plan.interleaved).modifyChannel plan.name
            fun channel => channel.subscribe session.id).channelAt key =
          if key = plan.name then plan.channel.subscribe session.id else relay.channelAt key :=
        channelAt_modifyChannel (streamPlan_ok planned).2.1 _ key
      refine agrees.assume (fun current named => Option.some.inj (named.symm.trans bound))
        (fun key different => (channels key).trans (if_neg different))
        (agrees.settled.start past _ _) bound (fun recording => nomatch recording) fun _ => ?_
      rw [channels, if_pos rfl]
      exact Channel.mem_subscribers_subscribe.mpr (.inr rfl)
  | paused _ =>
      obtain rfl := Option.some.inj ((session?_negotiate_self found _).symm.trans left)
      have still := Negotiation.isStreaming_pause session.negotiation
      refine (agrees.renegotiate agrees.settled.pause (fun name bound => ?_) (fun recording => ?_)
        fun playing => ?_).negotiate _ _
      · rwa [Negotiation.channel_pause]
      · rw [recording] at still
        exact nomatch still
      · rw [playing] at still
        exact nomatch still
  | tornDown _ =>
      have stays : (relay.teardown session.id).session? session.id = some session := found
      obtain rfl := Option.some.inj ((session?_negotiate_self stays _).symm.trans left)
      exact (agrees_initial (refersTo_channelAt_teardown relay session.id)).negotiate _ _

/-! ## Events -/

theorem negotiation_acquire {pool : SessionPool}
    (cleared : ∀ negotiation ∈ pool.free, negotiation = .initial) (id : SessionId) (peer : Address)
    (relayPorts : Option (UInt16 × UInt16)) :
    (pool.acquire id peer relayPorts).1.negotiation = .initial ∧
      ∀ negotiation ∈ (pool.acquire id peer relayPorts).2.free, negotiation = .initial := by
  unfold SessionPool.acquire
  cases idle : pool.free with
  | nil => exact ⟨rfl, fun negotiation member => cleared negotiation member⟩
  | cons first free =>
      rw [idle] at cleared
      exact ⟨cleared first List.mem_cons_self,
        fun negotiation member => cleared negotiation (List.mem_cons_of_mem _ member)⟩

theorem cleared_release {pool : SessionPool}
    (cleared : ∀ negotiation ∈ pool.free, negotiation = .initial) (referred : Bool)
    (session : Session) :
    ∀ negotiation ∈ (pool.release referred session).free, negotiation = .initial := by
  unfold SessionPool.release
  split
  · intro negotiation member
    rcases List.mem_cons.mp member with rfl | earlier
    · rfl
    · exact cleared negotiation earlier
  · exact cleared

variable {event : Event}

theorem Change.cleared (change : relay.Change event after)
    (cleared : ∀ negotiation ∈ relay.sessionPool.free, negotiation = .initial) :
    ∀ negotiation ∈ after.sessionPool.free, negotiation = .initial := by
  cases change with
  | idle same => rwa [same.sessionPool]
  | ensured same => rwa [same.sessionPool]
  | opened _ => exact (negotiation_acquire cleared _ _ _).2
  | @requested _ session request _ =>
      rw [route_eq]
      rwa [(outcome_dispatch relay session request).fixed.2.1]
  | @closed id session found =>
      simp only [closeSession, found]
      exact cleared_release cleared _ _
  | linkFailed => exact cleared

/-- The session that an event is about agrees with its roles afterwards. -/
theorem Change.agrees (change : relay.Change event after) (identified : relay.Identified)
    (coherent : relay.Coherent) (acting : event.actor? = some id)
    (left : after.session? id = some session) : after.Agrees id session.negotiation := by
  cases change with
  | idle same =>
      rw [same.session?] at left
      exact (coherent.agrees id session left).keeps (same.keeps id)
  | ensured _ => exact nomatch acting
  | @opened opening peer fresh =>
      obtain rfl := Option.some.inj acting
      rw [session?_openSession, if_pos rfl] at left
      obtain rfl := Option.some.inj left
      rw [(negotiation_acquire coherent.cleared _ _ _).1]
      exact agrees_initial (coherent.gone opening fresh)
  | @requested actor asking request found =>
      obtain rfl := Option.some.inj acting
      obtain rfl := identified actor asking found
      rw [route_eq] at left ⊢
      exact (outcome_dispatch relay asking request).agrees found
        (coherent.agrees asking.id asking found) left
  | closed _ =>
      obtain rfl := Option.some.inj acting
      rw [session?_closeSession, if_pos rfl] at left
      exact nomatch left
  | @linkFailed failing =>
      obtain rfl := Option.some.inj acting
      rw [session?_closeLink, if_pos rfl] at left
      obtain ⟨earlier, found, rfl⟩ := Option.map_eq_some_iff.mp left
      exact ⟨(coherent.agrees _ earlier found).settled, (coherent.agrees _ earlier found).producing,
        (coherent.agrees _ earlier found).subscribed, (coherent.agrees _ earlier found).bound⟩

/-- The session that an event is about has no roles if it is not open afterwards. -/
theorem Change.gone (change : relay.Change event after) (coherent : relay.Coherent)
    (acting : event.actor? = some id) (absent : after.session? id = none) (name : Text) :
    (after.channelAt name).refersTo id = false := by
  cases change with
  | idle same =>
      rw [same.session?] at absent
      rw [refersTo_keeps (same.keeps id)]
      exact coherent.gone id absent name
  | ensured _ => exact nomatch acting
  | @opened opening peer _ =>
      obtain rfl := Option.some.inj acting
      rw [session?_openSession, if_pos rfl] at absent
      exact nomatch absent
  | @requested actor asking request found =>
      obtain rfl := Option.some.inj acting
      obtain ⟨change, same⟩ := session?_route relay asking request actor
      rw [same, found] at absent
      exact nomatch absent
  | @closed closing session found =>
      obtain rfl := Option.some.inj acting
      simp only [closeSession, found]
      exact refersTo_channelAt_teardown relay closing name
  | @linkFailed failing =>
      obtain rfl := Option.some.inj acting
      rw [session?_closeLink, if_pos rfl, Option.map_eq_none_iff] at absent
      exact coherent.gone failing absent name

/-- Every event preserves coherence. -/
theorem Change.coherent (change : relay.Change event after) (identified : relay.Identified)
    (coherent : relay.Coherent) : after.Coherent where
  agrees := fun id session found => by
    by_cases acting : event.actor? = some id
    · exact change.agrees identified coherent acting found
    · have kept := change.keeps identified acting
      rw [kept.session] at found
      exact (coherent.agrees id session found).keeps kept
  gone := fun id absent name => by
    by_cases acting : event.actor? = some id
    · exact change.gone coherent acting absent name
    · have kept := change.keeps identified acting
      rw [kept.session] at absent
      rw [refersTo_keeps kept]
      exact coherent.gone id absent name
  cleared := change.cleared coherent.cleared

theorem channelAt_new (config : RelayConfig) (name : Text) :
    (new config).channelAt name = .vacant := by
  have registry : (new config).registry = .new config.defaultChannel := rfl
  unfold channelAt
  rw [registry]
  cases config.defaultChannel with
  | none => rfl
  | some standing =>
      have empty : ({ defaultChannel := some standing } : Registry).get? standing = none := rfl
      have absent : ({ defaultChannel := some standing } : Registry).get? name = none := rfl
      simp only [Registry.new, Registry.get?_ensure, empty, absent]
      by_cases same : name = standing <;> simp [same]

theorem coherent_new (config : RelayConfig) : (new config).Coherent where
  agrees := fun id session found => nomatch found
  gone := fun id _ name => by
    rw [channelAt_new]
    rfl
  cleared := fun negotiation member => nomatch member

/-- **Sessions and channels agree in all that is reached.** -/
theorem coherent_reached (config : RelayConfig) (events : List Event) :
    (reached config events).Coherent :=
  reached_induction config (coherent_new config)
    (fun events event coherent =>
      (change_after _ event).coherent (identified_reached config events) coherent) events

/-- **Roles match bindings.** A session that has left its first state is bound and has media, it
streams with the channel that is registered under the name it is bound to, and only open sessions
that are bound to a channel have roles in it. -/
theorem roles_match_bindings (config : RelayConfig) (events : List Event) :
    (∀ id session, (reached config events).session? id = some session →
      (session.negotiation.state ≠ .init →
        session.negotiation.channel.isSome = true ∧ session.negotiation.media.entries ≠ []) ∧
      (session.negotiation.media.entries ≠ [] → session.negotiation.channel.isSome = true) ∧
      (session.negotiation.state = .recording →
        ∃ name channel, session.negotiation.channel = some name ∧
          (reached config events).registry.get? name = some channel ∧
          channel.producer = some id) ∧
      (session.negotiation.state = .playing →
        ∃ name channel, session.negotiation.channel = some name ∧
          (reached config events).registry.get? name = some channel ∧
          id ∈ channel.subscribers)) ∧
    ∀ name channel, (reached config events).registry.get? name = some channel →
      ∀ id, channel.producer = some id ∨ id ∈ channel.subscribers →
        ∃ session, (reached config events).session? id = some session ∧
          session.negotiation.channel = some name := by
  have coherent := coherent_reached config events
  constructor
  · intro id session found
    have agrees := coherent.agrees id session found
    refine ⟨fun started => ?_, agrees.settled.bound, fun recording => ?_, fun playing => ?_⟩
    · have equipped := agrees.settled.equipped started
      exact ⟨agrees.settled.bound equipped, equipped⟩
    · obtain ⟨name, bound, produces⟩ := agrees.producing recording
      exact ⟨name, _, bound, registered_of_refersTo (Channel.refersTo_iff.mpr (.inl produces)),
        produces⟩
    · obtain ⟨name, bound, listed⟩ := agrees.subscribed playing
      exact ⟨name, _, bound, registered_of_refersTo (Channel.refersTo_iff.mpr (.inr listed)),
        listed⟩
  · intro name channel registered id role
    rw [← channelAt_of_found registered, ← Channel.refersTo_iff] at role
    cases found : (reached config events).session? id with
    | none => simp [coherent.gone id found name] at role
    | some session => exact ⟨session, rfl, (coherent.agrees id session found).bound name role⟩

end Relay

end MediaRelay
