import MediaRelay.Proofs.Relay.Coherence

/-! # The producer's place

One session at a time holds the producer's place of a channel. It takes a free place by a request
that is granted and keeps it until it is torn down at its own request or closed. What others do
leaves the place and the description alone, and while the holder records the description does not
change at all (`producerLock_reached`).
-/

namespace MediaRelay

namespace Channel

/-- The producer of a channel and, if there is one, the description stay. -/
structure SameFeed (before after : Channel) : Prop where
  producer : after.producer = before.producer
  described : before.producer.isSome = true →
    after.description = before.description ∧ after.raw = before.raw

theorem SameFeed.refl (channel : Channel) : channel.SameFeed channel :=
  ⟨rfl, fun _ => ⟨rfl, rfl⟩⟩

theorem SameFeed.of_eq {before after : Channel} (same : after = before) : before.SameFeed after :=
  same ▸ .refl after

theorem sameFeed_subscribe (channel : Channel) (id : SessionId) :
    channel.SameFeed (channel.subscribe id) := by
  unfold subscribe
  split
  · exact .refl channel
  · exact ⟨rfl, fun _ => ⟨rfl, rfl⟩⟩

end Channel

namespace Relay

/-- A session asks for a method by an event and is answered with success. -/
def Grants (relay : Relay) (event : Event) (id : SessionId) (method : Method) : Prop :=
  ∃ request reply, event = .requested id request ∧ request.known? = some method ∧
    relay.reply? event = some reply ∧ reply.response.status = .ok

/-- A session leaves its channels by an event: at its own request, or because it is closed. -/
def Leaves (relay : Relay) (event : Event) (id : SessionId) : Prop :=
  relay.Grants event id .teardown ∨ event = .closed id

/-- A session is open and records. -/
def Records (relay : Relay) (id : SessionId) : Prop :=
  ∃ session, relay.session? id = some session ∧ session.negotiation.isRecording = true

/-- The cases of what becomes of the producer and the description of a channel. -/
inductive Course (relay : Relay) (event : Event) (after : Relay) (name : Text) : Prop where
  | kept (same : (relay.channelAt name).SameFeed (after.channelAt name))
  | taken {id : SessionId} (free : (relay.channelAt name).producer = none)
      (held : (after.channelAt name).producer = some id)
      (granted : relay.Grants event id .announce ∨ relay.Grants event id .record)
  | described {id : SessionId} (held : (relay.channelAt name).producer = some id)
      (stays : (after.channelAt name).producer = some id)
      (granted : relay.Grants event id .announce)
  | released {id : SessionId} (held : (relay.channelAt name).producer = some id)
      (free : (after.channelAt name).producer = none) (left : relay.Leaves event id)
      (silent : ¬ after.Records id)

variable {relay after : Relay} {session : Session} {request : Request} {id : SessionId}
  {event : Event} {name : Text}

/-! ## One event -/

theorem sameFeed_of_registry_eq (registry : after.registry = relay.registry) (name : Text) :
    (relay.channelAt name).SameFeed (after.channelAt name) := by
  refine .of_eq ?_
  rw [channelAt, registry, ← channelAt]

/-- A session that leaves frees the places that it holds. -/
theorem producer_teardown_self (held : (relay.channelAt name).producer = some id) :
    ((relay.teardown id).channelAt name).producer = none := by
  rw [producer_channelAt_teardown, Channel.producer_remove, if_pos held]

theorem sameFeed_teardown (other : (relay.channelAt name).producer ≠ some id) :
    (relay.channelAt name).SameFeed ((relay.teardown id).channelAt name) where
  producer := by rw [producer_channelAt_teardown, Channel.producer_remove, if_neg other]
  described := fun occupied => by
    obtain ⟨holder, held⟩ := Option.isSome_iff_exists.mp occupied
    have different : holder ≠ id := by
      rintro rfl
      exact other held
    exact ((keeps_teardown different).channels name).described held

theorem Outcome.course {result : Except Refusal Reply}
    (outcome : relay.Outcome session request after result)
    (grants : ∀ method, request.known? = some method → (∃ reply, result = .ok reply) →
      relay.Grants event session.id method) (name : Text) : relay.Course event after name := by
  cases outcome with
  | refused _ => exact .kept (.refl _)
  | informed _ _ _ _ => exact .kept (.refl _)
  | boundOnly _ _ _ _ => exact .kept (sameFeed_of_registry_eq rfl name)
  | ungranted _ _ _ _ _ => exact .kept (sameFeed_of_registry_eq rfl name)
  | setUp _ _ _ _ _ => exact .kept (sameFeed_of_registry_eq rfl name)
  | paused _ => exact .kept (sameFeed_of_registry_eq rfl name)
  | @announced description addressed admitted _ unlocked =>
      have granted := grants .announce admitted.known ⟨_, rfl⟩
      have replaced := channelAt_replaced relay addressed
        { relay.channelAt addressed with
          producer := some session.id
          description := some description
          raw := some request.body } name
      by_cases same : name = addressed
      · subst same
        have holds := congrArg Channel.producer (replaced.trans (if_pos rfl))
        -- The place is free or held by the session itself.
        cases held : (relay.channelAt name).producer with
        | none => exact .taken held holds (.inl granted)
        | some holder =>
            obtain rfl := Channel.lockedFor_eq_false_iff.mp unlocked holder held
            exact .described held holds granted
      · exact .kept (.of_eq (replaced.trans (if_neg same)))
  | @recorded plan admitted planned unlocked =>
      have found := (streamPlan_ok planned).2.1
      have claimed := channelAt_modifyChannel found
        (fun _ => { plan.channel with producer := some session.id }) name
      by_cases same : name = plan.name
      · subst same
        have replaced := claimed.trans (if_pos rfl)
        cases held : plan.channel.producer with
        | none =>
            refine .taken ?_ (congrArg Channel.producer replaced)
              (.inr (grants .record admitted.known ⟨_, rfl⟩))
            rw [channelAt_of_found found, held]
        | some holder =>
            obtain rfl := Channel.lockedFor_eq_false_iff.mp unlocked holder held
            refine .kept (.of_eq (replaced.trans ?_))
            rw [channelAt_of_found found, ← held]
      · exact .kept (.of_eq (claimed.trans (if_neg same)))
  | @played plan _ planned =>
      have found := (streamPlan_ok planned).2.1
      have joined : ((relay.negotiate session.id fun negotiation =>
          negotiation.start .play plan.interleaved).modifyChannel plan.name
            fun channel => channel.subscribe session.id).channelAt name =
          if name = plan.name then plan.channel.subscribe session.id else relay.channelAt name :=
        channelAt_modifyChannel found _ name
      refine .kept ?_
      rw [joined]
      by_cases same : name = plan.name
      · subst same
        rw [if_pos rfl, channelAt_of_found found]
        exact Channel.sameFeed_subscribe _ _
      · rw [if_neg same]
        exact .refl _
  | tornDown admitted =>
      by_cases held : (relay.channelAt name).producer = some session.id
      · refine .released held (producer_teardown_self held)
          (.inl (grants .teardown admitted.known ⟨_, rfl⟩)) ?_
        rintro ⟨later, found, recording⟩
        rw [session?_negotiate, if_pos rfl] at found
        obtain ⟨_, _, rfl⟩ := Option.map_eq_some_iff.mp found
        exact nomatch recording
      · exact .kept (sameFeed_teardown held)

/-- Every event leads to one of the cases. -/
theorem Change.course (change : relay.Change event after) (identified : relay.Identified)
    (name : Text) : relay.Course event after name := by
  cases change with
  | idle same => exact .kept (sameFeed_of_registry_eq same.registry name)
  | ensured same =>
      refine .kept (.of_eq ?_)
      rw [channelAt, same.registry, ← channelAt, channelAt_ensureChannel]
  | opened _ => exact .kept (sameFeed_of_registry_eq rfl name)
  | @requested actor session request found =>
      obtain rfl := identified actor session found
      rw [route_eq]
      refine (outcome_dispatch relay session request).course (fun method known answered => ?_) name
      exact ⟨request, _, rfl, known, reply?_requested found request,
        status_route_ok_iff.mpr answered⟩
  | @closed closing session found =>
      have left (name : Text) : (relay.closeSession closing).channelAt name =
          (relay.teardown closing).channelAt name := by
        simp only [closeSession, found]
        rfl
      by_cases held : (relay.channelAt name).producer = some closing
      · refine .released held (left name ▸ producer_teardown_self held) (.inr rfl) ?_
        rintro ⟨later, present, _⟩
        rw [session?_closeSession, if_pos rfl] at present
        cases present
      · exact .kept (left name ▸ sameFeed_teardown held)
  | linkFailed => exact .kept (sameFeed_of_registry_eq rfl name)

/-! ## Runs -/

/-- A request that is granted was let through by the state of its session. -/
theorem Grants.allowed {method : Method} (granted : relay.Grants event id method)
    (found : relay.session? id = some session) :
    method.allowedIn session.negotiation.state = true := by
  obtain ⟨request, reply, rfl, known, replied, success⟩ := granted
  rw [reply?_requested found, Option.some.injEq] at replied
  subst replied
  obtain ⟨reply, answered⟩ := status_route_ok_iff.mp success
  cases unopposed : session.objection? method request with
  | none => exact Session.Admits.allowed ⟨known, unopposed⟩
  | some refusal =>
      unfold dispatch at answered
      cases served : Handlers.standard method <;> simp [known, served, unopposed] at answered

/-- A holder that records before and after an event keeps its place and its description. -/
theorem Course.steady (course : relay.Course event after name)
    (held : (relay.channelAt name).producer = some id) (before : relay.Records id)
    (still : after.Records id) : (relay.channelAt name).SameFeed (after.channelAt name) := by
  cases course with
  | kept same => exact same
  | taken free _ _ => exact nomatch free.symm.trans held
  | described holds _ granted =>
      obtain rfl := Option.some.inj (holds.symm.trans held)
      obtain ⟨session, found, recording⟩ := before
      have allowed := granted.allowed found
      rw [of_decide_eq_true recording] at allowed
      exact nomatch allowed
  | released holds _ _ silent =>
      obtain rfl := Option.some.inj (holds.symm.trans held)
      exact (silent still).elim

/-- What is promised about the producer's place of a channel from now on. -/
structure ProducerLock (relay : Relay) (name : Text) : Prop where
  /-- A session gets the place from nobody, by a request of its own that is granted. -/
  taken : ∀ event id, (relay.channelAt name).producer ≠ some id →
    ((relay.after event).channelAt name).producer = some id →
      (relay.channelAt name).producer = none ∧
        (relay.Grants event id .announce ∨ relay.Grants event id .record)
  /-- A session leaves the place to nobody, as it is torn down at its request or closed. -/
  released : ∀ event id, (relay.channelAt name).producer = some id →
    ((relay.after event).channelAt name).producer ≠ some id →
      ((relay.after event).channelAt name).producer = none ∧ relay.Leaves event id
  /-- What is not about the holder changes neither the place nor the description. -/
  guarded : ∀ event id, (relay.channelAt name).producer = some id → event.actor? ≠ some id →
    ((relay.after event).channelAt name).producer = some id ∧
      ((relay.after event).channelAt name).description = (relay.channelAt name).description ∧
      ((relay.after event).channelAt name).raw = (relay.channelAt name).raw
  /-- Nothing changes the description through a run in which the holder records all the time. -/
  steady : ∀ events id, (relay.channelAt name).producer = some id →
    (∀ earlier, earlier <+: events → (relay.afterAll earlier).Records id) →
      ((relay.afterAll events).channelAt name).producer = some id ∧
        ((relay.afterAll events).channelAt name).description =
          (relay.channelAt name).description ∧
        ((relay.afterAll events).channelAt name).raw = (relay.channelAt name).raw

theorem Course.of_taken (course : relay.Course event after name)
    (unheld : (relay.channelAt name).producer ≠ some id)
    (holds : (after.channelAt name).producer = some id) :
    (relay.channelAt name).producer = none ∧
      (relay.Grants event id .announce ∨ relay.Grants event id .record) := by
  cases course with
  | kept same => exact (unheld (same.producer.symm.trans holds)).elim
  | taken free held granted =>
      obtain rfl := Option.some.inj (held.symm.trans holds)
      exact ⟨free, granted⟩
  | described held stays _ => exact (unheld (held.trans (stays.symm.trans holds))).elim
  | released _ free _ _ => exact nomatch free.symm.trans holds

theorem Course.of_released (course : relay.Course event after name)
    (held : (relay.channelAt name).producer = some id)
    (leaves : (after.channelAt name).producer ≠ some id) :
    (after.channelAt name).producer = none ∧ relay.Leaves event id := by
  cases course with
  | kept same => exact (leaves (same.producer.trans held)).elim
  | taken free _ _ => exact nomatch free.symm.trans held
  | described holds stays _ => exact (leaves (stays.trans (holds.symm.trans held))).elim
  | released holds free left _ =>
      obtain rfl := Option.some.inj (holds.symm.trans held)
      exact ⟨free, left⟩

/-- By induction on the run: the holder records in all its states, so it keeps its place. -/
theorem steady_run (identified : relay.Identified) (events : List Event)
    (held : (relay.channelAt name).producer = some id)
    (recording : ∀ earlier, earlier <+: events → (relay.afterAll earlier).Records id) :
    ((relay.afterAll events).channelAt name).producer = some id ∧
      ((relay.afterAll events).channelAt name).description = (relay.channelAt name).description ∧
      ((relay.afterAll events).channelAt name).raw = (relay.channelAt name).raw := by
  induction events generalizing relay with
  | nil => exact ⟨held, rfl, rfl⟩
  | cons event events ih =>
      have change := change_after relay event
      have same := (change.course identified name).steady held (recording [] List.nil_prefix)
        (recording [event] (List.prefix_append [event] events))
      have described := same.described (by rw [held]; rfl)
      obtain ⟨holds, description, raw⟩ := ih (change.identified identified)
        (same.producer.trans held) fun earlier first =>
          recording (event :: earlier) (List.cons_prefix_cons.mpr ⟨rfl, first⟩)
      exact ⟨holds, description.trans described.1, raw.trans described.2⟩

/-- **The producer's place is exclusive and stable** in every channel, whatever was done before. -/
theorem producerLock_reached (config : RelayConfig) (events : List Event) (name : Text) :
    (reached config events).ProducerLock name := by
  have identified := identified_reached config events
  have course (event : Event) := (change_after (reached config events) event).course identified name
  refine ⟨fun event id => (course event).of_taken, fun event id => (course event).of_released,
    fun event id held apart => ?_, fun later id => steady_run identified later⟩
  have kept := ((change_after _ event).keeps identified apart).channels name
  exact ⟨kept.produces.mpr held, kept.described held⟩

end Relay

end MediaRelay
