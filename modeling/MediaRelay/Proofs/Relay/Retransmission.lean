import MediaRelay.Proofs.Relay.Atomicity
import MediaRelay.Proofs.Relay.Retention
import MediaRelay.Proofs.Relay.SetUps

/-! # Requests that are sent again

A peer that does not get its reply sends the request again. What the first copy did stands when the
second one comes: the session is bound, the medium is in its place, the producer's place is its own,
and it has left or streams already. So whatever let the first copy through lets the second one
through, which finds nothing left to change (`Relay.Outcome.again`). Neither the state nor the reply
tells how often a request came (`Relay.retransmitted_request`).
-/

namespace MediaRelay

namespace Channel

theorem subscribe_subscribe (channel : Channel) (id : SessionId) :
    (channel.subscribe id).subscribe id = channel.subscribe id :=
  if_pos (mem_subscribers_subscribe.mpr (.inr rfl))

end Channel

namespace Registry

/-- A session that has left every channel leaves none when it leaves again, and the first sweep has
left no vacant channel to the second, as long as the handles are kept. -/
theorem teardown_teardown (registry : Registry) {held later : List ChannelId}
    (kept : ∀ handle ∈ held, handle ∈ later) (id : SessionId) :
    (registry.teardown held id).teardown later id = registry.teardown held id := by
  have left {name : Text} {slot : Slot}
      (found : (registry.teardown held id).slots.get? name = some slot) :
      slot.channel.remove id = slot.channel ∧ registry.retains later name slot = true := by
    obtain ⟨before, _, rfl, retained⟩ := slots_teardown_eq_some_iff.mp found
    refine ⟨Channel.remove_remove _ id, retains_iff.mpr ?_⟩
    exact (retains_iff.mp retained).imp_right (Or.imp_left (kept _))
  have removed : ((registry.teardown held id).slots.mapValues fun _ slot =>
      { slot with channel := slot.channel.remove id }) = (registry.teardown held id).slots := by
    refine Table.mapValues_eq_self fun name slot found => ?_
    rw [(left found).1]
  have retained : (registry.teardown held id).slots.filter (registry.retains later) =
      (registry.teardown held id).slots :=
    Table.filter_eq_self fun name slot found => (left found).2
  have again : (registry.teardown held id).removeEverywhere id = registry.teardown held id := by
    rw [removeEverywhere, removed]
  rw [teardown, again]
  exact congrArg (fun slots => { registry.teardown held id with slots }) retained

end Registry

namespace Negotiation

variable {negotiation changed : Negotiation} {name : Text} {description : Description}

@[simp] theorem mayBind_bind (negotiation : Negotiation) (name : Text) :
    (negotiation.bind name).mayBind name = true := by
  simp [mayBind, bind]

theorem pause_pause (negotiation : Negotiation) : negotiation.pause.pause = negotiation.pause := by
  have still := isStreaming_pause negotiation
  rw [pause, if_neg (by rw [still]; nofun)]

/-- A session that has become ready does not become ready again, and one that was not covered is not
covered. -/
theorem settle_settle (negotiation : Negotiation) (description : Description) :
    (negotiation.settle description).settle description = negotiation.settle description := by
  by_cases completed : negotiation.completes description = true
  · have ready : negotiation.settle description = { negotiation with state := .ready } :=
      if_pos completed
    have settled : ¬ completes { negotiation with state := .ready } description = true := by
      intro again
      cases (completes_iff.mp again).2
    rw [ready, settle, if_neg settled]
  · have same : negotiation.settle description = negotiation := if_neg completed
    rw [same, same]

end Negotiation

namespace Session.Admits

variable {session : Session} {method : Method} {request : Request}

/-- A session lets a request through again if the state that it is then in allows the method. -/
theorem again (admitted : session.Admits method request) {change : Negotiation → Negotiation}
    (allowed : method.allowedIn (change session.negotiation).state = true) :
    (session.negotiate change).Admits method request := by
  have unopposed := admitted.unopposed
  have same : (session.negotiate change).disowns? request = session.disowns? request := rfl
  refine ⟨admitted.known, ?_⟩
  unfold objection? at unopposed ⊢
  cases disowned : session.disowns? request with
  | some refusal => simp [disowned] at unopposed
  | none =>
      simp only [disowned, admitted.allowed, Bool.not_true, Bool.false_eq_true, ↓reduceIte]
        at unopposed
      rw [same, disowned]
      simp only [Session.negotiate, allowed, Bool.not_true, Bool.false_eq_true, ↓reduceIte,
        unopposed]

end Session.Admits

namespace Relay

variable {relay after : Relay} {session : Session} {request : Request} {name : Text}
  {channel : Channel}

theorem modifyChannel_eq_self (found : relay.registry.get? name = some channel)
    {change : Channel → Channel} (fixed : change channel = channel) :
    relay.modifyChannel name change = relay := by
  have same : relay.registry.slots.modify name
      (fun slot => { slot with channel := change slot.channel }) = relay.registry.slots := by
    refine Table.modify_eq_self fun slot stored => ?_
    have own : slot.channel = channel := by
      rw [Registry.get?, stored, Option.map_some] at found
      exact Option.some.inj found
    rw [own, fixed, ← own]
  rw [modifyChannel, Registry.modify, same]

theorem get?_modifyChannel (found : relay.registry.get? name = some channel)
    (change : Channel → Channel) :
    (relay.modifyChannel name change).registry.get? name = some (change channel) := by
  rw [modifyChannel, Registry.get?_modify, if_pos rfl, found, Option.map_some]

/-! ## What the second copy finds -/

theorem announcement_again {again : Session} {description : Description}
    (planned : Handler.announcement relay session request = .ok (description, name))
    (standing : after.registry.defaultChannel = relay.registry.defaultChannel)
    (free : again.negotiation.mayBind name = true) :
    Handler.announcement after again request = .ok (description, name) := by
  obtain ⟨_, typed, planned⟩ := bind_eq_ok_iff.mp planned
  obtain ⟨parsed, inBody, planned⟩ := bind_eq_ok_iff.mp planned
  obtain ⟨resolved, named, planned⟩ := bind_eq_ok_iff.mp planned
  have same : after.channelName request.uri = .ok resolved :=
    (channelName_congr standing request.uri).trans named
  by_cases bound : session.negotiation.mayBind resolved = true
  · simp only [bound, Bool.not_true, Bool.false_eq_true, ↓reduceIte, pure, Except.pure,
      Except.ok.injEq, Prod.mk.injEq] at planned
    obtain ⟨rfl, rfl⟩ := planned
    simp only [Handler.announcement, typed, inBody, same, free, bind, Except.bind, Bool.not_true,
      Bool.false_eq_true, ↓reduceIte, pure, Except.pure]
  · simp [bound, bind, Except.bind, throw, throwThe, MonadExceptOf.throw] at planned

/-- A session that is bound as before, has set up the same media and finds the same description can
stream as before. -/
theorem streamPlan_again {again : Session} {direction : Direction} {plan : Handler.StreamPlan}
    (planned : Handler.streamPlan direction relay session request = .ok plan)
    (bound : again.negotiation.channel = session.negotiation.channel)
    (media : again.negotiation.media = session.negotiation.media)
    (standing : after.registry.defaultChannel = relay.registry.defaultChannel)
    (found : after.registry.get? plan.name = some channel)
    (described : channel.description = plan.channel.description) :
    Handler.streamPlan direction after again request = .ok { plan with channel } := by
  obtain ⟨named, _, description, told, travels⟩ := streamPlan_ok planned
  have name : after.streamName again request = .ok plan.name := by
    rw [← named, streamName, streamName, bound, channelName_congr standing]
  have held := existing_eq_ok_iff.mpr found
  have tells : MediaRelay.described plan.name channel = .ok description :=
    described_eq_ok_iff.mpr (described.trans told)
  have checked : again.negotiation.checkMedia description direction = .ok plan.interleaved := by
    refine checkMedia_eq_ok_iff.mpr ?_
    rw [← travels, Negotiation.framing?, Negotiation.framing?, media]
  simp only [Handler.streamPlan, name, held, tells, checked, bind, Except.bind]
  rfl

/-- A medium that is set up again takes its own place. -/
theorem setUp_again {plan : Handler.SetupPlan} {negotiation changed : Negotiation}
    (fits : Handler.setUp plan (negotiation.bind plan.name) = .ok changed) :
    changed.mayBind plan.name = true ∧
      Handler.setUp plan (changed.bind plan.name) = .ok changed := by
  obtain ⟨media, asked, goes, rfl⟩ := setUp_eq_ok_iff.mp fits
  generalize bare : ({ negotiation.bind plan.name with
    media := (negotiation.bind plan.name).media.set plan.control media } : Negotiation) = installed
  have placed : installed.media.get? plan.control = some media := by
    rw [← bare, Table.get?_set, if_pos rfl]
  have bound : (installed.settle plan.description).channel = some plan.name := by
    rw [Negotiation.channel_settle, ← bare]
    rfl
  have rebound : (installed.settle plan.description).bind plan.name =
      installed.settle plan.description := by
    rw [Negotiation.bind, ← bound]
  have goes' : (installed.settle plan.description).mixes plan.control media = false := by
    rw [Negotiation.not_mixes_iff] at goes ⊢
    intro other held different listed
    rw [Negotiation.media_settle, ← bare, Table.get?_set, if_neg different] at listed
    exact goes other held different listed
  have renewed : { installed.settle plan.description with
      media := (installed.settle plan.description).media.set plan.control media } =
        installed.settle plan.description := by
    rw [Negotiation.media_settle, Table.set_eq_self placed, ← Negotiation.media_settle]
  refine ⟨Negotiation.mayBind_iff.mpr fun current held => ?_, ?_⟩
  · exact Option.some.inj (held.symm.trans bound)
  rw [rebound]
  refine setUp_eq_ok_iff.mpr ⟨media, asked, goes', ?_⟩
  rw [renewed, Negotiation.settle_settle]

/-- A session that may pause may pause when it has paused. -/
theorem allowedIn_pause {negotiation : Negotiation}
    (allowed : Method.pause.allowedIn negotiation.state = true) :
    Method.pause.allowedIn negotiation.pause.state = true := by
  unfold Negotiation.pause
  split
  · rfl
  · exact allowed

/-! ## Requests whose effect stands -/

theorem announce_stands {description : Description} (admitted : session.Admits .announce request)
    (planned : Handler.announcement relay session request = .ok (description, name))
    (found : relay.session? session.id = some session)
    (registered : relay.registry.get? name = some channel)
    (told : channel.describe? session.id description request.body = some channel)
    (bound : session.negotiation.bind name = session.negotiation) :
    relay.dispatch Handlers.standard session request =
      (relay, .ok ⟨relay.granted session, false⟩) := by
  have same : (relay.modifyChannel name fun _ => channel) = relay :=
    modifyChannel_eq_self registered rfl
  rw [dispatch_of_admits admitted rfl]
  simp only [Handler.announce, planned, ensureChannel_of_found registered, registered,
    Option.bind_some, told, same]
  rw [negotiate_eq_self found bound]

theorem bind_stands {plan : Handler.SetupPlan} {refusal : Refusal}
    (admitted : session.Admits .setup request)
    (planned : Handler.setupPlan relay request = .ok plan)
    (found : relay.session? session.id = some session)
    (bound : session.negotiation.bind plan.name = session.negotiation)
    (misfit : Handler.setUp plan (session.negotiation.bind plan.name) = .error refusal) :
    relay.dispatch Handlers.standard session request = (relay, .error refusal) := by
  have free : session.negotiation.mayBind plan.name = true := bound ▸ Negotiation.mayBind_bind _ _
  rw [dispatch_of_admits admitted rfl]
  simp only [Handler.setup, planned, free, misfit, Bool.not_true, Bool.false_eq_true, ↓reduceIte]
  rw [negotiate_eq_self found bound]

theorem setUp_stands {plan : Handler.SetupPlan} (admitted : session.Admits .setup request)
    (planned : Handler.setupPlan relay request = .ok plan)
    (found : relay.session? session.id = some session)
    (free : session.negotiation.mayBind plan.name = true)
    (fits : Handler.setUp plan (session.negotiation.bind plan.name) = .ok session.negotiation) :
    relay.dispatch Handlers.standard session request =
      (relay, (Handler.grantedTransport relay plan.transport).map fun transport =>
        ⟨((Response.new .ok).add "Transport".toList transport.render).add "Session".toList
          (relay.sessionValue session), false⟩) := by
  have same : (relay.negotiate session.id fun _ => session.negotiation) = relay :=
    negotiate_eq_self found rfl
  rw [dispatch_of_admits admitted rfl]
  simp only [Handler.setup, planned, free, fits, Bool.not_true, Bool.false_eq_true, ↓reduceIte,
    same]
  cases Handler.grantedTransport relay plan.transport <;> rfl

/-- A medium that is set up stands, whether or not there is a port for it. -/
theorem setUp_stands_again {plan : Handler.SetupPlan} {negotiation : Negotiation}
    (admitted : session.Admits .setup request)
    (planned : Handler.setupPlan relay request = .ok plan)
    (found : relay.session? session.id = some session)
    (fits : Handler.setUp plan (session.negotiation.bind plan.name) = .ok negotiation) :
    (relay.negotiate session.id fun _ => negotiation).dispatch Handlers.standard
        (session.negotiate fun _ => negotiation) request =
      (relay.negotiate session.id fun _ => negotiation,
        (Handler.grantedTransport relay plan.transport).map fun transport =>
          ⟨((Response.new .ok).add "Transport".toList transport.render).add "Session".toList
            (relay.sessionValue session), false⟩) := by
  have planned' : Handler.setupPlan (relay.negotiate session.id fun _ => negotiation) request =
      .ok plan := planned
  obtain ⟨free, again⟩ := setUp_again fits
  exact setUp_stands (admitted.again rfl) planned' (session?_negotiate_self found _) free again

theorem record_stands {plan : Handler.StreamPlan} (admitted : session.Admits .record request)
    (planned : Handler.streamPlan .record relay session request = .ok plan)
    (found : relay.session? session.id = some session)
    (held : plan.channel.claim? session.id = some plan.channel)
    (started : session.negotiation.start .record plan.interleaved = session.negotiation) :
    relay.dispatch Handlers.standard session request =
      (relay, .ok ⟨relay.granted session, false⟩) := by
  have same : (relay.modifyChannel plan.name fun _ => plan.channel) = relay :=
    modifyChannel_eq_self (streamPlan_ok planned).2.1 rfl
  rw [dispatch_of_admits admitted rfl]
  simp only [Handler.record, planned, held, same]
  rw [negotiate_eq_self found started]

theorem play_stands {plan : Handler.StreamPlan} (admitted : session.Admits .play request)
    (planned : Handler.streamPlan .play relay session request = .ok plan)
    (found : relay.session? session.id = some session)
    (listed : plan.channel.subscribe session.id = plan.channel)
    (started : session.negotiation.start .play plan.interleaved = session.negotiation) :
    relay.dispatch Handlers.standard session request =
      (relay, .ok ⟨(relay.granted session).add "Range".toList "npt=0.000-".toList, false⟩) := by
  have registered := (streamPlan_ok planned).2.1
  rw [dispatch_of_admits admitted rfl]
  simp only [Handler.play, planned]
  rw [negotiate_eq_self found started, modifyChannel_eq_self registered listed]

theorem pause_stands (admitted : session.Admits .pause request)
    (found : relay.session? session.id = some session)
    (paused : session.negotiation.pause = session.negotiation) :
    relay.dispatch Handlers.standard session request =
      (relay, .ok ⟨relay.granted session, false⟩) := by
  rw [dispatch_of_admits admitted rfl]
  simp only [Handler.pause]
  rw [negotiate_eq_self found paused]

theorem teardown_stands (admitted : session.Admits .teardown request)
    (found : relay.session? session.id = some session)
    (left : relay.teardown session.id = relay)
    (cleared : session.negotiation.clear = session.negotiation) :
    relay.dispatch Handlers.standard session request =
      (relay, .ok ⟨relay.granted session, true⟩) := by
  rw [dispatch_of_admits admitted rfl]
  simp only [Handler.teardown, left]
  rw [negotiate_eq_self found cleared]

/-- **The second copy of a request finds nothing left to do** and is answered like the first. -/
theorem Outcome.again {result : Except Refusal Reply}
    (outcome : relay.Outcome session request after result)
    (dispatched : relay.dispatch Handlers.standard session request = (after, result))
    (found : relay.session? session.id = some session) :
    ∃ again, after.session? session.id = some again ∧
      after.dispatch Handlers.standard again request = (after, result) := by
  cases outcome with
  | refused _ => exact ⟨session, found, dispatched⟩
  | informed _ _ _ _ => exact ⟨session, found, dispatched⟩
  | announced admitted planned free =>
      refine ⟨_, session?_negotiate_self found _, ?_⟩
      refine announce_stands (admitted.again admitted.allowed)
        (announcement_again planned (defaultChannel_ensure relay.registry _)
          (Negotiation.mayBind_bind _ _)) (session?_negotiate_self found _)
        (get?_modifyChannel (get?_ensureChannel relay _) _) ?_ rfl
      rw [Channel.describe?, Channel.claim?_of_held rfl]
      rfl
  | boundOnly admitted planned free misfit =>
      refine ⟨_, session?_negotiate_self found _, ?_⟩
      exact bind_stands (admitted.again rfl) planned (session?_negotiate_self found _) rfl misfit
  | ungranted admitted planned _ fits withheld =>
      refine ⟨_, session?_negotiate_self found _, ?_⟩
      rw [setUp_stands_again admitted planned found fits, withheld]
      rfl
  | setUp admitted planned _ fits given =>
      refine ⟨_, session?_negotiate_self found _, ?_⟩
      rw [setUp_stands_again admitted planned found fits, given]
      rfl
  | recorded admitted planned _ =>
      have registered := (streamPlan_ok planned).2.1
      refine ⟨_, session?_negotiate_self found _, ?_⟩
      exact record_stands (admitted.again rfl)
        (streamPlan_again planned rfl rfl rfl (get?_modifyChannel registered _) rfl)
        (session?_negotiate_self found _) (Channel.claim?_of_held rfl) rfl
  | played admitted planned =>
      have registered := (streamPlan_ok planned).2.1
      refine ⟨_, session?_negotiate_self found _, ?_⟩
      exact play_stands (admitted.again rfl)
        (streamPlan_again planned rfl rfl rfl (get?_modifyChannel registered _)
          (by rw [Channel.subscribe_eq]))
        (session?_negotiate_self found _) (Channel.subscribe_subscribe _ _) rfl
  | paused admitted =>
      refine ⟨_, session?_negotiate_self found _, ?_⟩
      exact pause_stands (admitted.again (allowedIn_pause admitted.allowed))
        (session?_negotiate_self found _) (Negotiation.pause_pause _)
  | tornDown admitted =>
      have stays : (relay.teardown session.id).session? session.id = some session := found
      refine ⟨_, session?_negotiate_self stays _, ?_⟩
      refine teardown_stands (admitted.again rfl) (session?_negotiate_self stays _) ?_ rfl
      exact congrArg (fun registry => { (relay.teardown session.id).negotiate session.id
        Negotiation.clear with registry }) (Registry.teardown_teardown _ (fun _ => id) _)

/-- **However often a request is sent, it counts once.** The session that repeats it right away gets
the same reply, and the relay stays as the first copy left it. -/
theorem retransmitted_request (config : RelayConfig) (events : List Event) (id : SessionId)
    (request : Request) :
    (reached config (events ++ [.requested id request])).after (.requested id request) =
        reached config (events ++ [.requested id request]) ∧
      (reached config (events ++ [.requested id request])).reply? (.requested id request) =
        (reached config events).reply? (.requested id request) := by
  rw [reached_concat]
  cases found : (reached config events).session? id with
  | none =>
      have idle :
          (reached config events).after (.requested id request) = reached config events := by
        simp only [Relay.after, found]
      rw [idle]
      exact ⟨idle, rfl⟩
  | some session =>
      obtain rfl := identified_reached config events id session found
      have outcome := outcome_dispatch (reached config events) session request
      obtain ⟨again, listed, same⟩ := outcome.again rfl found
      have first := after_requested found request
      rw [route_eq] at first
      rw [← first] at listed same
      rw [after_requested listed, reply?_requested listed, reply?_requested found, route_eq,
        route_eq, same]
      exact ⟨rfl, rfl⟩

end Relay

end MediaRelay
