import MediaRelay.Dispatch.Standard

/-! # What a request can lead to

A request of a session is refused, answered without effect or carried out by the handler of its
method. `Relay.Outcome` has a case for each of these, with the relay that is left behind and what
was checked before; `Relay.outcome_dispatch` says that there are no others. Facts about all
requests split on the cases and do not look at the handlers.
-/

namespace MediaRelay

namespace Method

/-- Whether a method only asks for something. -/
def isQuery (method : Method) : Bool :=
  method = .options || method = .describe || method = .getParameter

end Method

namespace Session

/-- A request whose method is known and which the session lets through to the handler. -/
structure Admits (session : Session) (method : Method) (request : Request) : Prop where
  known : request.known? = some method
  unopposed : session.objection? method request = none

theorem Admits.allowed {session : Session} {method : Method} {request : Request}
    (admitted : session.Admits method request) :
    method.allowedIn session.negotiation.state = true := by
  have unopposed := admitted.unopposed
  unfold objection? at unopposed
  cases disowned : session.disowns? request with
  | some refusal => simp [disowned] at unopposed
  | none =>
      by_cases allowed : method.allowedIn session.negotiation.state = true
      · exact allowed
      · simp [disowned, allowed] at unopposed

end Session

namespace Relay

/-- The cases of what a request leaves behind and is answered with. -/
inductive Outcome (relay : Relay) (session : Session) (request : Request) :
    Relay → Except Refusal Reply → Prop where
  | refused (refusal : Refusal) : Outcome relay session request relay (.error refusal)
  | informed {method : Method} {reply : Reply} (admitted : session.Admits method request)
      (query : method.isQuery = true) (success : reply.response.status = .ok)
      (stays : reply.closes = false) : Outcome relay session request relay (.ok reply)
  | announced {description : Description} {name : Text} (admitted : session.Admits .announce request)
      (planned : Handler.announcement relay session request = .ok (description, name))
      (free : ((relay.registry.get? name).getD .vacant).lockedFor session.id = false) :
      Outcome relay session request
        (((relay.ensureChannel name).modifyChannel name fun _ =>
          { (relay.registry.get? name).getD .vacant with
            producer := some session.id
            description := some description
            raw := some request.body }).negotiate session.id fun negotiation =>
              negotiation.bind name)
        (.ok ⟨relay.granted session, false⟩)
  /-- The medium does not go with those set up before, but the session is bound already. -/
  | boundOnly {plan : Handler.SetupPlan} {refusal : Refusal}
      (admitted : session.Admits .setup request)
      (planned : Handler.setupPlan relay request = .ok plan)
      (free : session.negotiation.mayBind plan.name = true)
      (misfit : Handler.setUp plan (session.negotiation.bind plan.name) = .error refusal) :
      Outcome relay session request
        (relay.negotiate session.id fun _ => session.negotiation.bind plan.name) (.error refusal)
  /-- There is no port for the medium, but it has been set up already. -/
  | ungranted {plan : Handler.SetupPlan} {negotiation : Negotiation} {refusal : Refusal}
      (admitted : session.Admits .setup request)
      (planned : Handler.setupPlan relay request = .ok plan)
      (free : session.negotiation.mayBind plan.name = true)
      (fits : Handler.setUp plan (session.negotiation.bind plan.name) = .ok negotiation)
      (withheld : Handler.grantedTransport relay plan.transport = .error refusal) :
      Outcome relay session request (relay.negotiate session.id fun _ => negotiation)
        (.error refusal)
  | setUp {plan : Handler.SetupPlan} {negotiation : Negotiation} {transport : Transport}
      (admitted : session.Admits .setup request)
      (planned : Handler.setupPlan relay request = .ok plan)
      (free : session.negotiation.mayBind plan.name = true)
      (fits : Handler.setUp plan (session.negotiation.bind plan.name) = .ok negotiation)
      (given : Handler.grantedTransport relay plan.transport = .ok transport) :
      Outcome relay session request (relay.negotiate session.id fun _ => negotiation)
        (.ok ⟨((Response.new .ok).add "Transport".toList transport.render).add "Session".toList
          (relay.sessionValue session), false⟩)
  | recorded {plan : Handler.StreamPlan} (admitted : session.Admits .record request)
      (planned : Handler.streamPlan .record relay session request = .ok plan)
      (free : plan.channel.lockedFor session.id = false) :
      Outcome relay session request
        ((relay.modifyChannel plan.name fun _ =>
          { plan.channel with producer := some session.id }).negotiate session.id
            fun negotiation => negotiation.start .record plan.interleaved)
        (.ok ⟨relay.granted session, false⟩)
  | played {plan : Handler.StreamPlan} (admitted : session.Admits .play request)
      (planned : Handler.streamPlan .play relay session request = .ok plan) :
      Outcome relay session request
        ((relay.negotiate session.id fun negotiation =>
          negotiation.start .play plan.interleaved).modifyChannel plan.name
            fun channel => channel.subscribe session.id)
        (.ok ⟨(relay.granted session).add "Range".toList "npt=0.000-".toList, false⟩)
  | paused (admitted : session.Admits .pause request) :
      Outcome relay session request (relay.negotiate session.id Negotiation.pause)
        (.ok ⟨relay.granted session, false⟩)
  | tornDown (admitted : session.Admits .teardown request) :
      Outcome relay session request
        ((relay.teardown session.id).negotiate session.id Negotiation.clear)
        (.ok ⟨relay.granted session, true⟩)

variable {relay : Relay} {session : Session} {request : Request} {methods : List Method}

/-! ## What the handlers have checked -/

/-- Which channel a target addresses depends on the default only. -/
theorem channelName_congr {other : Relay}
    (standing : other.registry.defaultChannel = relay.registry.defaultChannel) (uri : Text) :
    other.channelName uri = relay.channelName uri := by
  rw [channelName, channelName, Registry.resolve?, Registry.resolve?, standing]

theorem existing_eq_ok_iff {name : Text} {channel : Channel} :
    relay.existing name = .ok channel ↔ relay.registry.get? name = some channel := by
  unfold existing
  cases relay.registry.get? name <;> simp

theorem described_eq_ok_iff {name : Text} {channel : Channel} {description : Description} :
    described name channel = .ok description ↔ channel.description = some description := by
  unfold described
  cases channel.description <;> simp

theorem checkMedia_eq_ok_iff {negotiation : Negotiation} {description : Description}
    {direction : Direction} {interleaved : Bool} :
    negotiation.checkMedia description direction = .ok interleaved ↔
      negotiation.framing? description direction = some interleaved := by
  unfold Negotiation.checkMedia
  cases negotiation.framing? description direction <;> simp

theorem describeReply_ok {reply : Reply} (described : Handler.describeReply relay request = .ok reply) :
    ∃ name channel raw, relay.channelName request.uri = .ok name ∧
      relay.registry.get? name = some channel ∧ channel.raw = some raw ∧
      reply = ⟨((((Response.new .ok).add "Content-Type".toList descriptionType).add
        "Content-Base".toList request.uri).withBody raw), false⟩ := by
  obtain ⟨name, named, described⟩ := bind_eq_ok_iff.mp described
  obtain ⟨channel, found, described⟩ := bind_eq_ok_iff.mp described
  cases held : channel.raw with
  | none => simp [held, throw, throwThe, MonadExceptOf.throw] at described
  | some raw =>
      simp only [held, pure, Except.pure, Except.ok.injEq] at described
      exact ⟨name, channel, raw, named, existing_eq_ok_iff.mp found, held, described.symm⟩

theorem announcement_ok {description : Description} {name : Text}
    (planned : Handler.announcement relay session request = .ok (description, name)) :
    Description.parse request.body = .ok description ∧
      relay.channelName request.uri = .ok name ∧ session.negotiation.mayBind name = true := by
  obtain ⟨_, _, planned⟩ := bind_eq_ok_iff.mp planned
  obtain ⟨parsed, inBody, planned⟩ := bind_eq_ok_iff.mp planned
  obtain ⟨resolved, named, planned⟩ := bind_eq_ok_iff.mp planned
  have body : Description.parse request.body = .ok parsed := by
    unfold Handler.bodyDescription at inBody
    cases read : Description.parse request.body with
    | error error => simp [read] at inBody
    | ok found => simpa [read] using inBody
  by_cases free : session.negotiation.mayBind resolved = true
  · simp only [free, Bool.not_true, Bool.false_eq_true, ↓reduceIte, pure, Except.pure,
      Except.ok.injEq, Prod.mk.injEq] at planned
    obtain ⟨rfl, rfl⟩ := planned
    exact ⟨body, named, free⟩
  · simp [free, bind, Except.bind, throw, throwThe, MonadExceptOf.throw] at planned

theorem setupPlan_ok {plan : Handler.SetupPlan}
    (planned : Handler.setupPlan relay request = .ok plan) :
    request.transport = .ok plan.transport ∧ relay.channelName request.uri = .ok plan.name ∧
      (∃ channel, relay.registry.get? plan.name = some channel ∧
        channel.description = some plan.description) ∧
      Handler.position? plan.description (Target.ofUri request.uri).control = some plan.ordinal ∧
      plan.description.controls[plan.ordinal]? = some plan.control := by
  obtain ⟨transport, asked, planned⟩ := bind_eq_ok_iff.mp planned
  obtain ⟨name, named, planned⟩ := bind_eq_ok_iff.mp planned
  obtain ⟨channel, found, planned⟩ := bind_eq_ok_iff.mp planned
  obtain ⟨description, told, planned⟩ := bind_eq_ok_iff.mp planned
  split at planned
  · rename_i ordinal control placed
    obtain ⟨position, first, second⟩ := Option.bind_eq_some_iff.mp placed
    obtain ⟨held, listed, same⟩ := Option.map_eq_some_iff.mp second
    simp only [Prod.mk.injEq] at same
    obtain ⟨rfl, rfl⟩ := same
    simp only [pure, Except.pure, Except.ok.injEq] at planned
    subst planned
    exact ⟨asked, named, ⟨channel, existing_eq_ok_iff.mp found, described_eq_ok_iff.mp told⟩,
      first, listed⟩
  · simp [throw, throwThe, MonadExceptOf.throw] at planned

/-- A medium that is set up goes with those of other controls and takes the place of its own. -/
theorem setUp_eq_ok_iff {plan : Handler.SetupPlan} {negotiation changed : Negotiation} :
    Handler.setUp plan negotiation = .ok changed ↔
      ∃ media, Media.ofTransport? (.ofNat plan.ordinal) plan.transport = some media ∧
        negotiation.mixes plan.control media = false ∧
        changed = Negotiation.settle
          { negotiation with media := negotiation.media.set plan.control media }
          plan.description := by
  unfold Handler.setUp
  cases asked : Media.ofTransport? (.ofNat plan.ordinal) plan.transport with
  | none => simp
  | some media =>
      constructor
      · intro fits
        obtain ⟨answer, added, rfl⟩ := map_eq_ok_iff.mp fits
        obtain ⟨goes, same, _⟩ := Negotiation.addMedia_eq_ok_iff.mp added
        exact ⟨media, rfl, goes, same⟩
      · rintro ⟨other, same, goes, rfl⟩
        obtain rfl := Option.some.inj same
        have added : negotiation.addMedia plan.control media plan.description = .ok (_, _) :=
          Negotiation.addMedia_eq_ok_iff.mpr ⟨goes, rfl, rfl⟩
        exact map_eq_ok_iff.mpr ⟨_, added, rfl⟩

theorem streamPlan_ok {direction : Direction} {plan : Handler.StreamPlan}
    (planned : Handler.streamPlan direction relay session request = .ok plan) :
    relay.streamName session request = .ok plan.name ∧
      relay.registry.get? plan.name = some plan.channel ∧
      ∃ description, plan.channel.description = some description ∧
        session.negotiation.framing? description direction = some plan.interleaved := by
  obtain ⟨name, named, planned⟩ := bind_eq_ok_iff.mp planned
  obtain ⟨channel, found, planned⟩ := bind_eq_ok_iff.mp planned
  obtain ⟨description, told, planned⟩ := bind_eq_ok_iff.mp planned
  obtain ⟨interleaved, checked, planned⟩ := bind_eq_ok_iff.mp planned
  simp only [pure, Except.pure, Except.ok.injEq] at planned
  subst planned
  exact ⟨named, existing_eq_ok_iff.mp found, description, described_eq_ok_iff.mp told,
    checkMedia_eq_ok_iff.mp checked⟩

/-! ## There are no other cases -/

private theorem outcome_describe (admitted : session.Admits .describe request) :
    relay.Outcome session request (Handler.describe methods relay session request).1
      (Handler.describe methods relay session request).2 := by
  simp only [Handler.describe]
  cases described : Handler.describeReply relay request with
  | error refusal => exact .refused refusal
  | ok reply =>
      obtain ⟨_, _, _, _, _, _, rfl⟩ := describeReply_ok described
      exact .informed admitted rfl rfl rfl

theorem ensureChannel_of_found {name : Text} {channel : Channel}
    (found : relay.registry.get? name = some channel) : relay.ensureChannel name = relay := by
  have held : relay.registry.slots.contains name = true := by
    obtain ⟨slot, stored, _⟩ := Option.map_eq_some_iff.mp found
    simp [Table.contains, stored]
  simp [ensureChannel, Registry.ensure, held]

private theorem outcome_announce (admitted : session.Admits .announce request) :
    relay.Outcome session request (Handler.announce methods relay session request).1
      (Handler.announce methods relay session request).2 := by
  unfold Handler.announce
  cases planned : Handler.announcement relay session request with
  | error refusal => exact .refused refusal
  | ok plan =>
      obtain ⟨description, name⟩ := plan
      have ensured : (relay.ensureChannel name).registry.get? name =
          some ((relay.registry.get? name).getD .vacant) := by
        simp [ensureChannel, Registry.get?_ensure]
      simp only [ensured, Option.bind_some, Channel.describe?, Channel.claim?]
      by_cases locked : ((relay.registry.get? name).getD .vacant).lockedFor session.id = true
      · -- A channel that another session holds was registered before, so none has been added.
        cases found : relay.registry.get? name with
        | none => simp [found, Channel.lockedFor, Channel.vacant] at locked
        | some channel =>
            rw [found, Option.getD_some] at locked
            simp only [Option.getD_some, locked, ↓reduceIte, Option.map_none,
              ensureChannel_of_found found]
            exact .refused _
      · simp only [locked, Bool.false_eq_true, ↓reduceIte, Option.map_some]
        exact .announced admitted planned (by simpa using locked)

private theorem outcome_setup (admitted : session.Admits .setup request) :
    relay.Outcome session request (Handler.setup methods relay session request).1
      (Handler.setup methods relay session request).2 := by
  unfold Handler.setup
  cases planned : Handler.setupPlan relay request with
  | error refusal => exact .refused refusal
  | ok plan =>
      by_cases free : session.negotiation.mayBind plan.name = true
      · simp only [free, Bool.not_true, Bool.false_eq_true, ↓reduceIte]
        cases fits : Handler.setUp plan (session.negotiation.bind plan.name) with
        | error refusal => exact .boundOnly admitted planned free fits
        | ok negotiation =>
            -- What is granted does not depend on what sessions have negotiated.
            have apart : Handler.grantedTransport
                (relay.negotiate session.id fun _ => negotiation) plan.transport =
                  Handler.grantedTransport relay plan.transport := rfl
            simp only [apart]
            cases given : Handler.grantedTransport relay plan.transport with
            | error refusal => exact .ungranted admitted planned free fits given
            | ok transport => exact .setUp admitted planned free fits given
      · simp only [free, Bool.not_false, ↓reduceIte]
        exact .refused _

private theorem outcome_record (admitted : session.Admits .record request) :
    relay.Outcome session request (Handler.record methods relay session request).1
      (Handler.record methods relay session request).2 := by
  unfold Handler.record
  cases planned : Handler.streamPlan .record relay session request with
  | error refusal => exact .refused refusal
  | ok plan =>
      by_cases locked : plan.channel.lockedFor session.id = true
      · simp only [Channel.claim?, locked, ↓reduceIte]
        exact .refused _
      · simp only [Channel.claim?, locked, Bool.false_eq_true, ↓reduceIte]
        exact .recorded admitted planned (by simpa using locked)

private theorem outcome_play (admitted : session.Admits .play request) :
    relay.Outcome session request (Handler.play methods relay session request).1
      (Handler.play methods relay session request).2 := by
  unfold Handler.play
  cases planned : Handler.streamPlan .play relay session request with
  | error refusal => exact .refused refusal
  | ok plan => exact .played admitted planned

private theorem outcome_handler {method : Method} {handler : Handler}
    (found : Handlers.standard method = some handler) (admitted : session.Admits method request) :
    relay.Outcome session request (handler methods relay session request).1
      (handler methods relay session request).2 := by
  cases method with
  | options => cases found; exact .informed admitted rfl rfl rfl
  | describe => cases found; exact outcome_describe admitted
  | announce => cases found; exact outcome_announce admitted
  | setup => cases found; exact outcome_setup admitted
  | play => cases found; exact outcome_play admitted
  | pause => cases found; exact .paused admitted
  | record => cases found; exact outcome_record admitted
  | teardown => cases found; exact .tornDown admitted
  | getParameter =>
      cases found
      refine .informed admitted rfl ?_ rfl
      by_cases named : request.sessionId?.isSome = true
      · simp [named, granted, Response.add, Response.new]
      · simp [named, Response.new]

theorem served (method : Method) : ∃ handler, Handlers.standard method = some handler := by
  cases method <;> exact ⟨_, rfl⟩

theorem dispatch_of_admits {method : Method} {handler : Handler}
    (admitted : session.Admits method request)
    (served : Handlers.standard method = some handler) :
    relay.dispatch Handlers.standard session request =
      handler Handlers.standard.methods relay session request := by
  simp only [dispatch, admitted.known, served, admitted.unopposed]

theorem dispatch_of_opposed {method : Method} {refusal : Refusal} (known : request.known? = some method)
    (opposed : session.objection? method request = some refusal) :
    relay.dispatch Handlers.standard session request = (relay, .error refusal) := by
  obtain ⟨handler, found⟩ := served method
  simp only [dispatch, known, found, opposed]

/-- Every request of a session leads to one of the cases. -/
theorem outcome_dispatch (relay : Relay) (session : Session) (request : Request) :
    relay.Outcome session request (relay.dispatch Handlers.standard session request).1
      (relay.dispatch Handlers.standard session request).2 := by
  unfold dispatch
  cases known : request.known? with
  | none => exact .refused _
  | some method =>
      obtain ⟨handler, found⟩ := served method
      cases unopposed : session.objection? method request with
      | some refusal => simpa only [found, unopposed] using .refused refusal
      | none => simpa only [found, unopposed] using outcome_handler found ⟨known, unopposed⟩

/-! ## What is answered -/

/-- The reply to a request before the request's number is put into it. -/
def unnumbered (result : Except Refusal Reply) : Reply :=
  match result with
  | .ok reply => reply
  | .error refusal => refusal.reply Handlers.standard.methods

theorem route_eq (relay : Relay) (session : Session) (request : Request) :
    relay.route Handlers.standard session request =
      ((relay.dispatch Handlers.standard session request).1,
        numbered request (unnumbered (relay.dispatch Handlers.standard session request).2)) := by
  unfold route unnumbered
  cases answered : relay.dispatch Handlers.standard session request with
  | mk after result => cases result <;> rfl

@[simp] theorem status_numbered (request : Request) (reply : Reply) :
    (numbered request reply).response.status = reply.response.status := by
  unfold numbered
  cases request.cseq? <;> rfl

@[simp] theorem closes_numbered (request : Request) (reply : Reply) :
    (numbered request reply).closes = reply.closes := by
  unfold numbered
  cases request.cseq? <;> rfl

@[simp] theorem body_numbered (request : Request) (reply : Reply) :
    (numbered request reply).response.body = reply.response.body := by
  unfold numbered
  cases request.cseq? <;> rfl

theorem status_reply (refusal : Refusal) (methods : List Method) :
    (refusal.reply methods).response.status = refusal.status := by
  cases refusal <;> rfl

theorem closes_reply (refusal : Refusal) (methods : List Method) :
    (refusal.reply methods).closes = false := by
  cases refusal <;> rfl

theorem Outcome.status_ok {after : Relay} {reply : Reply}
    (outcome : relay.Outcome session request after (.ok reply)) : reply.response.status = .ok := by
  cases outcome with
  | informed _ _ success _ => exact success
  | _ => rfl

/-- A request is answered with success if and only if it is not refused. -/
theorem status_route_ok_iff :
    (relay.route Handlers.standard session request).2.response.status = .ok ↔
      ∃ reply, (relay.dispatch Handlers.standard session request).2 = .ok reply := by
  have outcome := outcome_dispatch relay session request
  rw [route_eq, status_numbered]
  cases answered : (relay.dispatch Handlers.standard session request).2 with
  | ok reply =>
      rw [answered] at outcome
      simpa [unnumbered] using outcome.status_ok
  | error refusal => simpa [unnumbered, status_reply] using refusal.status_ne_ok

end Relay

end MediaRelay
