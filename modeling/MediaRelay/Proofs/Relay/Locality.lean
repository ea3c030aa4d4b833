import MediaRelay.Proofs.Relay.Retention

/-! # What a request is about

A session touches the channel that it is bound to and the one that its request addresses. Two relays
look the same to it if these channels, the session itself and what surrounds all sessions are the
same (`Relay.SameView`). Then its request is answered alike in both and leaves them looking the same
(`SameView.dispatch`). No other channel and no other session changes (`Outcome.elsewhere`).
-/

namespace MediaRelay

namespace Relay

/-- A session touches a channel by a request: it is bound to it, or the request addresses it. -/
def Touches (relay : Relay) (session : Session) (request : Request) (name : Text) : Prop :=
  session.negotiation.channel = some name ∨ relay.channelName request.uri = .ok name

/-- The relay without its channels and its sessions. -/
def surroundings (relay : Relay) : Relay :=
  { relay with
    registry := { defaultChannel := relay.registry.defaultChannel }
    sessions := {} }

/-- Two relays in which a session that touches no other names sees the same. -/
structure SameView (touched : Text → Prop) (id : SessionId) (left right : Relay) : Prop where
  surroundings : left.surroundings = right.surroundings
  session : left.session? id = right.session? id
  channels : ∀ name, touched name → left.channelAt name = right.channelAt name

variable {touched : Text → Prop} {id : SessionId} {left right relay after : Relay}
  {session : Session} {request : Request} {name : Text}

/-! ## What a request depends on -/

theorem SameView.symm (view : SameView touched id left right) : SameView touched id right left where
  surroundings := view.surroundings.symm
  session := view.session.symm
  channels := by
    intro name touches
    exact (view.channels name touches).symm

theorem SameView.trans {middle : Relay} (first : SameView touched id left middle)
    (second : SameView touched id middle right) : SameView touched id left right where
  surroundings := first.surroundings.trans second.surroundings
  session := first.session.trans second.session
  channels := by
    intro name touches
    exact (first.channels name touches).trans (second.channels name touches)

theorem defaultChannel_of_surroundings (same : left.surroundings = right.surroundings) :
    left.registry.defaultChannel = right.registry.defaultChannel := by
  have standing : left.surroundings.registry.defaultChannel =
      right.surroundings.registry.defaultChannel := by rw [same]
  exact standing

theorem SameView.channelName_eq (view : SameView touched id left right) (uri : Text) :
    left.channelName uri = right.channelName uri :=
  channelName_congr (defaultChannel_of_surroundings view.surroundings) uri

theorem SameView.sessionValue_eq (view : SameView touched id left right) (session : Session) :
    left.sessionValue session = right.sessionValue session := by
  have timeout : left.surroundings.timeout = right.surroundings.timeout := by
    rw [view.surroundings]
  exact congrArg (fun timeout => session.headerValue (timeout / 1000)) timeout

theorem SameView.granted_eq (view : SameView touched id left right) (session : Session) :
    left.granted session = right.granted session := by
  rw [granted, granted, view.sessionValue_eq session]

theorem SameView.grantedTransport_eq (view : SameView touched id left right)
    (transport : Transport) :
    Handler.grantedTransport left transport = Handler.grantedTransport right transport := by
  have ports : left.surroundings.ports = right.surroundings.ports := by
    rw [view.surroundings]
  rw [Handler.grantedTransport, Handler.grantedTransport, show left.ports = right.ports from ports]

theorem SameView.get?_eq (view : SameView touched id left right) (first : left.Tidy)
    (second : right.Tidy) (touches : touched name) :
    left.registry.get? name = right.registry.get? name :=
  second.get?_eq first (defaultChannel_of_surroundings view.surroundings)
    (view.channels name touches)

theorem SameView.negotiate (view : SameView touched id left right) (actor : SessionId)
    (change : Negotiation → Negotiation) :
    SameView touched id (left.negotiate actor change) (right.negotiate actor change) where
  surroundings := view.surroundings
  session := by rw [session?_negotiate, session?_negotiate, view.session]
  channels := view.channels

theorem surroundings_ensureChannel (relay : Relay) (name : Text) :
    (relay.ensureChannel name).surroundings = relay.surroundings := by
  unfold ensureChannel surroundings
  rw [defaultChannel_ensure]

theorem SameView.ensured (view : SameView touched id left right) (addressed : Text) :
    SameView touched id (left.ensureChannel addressed) (right.ensureChannel addressed) where
  surroundings := by
    rw [surroundings_ensureChannel, surroundings_ensureChannel, view.surroundings]
  session := view.session
  channels := by
    intro name touches
    rw [channelAt_ensureChannel, channelAt_ensureChannel, view.channels name touches]

theorem SameView.replaced (view : SameView touched id left right) (addressed : Text)
    (channel : Channel) :
    SameView touched id ((left.ensureChannel addressed).modifyChannel addressed fun _ => channel)
      ((right.ensureChannel addressed).modifyChannel addressed fun _ => channel) where
  surroundings := (view.ensured addressed).surroundings
  session := view.session
  channels := by
    intro name touches
    rw [channelAt_replaced, channelAt_replaced, view.channels name touches]

/-- A channel that is registered on both sides may be changed on both. -/
theorem SameView.modified (view : SameView touched id left right) {addressed : Text}
    {channel : Channel} (found : left.registry.get? addressed = some channel)
    (listed : right.registry.get? addressed = some channel) (change : Channel → Channel) :
    SameView touched id (left.modifyChannel addressed change)
      (right.modifyChannel addressed change) where
  surroundings := view.surroundings
  session := view.session
  channels := by
    intro name touches
    rw [channelAt_modifyChannel found, channelAt_modifyChannel listed, view.channels name touches]

theorem SameView.torn (view : SameView touched id left right) (first : left.Telling)
    (second : right.Telling) (actor : SessionId) :
    SameView touched id (left.teardown actor) (right.teardown actor) where
  surroundings := view.surroundings
  session := view.session
  channels := by
    intro name touches
    rw [channelAt_teardown_eq first, channelAt_teardown_eq second, view.channels name touches]

/-- What a request leads to in two relays is the same as far as a session sees. -/
structure SameResult (touched : Text → Prop) (id : SessionId)
    (first second : Relay × Except Refusal Reply) : Prop where
  answer : first.2 = second.2
  view : SameView touched id first.1 second.1

variable {methods : List Method}

theorem SameResult.ok {first second : Reply} (view : SameView touched id left right)
    (same : SameView touched id left right → first = second) :
    SameResult touched id (left, .ok first) (right, .ok second) :=
  ⟨congrArg Except.ok (same view), view⟩

theorem SameView.describe (view : SameView touched id left right) (first : left.Tidy)
    (second : right.Tidy)
    (addressed : ∀ name, left.channelName request.uri = .ok name → touched name) :
    SameResult touched id (Handler.describe methods left session request)
      (Handler.describe methods right session request) := by
  refine ⟨?_, view⟩
  change Handler.describeReply left request = Handler.describeReply right request
  unfold Handler.describeReply
  rw [← view.channelName_eq]
  cases named : left.channelName request.uri with
  | error refusal => rfl
  | ok name =>
      have same : left.existing name = right.existing name := by
        rw [existing, existing, view.get?_eq first second (addressed name named)]
      simp only [bind, Except.bind, same]

theorem SameView.announce (view : SameView touched session.id left right)
    (addressed : ∀ name, left.channelName request.uri = .ok name → touched name) :
    SameResult touched session.id (Handler.announce methods left session request)
      (Handler.announce methods right session request) := by
  have planned : Handler.announcement left session request =
      Handler.announcement right session request := by
    simp only [Handler.announcement, view.channelName_eq]
  unfold Handler.announce
  rw [← planned]
  cases result : Handler.announcement left session request with
  | error refusal => exact ⟨rfl, view⟩
  | ok plan =>
      obtain ⟨description, name⟩ := plan
      have touches := addressed name (announcement_ok result).2.1
      simp only [get?_ensureChannel, view.channels name touches, Option.bind_some]
      cases (right.channelAt name).describe? session.id description request.body with
      | none => exact ⟨rfl, view.ensured name⟩
      | some channel =>
          refine .ok ?_ fun view => congrArg (Reply.mk · false) (view.granted_eq session)
          exact (view.replaced name channel).negotiate session.id _

theorem SameView.setup (view : SameView touched session.id left right) (first : left.Tidy)
    (second : right.Tidy)
    (addressed : ∀ name, left.channelName request.uri = .ok name → touched name) :
    SameResult touched session.id (Handler.setup methods left session request)
      (Handler.setup methods right session request) := by
  have planned : Handler.setupPlan left request = Handler.setupPlan right request := by
    unfold Handler.setupPlan
    rw [← view.channelName_eq]
    cases named : left.channelName request.uri with
    | error refusal => rfl
    | ok name =>
        have same : left.existing name = right.existing name := by
          rw [existing, existing, view.get?_eq first second (addressed name named)]
        simp only [bind, Except.bind, same]
  unfold Handler.setup
  rw [← planned]
  cases Handler.setupPlan left request with
  | error refusal => exact ⟨rfl, view⟩
  | ok plan =>
      by_cases free : session.negotiation.mayBind plan.name = true
      · simp only [free, Bool.not_true, Bool.false_eq_true, ↓reduceIte]
        cases Handler.setUp plan (session.negotiation.bind plan.name) with
        | error refusal => exact ⟨rfl, view.negotiate session.id _⟩
        | ok negotiation =>
            have installed := view.negotiate session.id fun _ => negotiation
            simp only [installed.grantedTransport_eq]
            cases Handler.grantedTransport (right.negotiate session.id fun _ => negotiation)
              plan.transport with
            | error refusal => exact ⟨rfl, installed⟩
            | ok transport =>
                refine .ok installed fun view => ?_
                rw [view.sessionValue_eq session]
      · simp only [free, Bool.not_false, ↓reduceIte]
        exact ⟨rfl, view⟩

theorem touches_of_streamName (named : relay.streamName session request = .ok name) :
    relay.Touches session request name := by
  unfold streamName at named
  cases bound : session.negotiation.channel with
  | none =>
      rw [bound] at named
      exact .inr named
  | some current =>
      rw [bound, Except.ok.injEq] at named
      exact .inl (named ▸ bound)

theorem SameView.streamPlan (view : SameView touched id left right) (first : left.Tidy)
    (second : right.Tidy) (touches : ∀ name, left.Touches session request name → touched name)
    (direction : Direction) :
    Handler.streamPlan direction left session request =
      Handler.streamPlan direction right session request := by
  have named : left.streamName session request = right.streamName session request := by
    rw [streamName, streamName, view.channelName_eq]
  unfold Handler.streamPlan
  rw [← named]
  cases addressed : left.streamName session request with
  | error refusal => rfl
  | ok name =>
      have same : left.existing name = right.existing name := by
        have touched := touches name (touches_of_streamName addressed)
        rw [existing, existing, view.get?_eq first second touched]
      simp only [bind, Except.bind, same]

theorem SameView.record (view : SameView touched session.id left right) (first : left.Tidy)
    (second : right.Tidy) (touches : ∀ name, left.Touches session request name → touched name) :
    SameResult touched session.id (Handler.record methods left session request)
      (Handler.record methods right session request) := by
  have planned := view.streamPlan first second touches .record
  unfold Handler.record
  rw [← planned]
  cases result : Handler.streamPlan .record left session request with
  | error refusal => exact ⟨rfl, view⟩
  | ok plan =>
      dsimp only
      cases plan.channel.claim? session.id with
      | none => exact ⟨rfl, view⟩
      | some channel =>
          refine .ok ?_ fun view => congrArg (Reply.mk · false) (view.granted_eq session)
          exact (view.modified (streamPlan_ok result).2.1 (streamPlan_ok (planned ▸ result)).2.1
            _).negotiate session.id _

theorem SameView.play (view : SameView touched session.id left right) (first : left.Tidy)
    (second : right.Tidy) (touches : ∀ name, left.Touches session request name → touched name) :
    SameResult touched session.id (Handler.play methods left session request)
      (Handler.play methods right session request) := by
  have planned := view.streamPlan first second touches .play
  unfold Handler.play
  rw [← planned]
  cases result : Handler.streamPlan .play left session request with
  | error refusal => exact ⟨rfl, view⟩
  | ok plan =>
      refine .ok ?_ fun view => ?_
      · exact (view.negotiate session.id _).modified (streamPlan_ok result).2.1
          (streamPlan_ok (planned ▸ result)).2.1 _
      · rw [view.granted_eq session]

theorem SameView.handled (view : SameView touched session.id left right) (tidy : left.Tidy)
    (tidy' : right.Tidy) (telling : left.Telling) (telling' : right.Telling)
    (touches : ∀ name, left.Touches session request name → touched name) {method : Method}
    {handler : Handler} (found : Handlers.standard method = some handler) :
    SameResult touched session.id (handler methods left session request)
      (handler methods right session request) := by
  have addressed (name : Text) (named : left.channelName request.uri = .ok name) : touched name :=
    touches name (.inr named)
  cases method with
  | options =>
      cases found
      exact ⟨rfl, view⟩
  | describe =>
      cases found
      exact view.describe tidy tidy' addressed
  | announce =>
      cases found
      exact view.announce addressed
  | setup =>
      cases found
      exact view.setup tidy tidy' addressed
  | play =>
      cases found
      exact view.play tidy tidy' touches
  | pause =>
      cases found
      refine .ok (view.negotiate session.id _) fun view => ?_
      rw [view.granted_eq session]
  | record =>
      cases found
      exact view.record tidy tidy' touches
  | teardown =>
      cases found
      refine .ok ((view.torn telling telling' session.id).negotiate session.id _) fun view => ?_
      rw [view.granted_eq session]
  | getParameter =>
      cases found
      refine .ok view fun view => ?_
      rw [view.granted_eq session]

/-- **A session sees no more than what it touches.** What a request is answered and what it leaves
of that is the same wherever that is the same. -/
theorem SameView.dispatch (view : SameView touched session.id left right) (tidy : left.Tidy)
    (tidy' : right.Tidy) (telling : left.Telling) (telling' : right.Telling)
    (touches : ∀ name, left.Touches session request name → touched name) :
    SameResult touched session.id (left.dispatch Handlers.standard session request)
      (right.dispatch Handlers.standard session request) := by
  cases known : request.known? with
  | none =>
      simp only [Relay.dispatch, known]
      exact ⟨rfl, view⟩
  | some method =>
      cases opposed : session.objection? method request with
      | some refusal =>
          rw [dispatch_of_opposed known opposed, dispatch_of_opposed known opposed]
          exact ⟨rfl, view⟩
      | none =>
          obtain ⟨handler, found⟩ := served method
          rw [dispatch_of_admits ⟨known, opposed⟩ found, dispatch_of_admits ⟨known, opposed⟩ found]
          exact view.handled tidy tidy' telling telling' touches found

/-! ## What a request leaves alone -/

/-- What a session depends on does not change what it touches. -/
theorem touches_congr (standing : after.registry.defaultChannel = relay.registry.defaultChannel) :
    after.Touches session request name ↔ relay.Touches session request name := by
  rw [Touches, Touches, channelName_congr standing]

/-- **A request changes no channel that its session does not touch.** When a session leaves, it is
in the channel that it is bound to only. -/
theorem Outcome.elsewhere {result : Except Refusal Reply}
    (outcome : relay.Outcome session request after result) (telling : relay.Telling)
    (agrees : relay.Agrees session.id session.negotiation)
    (apart : ¬ relay.Touches session request name) :
    after.channelAt name = relay.channelAt name := by
  cases outcome with
  | refused _ => rfl
  | informed _ _ _ _ => rfl
  | @announced description addressed _ planned _ =>
      have different : name ≠ addressed := by
        rintro rfl
        exact apart (.inr (announcement_ok planned).2.1)
      exact (channelAt_replaced relay addressed _ name).trans (if_neg different)
  | boundOnly _ _ _ _ => rfl
  | ungranted _ _ _ _ _ => rfl
  | setUp _ _ _ _ _ => rfl
  | @recorded plan _ planned _ =>
      have different : name ≠ plan.name := by
        rintro rfl
        exact apart (touches_of_streamName (streamPlan_ok planned).1)
      exact (channelAt_modifyChannel (streamPlan_ok planned).2.1 _ name).trans (if_neg different)
  | @played plan _ planned =>
      have different : name ≠ plan.name := by
        rintro rfl
        exact apart (touches_of_streamName (streamPlan_ok planned).1)
      have found := (streamPlan_ok planned).2.1
      exact (channelAt_modifyChannel found _ name).trans (if_neg different)
  | paused _ => rfl
  | tornDown _ =>
      have unused : (relay.channelAt name).refersTo session.id = false := by
        rw [Bool.eq_false_iff]
        intro role
        exact apart (.inl (agrees.bound name role))
      exact (channelAt_teardown_eq telling session.id name).trans (Channel.remove_eq_self unused)

/-- A request changes nothing but channels and sessions. -/
theorem Outcome.surroundings {result : Except Refusal Reply}
    (outcome : relay.Outcome session request after result) :
    after.surroundings = relay.surroundings := by
  cases outcome with
  | announced _ _ _ => exact surroundings_ensureChannel relay _
  | _ => rfl

/-- A session sees nothing of a request by which another one touches none of its channels. -/
theorem sameView_after (telling : relay.Telling) (coherent : relay.Coherent)
    (found : relay.session? session.id = some session) (different : id ≠ session.id)
    (apart : ∀ name, touched name → ¬ relay.Touches session request name) :
    SameView touched id relay (relay.after (.requested session.id request)) := by
  have outcome := outcome_dispatch relay session request
  rw [after_requested found, route_eq]
  refine ⟨outcome.surroundings.symm, (outcome.keeps different).session.symm, ?_⟩
  intro name touches
  exact (outcome.elsewhere telling (coherent.agrees _ session found) (apart name touches)).symm

/-- What a session gets and leaves by a request that touches only what it sees. -/
theorem SameView.requested (view : SameView touched session.id left right) (tidy : left.Tidy)
    (tidy' : right.Tidy) (telling : left.Telling) (telling' : right.Telling)
    (found : left.session? session.id = some session)
    (touches : ∀ name, left.Touches session request name → touched name) :
    right.reply? (.requested session.id request) = left.reply? (.requested session.id request) ∧
      SameView touched session.id (left.after (.requested session.id request))
        (right.after (.requested session.id request)) := by
  have result := view.dispatch tidy tidy' telling telling' touches
  have listed := view.session.symm.trans found
  rw [after_requested found, after_requested listed, reply?_requested found,
    reply?_requested listed, route_eq, route_eq, result.answer]
  exact ⟨rfl, result.view⟩

end Relay

end MediaRelay
