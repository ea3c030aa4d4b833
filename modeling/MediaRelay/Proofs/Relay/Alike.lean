import MediaRelay.Proofs.Relay.Descriptions

/-! # Relays that are alike

Two relays are alike to a session if they differ in bystanders only, in the links of other sessions
and in which channels that nobody uses are registered. A request of a session that is no bystander
does the same in both (`Alike.dispatch`): it finds the same descriptions, the same producers and the
same that it has negotiated itself.
-/

namespace MediaRelay

namespace Channel

/-- Two channels that tell the same and have the same subscribers, bystanders apart. -/
structure Alike (apart : SessionId → Bool) (left right : Channel) : Prop where
  producer : left.producer = right.producer
  description : left.description = right.description
  raw : left.raw = right.raw
  subscribers : ∀ id, apart id = false → (id ∈ left.subscribers ↔ id ∈ right.subscribers)

variable {apart : SessionId → Bool} {left right : Channel} {id : SessionId}

theorem Alike.refl (apart : SessionId → Bool) (channel : Channel) : Alike apart channel channel :=
  ⟨rfl, rfl, rfl, fun _ _ => Iff.rfl⟩

theorem Alike.symm (alike : Alike apart left right) : Alike apart right left :=
  ⟨alike.producer.symm, alike.description.symm, alike.raw.symm,
    fun id stays => (alike.subscribers id stays).symm⟩

theorem Alike.trans {middle : Channel} (first : Alike apart left middle)
    (second : Alike apart middle right) : Alike apart left right where
  producer := first.producer.trans second.producer
  description := first.description.trans second.description
  raw := first.raw.trans second.raw
  subscribers := fun id stays => (first.subscribers id stays).trans (second.subscribers id stays)

theorem Alike.lockedFor_eq (alike : Alike apart left right) (id : SessionId) :
    left.lockedFor id = right.lockedFor id := by
  unfold lockedFor
  rw [alike.producer]

theorem Alike.claimed (alike : Alike apart left right) (id : SessionId) :
    Alike apart { left with producer := some id } { right with producer := some id } :=
  ⟨rfl, alike.description, alike.raw, alike.subscribers⟩

theorem Alike.described (alike : Alike apart left right) (id : SessionId)
    (description : Description) (raw : Bytes) :
    Alike apart
      { left with producer := some id, description := some description, raw := some raw }
      { right with producer := some id, description := some description, raw := some raw } :=
  ⟨rfl, rfl, rfl, alike.subscribers⟩

theorem subscribe_eq (channel : Channel) (id : SessionId) :
    channel.subscribe id =
      { channel with subscribers := (channel.subscribe id).subscribers } := by
  unfold Channel.subscribe
  split <;> rfl

theorem remove_of_producer_ne {channel : Channel} (other : channel.producer ≠ some id) :
    channel.remove id =
      { channel with subscribers := channel.subscribers.filter fun member => member ≠ id } := by
  rw [remove, if_neg other]

theorem remove_eq_self {channel : Channel} (unused : channel.refersTo id = false) :
    channel.remove id = channel := by
  rw [Bool.eq_false_iff, ne_eq, refersTo_iff, not_or] at unused
  have kept : channel.subscribers.filter (fun subscriber => subscriber ≠ id) =
      channel.subscribers := by
    rw [List.filter_eq_self]
    intro subscriber member
    simpa using fun (same : subscriber = id) => unused.2 (same ▸ member)
  rw [remove_of_producer_ne unused.1, kept]

theorem remove_remove (channel : Channel) (id : SessionId) :
    (channel.remove id).remove id = channel.remove id := by
  refine remove_eq_self ?_
  rw [refersTo_remove]
  simp

theorem Alike.subscribe (alike : Alike apart left right) (id : SessionId) :
    Alike apart (left.subscribe id) (right.subscribe id) := by
  have members (other : SessionId) (stays : apart other = false) :
      other ∈ (left.subscribe id).subscribers ↔ other ∈ (right.subscribe id).subscribers := by
    rw [mem_subscribers_subscribe, mem_subscribers_subscribe, alike.subscribers other stays]
  rw [subscribe_eq left id, subscribe_eq right id]
  exact ⟨alike.producer, alike.description, alike.raw, members⟩

theorem Alike.remove (alike : Alike apart left right) (id : SessionId) :
    Alike apart (left.remove id) (right.remove id) := by
  have members (other : SessionId) (stays : apart other = false) :
      other ∈ (left.remove id).subscribers ↔ other ∈ (right.remove id).subscribers := by
    rw [mem_subscribers_remove, mem_subscribers_remove, alike.subscribers other stays]
  unfold Channel.remove at members ⊢
  rw [alike.producer] at members ⊢
  split
  · rename_i held
    simp only [held, ↓reduceIte] at members
    exact ⟨rfl, rfl, rfl, members⟩
  · rename_i free
    simp only [free, ↓reduceIte] at members
    exact ⟨rfl, alike.description, alike.raw, members⟩

theorem alike_subscribe (channel : Channel) (bystander : apart id = true) :
    Alike apart channel (channel.subscribe id) := by
  rw [subscribe_eq]
  refine ⟨rfl, rfl, rfl, fun other stays => ?_⟩
  rw [mem_subscribers_subscribe, or_iff_left]
  rintro rfl
  exact nomatch stays.symm.trans bystander

theorem alike_remove {channel : Channel} (bystander : apart id = true)
    (other : channel.producer ≠ some id) : Alike apart channel (channel.remove id) := by
  rw [remove_of_producer_ne other]
  refine ⟨rfl, rfl, rfl, fun member stays => ?_⟩
  rw [List.mem_filter, decide_eq_true_eq, and_iff_left]
  rintro rfl
  exact nomatch stays.symm.trans bystander

/-- A channel that nobody uses any more is like one that nobody ever used. -/
theorem Tells.eq_vacant {said : SessionId → Option Bytes} (tells : right.Tells said)
    (unused : right.isVacant = true) : right = .vacant := by
  obtain ⟨free, unheard⟩ := isVacant_iff.mp unused
  cases tells with
  | nothing _ undescribed empty =>
      cases right
      simp_all [vacant]
  | latest held _ _ _ _ => cases free.symm.trans held

/-- What a bystander does to a channel does not show. -/
theorem Step.alike {said announced? : SessionId → Option Bytes} {actor? : Option SessionId}
    {before after : Channel} (step : before.Step actor? announced? after) (tells : before.Tells said)
    (bystander : ∀ id, actor? = some id → apart id = true ∧ before.producer ≠ some id)
    (silent : ∀ id, announced? id = none) : Alike apart before after := by
  cases step with
  | same _ => exact .refl apart before
  | described _ told _ _ _ => exact nomatch (silent _).symm.trans told
  | claimed acting _ free told => exact ((bystander _ acting).2 (tells.claim told free)).elim
  | subscribed acting _ => exact alike_subscribe before (bystander _ acting).1
  | left acting _ => exact alike_remove (bystander _ acting).1 (bystander _ acting).2
  | @retired id acting _ unused =>
      rw [← (tells.remove id).eq_vacant unused]
      exact alike_remove (bystander id acting).1 (bystander id acting).2

end Channel

namespace Session

/-- The session with a link that works. -/
def linked (session : Session) : Session := { session with linkOpen := true }

end Session

namespace Relay

/-- Two relays that show no difference to a session and make none to those that are not apart. -/
structure Alike (id : SessionId) (apart : SessionId → Bool) (left right : Relay) : Prop where
  ports : left.ports = right.ports
  standing : left.registry.defaultChannel = right.registry.defaultChannel
  watched : left.session? id = right.session? id
  sessions : ∀ other, apart other = false →
    (left.session? other).map Session.linked = (right.session? other).map Session.linked
  channels : ∀ name, Channel.Alike apart (left.channelAt name) (right.channelAt name)

/-- What channels tell is what somebody has said. -/
def Telling (relay : Relay) : Prop :=
  ∀ name, ∃ said, (relay.channelAt name).Tells said

variable {id : SessionId} {apart : SessionId → Bool} {left right after : Relay}
  {session twin : Session} {request : Request} {plan : Handler.StreamPlan} {name : Text}

theorem Alike.symm (alike : Alike id apart left right) : Alike id apart right left :=
  ⟨alike.ports.symm, alike.standing.symm, alike.watched.symm,
    fun other stays => (alike.sessions other stays).symm, fun name => (alike.channels name).symm⟩

/-! ## What a request finds -/

theorem Alike.channelName_eq (alike : Alike id apart left right) (uri : Text) :
    left.channelName uri = right.channelName uri :=
  channelName_congr alike.standing uri

/-- A channel with a description is registered. -/
theorem registered_of_described {description : Description}
    (told : (right.channelAt name).description = some description) :
    right.registry.get? name = some (right.channelAt name) := by
  unfold channelAt at told ⊢
  cases found : right.registry.get? name with
  | none =>
      rw [found] at told
      exact nomatch told
  | some channel => rfl

/-- A channel that is described in one relay is found in the other with that description. -/
theorem Alike.described (alike : Alike id apart left right) {channel : Channel}
    {description : Description} (found : left.registry.get? name = some channel)
    (told : channel.description = some description) :
    right.existing name = .ok (right.channelAt name) ∧
      MediaRelay.described name (right.channelAt name) = .ok description := by
  have same : (right.channelAt name).description = some description := by
    rw [← (alike.channels name).description, channelAt_of_found found, told]
  exact ⟨existing_eq_ok_iff.mpr (registered_of_described same), described_eq_ok_iff.mpr same⟩

theorem Alike.setupPlan (alike : Alike id apart left right) {plan : Handler.SetupPlan}
    (planned : Handler.setupPlan left request = .ok plan) :
    Handler.setupPlan right request = .ok plan := by
  obtain ⟨asked, named, ⟨channel, found, told⟩, placed, listed⟩ := setupPlan_ok planned
  obtain ⟨held, described⟩ := alike.described found told
  rw [alike.channelName_eq] at named
  simp only [Handler.setupPlan, asked, named, held, described, placed, listed, bind, Except.bind,
    Option.bind_some, Option.map_some]
  rfl

theorem Alike.streamPlan (alike : Alike id apart left right)
    (same : session.negotiation = twin.negotiation) {direction : Direction}
    (planned : Handler.streamPlan direction left session request = .ok plan) :
    Handler.streamPlan direction right twin request =
      .ok { plan with channel := right.channelAt plan.name } := by
  obtain ⟨named, found, description, told, framed⟩ := streamPlan_ok planned
  obtain ⟨held, described⟩ := alike.described found told
  have named : right.streamName twin request = .ok plan.name := by
    unfold streamName at named ⊢
    rwa [← same, ← alike.channelName_eq]
  rw [same] at framed
  have checked := checkMedia_eq_ok_iff.mpr framed
  simp only [Handler.streamPlan, named, held, described, checked, bind, Except.bind]
  rfl

theorem Alike.announcement_eq (alike : Alike id apart left right)
    (same : session.negotiation = twin.negotiation) :
    Handler.announcement left session request = Handler.announcement right twin request := by
  simp only [Handler.announcement, alike.channelName_eq, same, boundElsewhere]

theorem admits_twin {method : Method} (named : session.id = twin.id)
    (same : session.negotiation = twin.negotiation) (admitted : session.Admits method request) :
    twin.Admits method request := by
  refine ⟨admitted.known, ?_⟩
  have unopposed := admitted.unopposed
  unfold Session.objection? Session.disowns? at unopposed ⊢
  rwa [named, same] at unopposed

/-! ## What a request does -/

theorem after_announced {description : Description} (admitted : session.Admits .announce request)
    (planned : Handler.announcement right session request = .ok (description, name))
    (free : (right.channelAt name).lockedFor session.id = false) :
    (right.dispatch Handlers.standard session request).1 =
      ((right.ensureChannel name).modifyChannel name fun _ =>
        { right.channelAt name with
          producer := some session.id
          description := some description
          raw := some request.body }).negotiate session.id fun negotiation =>
            negotiation.bind name := by
  rw [dispatch_of_admits admitted rfl]
  simp only [Handler.announce, planned, get?_ensureChannel, Option.bind_some, Channel.describe?,
    Channel.claim?, free, Bool.false_eq_true, ↓reduceIte, Option.map_some]

theorem after_bound {plan : Handler.SetupPlan} {refusal : Refusal}
    (admitted : session.Admits .setup request)
    (planned : Handler.setupPlan right request = .ok plan)
    (free : session.negotiation.mayBind plan.name = true)
    (misfit : Handler.setUp plan (session.negotiation.bind plan.name) = .error refusal) :
    (right.dispatch Handlers.standard session request).1 =
      right.negotiate session.id fun _ => session.negotiation.bind plan.name := by
  rw [dispatch_of_admits admitted rfl]
  simp only [Handler.setup, planned, free, misfit, Bool.not_true, Bool.false_eq_true, ↓reduceIte]

/-- A medium that fits stays set up, whether a port is granted for it or not. -/
theorem after_setUp {plan : Handler.SetupPlan} {negotiation : Negotiation}
    (admitted : session.Admits .setup request)
    (planned : Handler.setupPlan right request = .ok plan)
    (free : session.negotiation.mayBind plan.name = true)
    (fits : Handler.setUp plan (session.negotiation.bind plan.name) = .ok negotiation) :
    (right.dispatch Handlers.standard session request).1 =
      right.negotiate session.id fun _ => negotiation := by
  rw [dispatch_of_admits admitted rfl]
  simp only [Handler.setup, planned, free, fits, Bool.not_true, Bool.false_eq_true, ↓reduceIte]
  split <;> rfl

theorem after_recorded (admitted : session.Admits .record request)
    (planned : Handler.streamPlan .record right session request = .ok plan)
    (free : plan.channel.lockedFor session.id = false) :
    (right.dispatch Handlers.standard session request).1 =
      (right.modifyChannel plan.name fun _ =>
        { plan.channel with producer := some session.id }).negotiate session.id
          fun negotiation => negotiation.start .record plan.interleaved := by
  rw [dispatch_of_admits admitted rfl]
  simp only [Handler.record, planned, Channel.claim?, free, Bool.false_eq_true, ↓reduceIte]

theorem after_played (admitted : session.Admits .play request)
    (planned : Handler.streamPlan .play right session request = .ok plan) :
    (right.dispatch Handlers.standard session request).1 =
      (right.negotiate session.id fun negotiation =>
        negotiation.start .play plan.interleaved).modifyChannel plan.name
          fun channel => channel.subscribe session.id := by
  rw [dispatch_of_admits admitted rfl]
  simp only [Handler.play, planned]

/-! ## Changes on both sides -/

theorem Alike.negotiate (alike : Alike id apart left right) (actor : SessionId)
    (change : Negotiation → Negotiation) :
    Alike id apart (left.negotiate actor change) (right.negotiate actor change) where
  ports := alike.ports
  standing := alike.standing
  watched := by rw [session?_negotiate, session?_negotiate, alike.watched]
  sessions := by
    intro other stays
    rw [session?_negotiate, session?_negotiate]
    split
    · have apply (session : Option Session) :
          (session.map fun session => session.negotiate change).map Session.linked =
            (session.map Session.linked).map fun session => session.negotiate change := by
        cases session <;> rfl
      rw [apply, apply, alike.sessions other stays]
    · exact alike.sessions other stays
  channels := alike.channels

theorem Alike.withChannels {left' right' : Relay} (alike : Alike id apart left right)
    (ports : left'.ports = left.ports ∧ right'.ports = right.ports)
    (standing : left'.registry.defaultChannel = left.registry.defaultChannel ∧
      right'.registry.defaultChannel = right.registry.defaultChannel)
    (sessions : left'.sessions = left.sessions ∧ right'.sessions = right.sessions)
    (channels : ∀ name, Channel.Alike apart (left'.channelAt name) (right'.channelAt name)) :
    Alike id apart left' right' where
  ports := ports.1.trans (alike.ports.trans ports.2.symm)
  standing := standing.1.trans (alike.standing.trans standing.2.symm)
  watched := by
    have watched := alike.watched
    unfold session? at watched ⊢
    rwa [sessions.1, sessions.2]
  sessions := by
    intro other stays
    have same := alike.sessions other stays
    unfold session? at same ⊢
    rwa [sessions.1, sessions.2]
  channels := channels

theorem defaultChannel_ensure (registry : Registry) (name : Text) :
    (registry.ensure name).defaultChannel = registry.defaultChannel := by
  unfold Registry.ensure
  split <;> rfl

theorem Alike.replaced (alike : Alike id apart left right) (addressed : Text)
    {first second : Channel} (channel : Channel.Alike apart first second) :
    Alike id apart ((left.ensureChannel addressed).modifyChannel addressed fun _ => first)
      ((right.ensureChannel addressed).modifyChannel addressed fun _ => second) := by
  refine alike.withChannels ⟨rfl, rfl⟩
    ⟨defaultChannel_ensure _ addressed, defaultChannel_ensure _ addressed⟩ ⟨rfl, rfl⟩ ?_
  intro name
  rw [channelAt_replaced, channelAt_replaced]
  split
  · exact channel
  · exact alike.channels name

theorem Alike.modified (alike : Alike id apart left right) {addressed : Text}
    {first second : Channel} (found : left.registry.get? addressed = some first)
    (listed : right.registry.get? addressed = some second) {change change' : Channel → Channel}
    (channel : Channel.Alike apart (change first) (change' second)) :
    Alike id apart (left.modifyChannel addressed change) (right.modifyChannel addressed change') := by
  refine alike.withChannels ⟨rfl, rfl⟩ ⟨rfl, rfl⟩ ⟨rfl, rfl⟩ ?_
  intro name
  rw [channelAt_modifyChannel found, channelAt_modifyChannel listed]
  split
  · exact channel
  · exact alike.channels name

/-- A channel that is retired is left as if it had only been left. -/
theorem channelAt_teardown_eq (telling : right.Telling) (id : SessionId) (name : Text) :
    (right.teardown id).channelAt name = (right.channelAt name).remove id := by
  rcases channelAt_teardown right id name with same | ⟨retired, unused⟩
  · exact same
  · obtain ⟨said, tells⟩ := telling name
    rw [retired, (tells.remove id).eq_vacant unused]

theorem Alike.torn (alike : Alike id apart left right) (first : left.Telling)
    (second : right.Telling) (actor : SessionId) :
    Alike id apart (left.teardown actor) (right.teardown actor) := by
  refine alike.withChannels ⟨rfl, rfl⟩ ⟨rfl, rfl⟩ ⟨rfl, rfl⟩ ?_
  intro name
  rw [channelAt_teardown_eq first, channelAt_teardown_eq second]
  exact (alike.channels name).remove actor

/-- A request that changes one relay changes the other one alike. -/
theorem Alike.replay (alike : Alike id apart left right) (first : left.Telling)
    (second : right.Telling) (named : session.id = twin.id)
    (same : session.negotiation = twin.negotiation) {result : Except Refusal Reply}
    (outcome : left.Outcome session request after result) :
    after = left ∨ Alike id apart after (right.dispatch Handlers.standard twin request).1 := by
  cases outcome with
  | refused _ => exact .inl rfl
  | informed _ _ _ _ => exact .inl rfl
  | @announced description addressed admitted planned free =>
      right
      rw [alike.announcement_eq same] at planned
      have free : (right.channelAt addressed).lockedFor twin.id = false := by
        rw [← (alike.channels addressed).lockedFor_eq, ← named]
        exact free
      rw [after_announced (admits_twin named same admitted) planned free, ← named]
      exact (alike.replaced addressed ((alike.channels addressed).described ..)).negotiate _ _
  | boundOnly admitted planned free misfit =>
      right
      rw [same] at free misfit ⊢
      rw [after_bound (admits_twin named same admitted) (alike.setupPlan planned) free misfit,
        ← named]
      exact alike.negotiate _ _
  | ungranted admitted planned free fits _ =>
      right
      rw [same] at free fits
      rw [after_setUp (admits_twin named same admitted) (alike.setupPlan planned) free fits, ← named]
      exact alike.negotiate _ _
  | setUp admitted planned free fits _ =>
      right
      rw [same] at free fits
      rw [after_setUp (admits_twin named same admitted) (alike.setupPlan planned) free fits, ← named]
      exact alike.negotiate _ _
  | @recorded plan admitted planned free =>
      right
      have twinPlanned := alike.streamPlan same planned
      have found := (streamPlan_ok planned).2.1
      have listed := (streamPlan_ok twinPlanned).2.1
      have channel := alike.channels plan.name
      rw [channelAt_of_found found] at channel
      rw [named, channel.lockedFor_eq] at free
      rw [after_recorded (admits_twin named same admitted) twinPlanned free, ← named]
      exact (alike.modified found listed (channel.claimed _)).negotiate _ _
  | @played plan admitted planned =>
      right
      have twinPlanned := alike.streamPlan same planned
      have found := (streamPlan_ok planned).2.1
      have listed := (streamPlan_ok twinPlanned).2.1
      have channel := alike.channels plan.name
      rw [channelAt_of_found found] at channel
      rw [after_played (admits_twin named same admitted) twinPlanned, ← named]
      exact (alike.negotiate _ _).modified found listed (channel.subscribe _)
  | paused admitted =>
      right
      rw [dispatch_of_admits (admits_twin named same admitted) rfl]
      change Alike id apart _ (right.negotiate twin.id Negotiation.pause)
      rw [← named]
      exact alike.negotiate _ _
  | tornDown admitted =>
      right
      rw [dispatch_of_admits (admits_twin named same admitted) rfl]
      change Alike id apart _ ((right.teardown twin.id).negotiate twin.id Negotiation.clear)
      rw [← named]
      exact (alike.torn first second _).negotiate _ _

theorem Alike.dispatch (alike : Alike id apart left right) (first : left.Telling)
    (second : right.Telling) (named : session.id = twin.id)
    (same : session.negotiation = twin.negotiation) (request : Request) :
    Alike id apart (left.dispatch Handlers.standard session request).1
      (right.dispatch Handlers.standard twin request).1 := by
  -- A refusal says nothing about why, so only what does change is carried over, both ways.
  rcases alike.replay first second named same (outcome_dispatch left session request) with
    idle | alike'
  · rcases alike.symm.replay second first named.symm same.symm
      (outcome_dispatch right twin request) with still | alike'
    · rw [idle, still]
      exact alike
    · exact alike'.symm
  · exact alike'

end Relay

end MediaRelay
