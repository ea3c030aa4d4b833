import MediaRelay.Proofs.Dispatch.Outcome

/-! # The roles of sessions in channels

A session may produce a channel or subscribe to it. `Relay.Keeps` says what a change of the relay
leaves alone about one session: what it has negotiated, its roles, and the description of every
channel that it produces. Whatever the relay does for one session keeps all this for the others
(`Outcome.keeps`, `keeps_closeSession`).
-/

namespace MediaRelay

namespace Channel

/-- What a change of a channel leaves alone about a session: its roles, and the description while
it is the producer. -/
structure Keeps (id : SessionId) (before after : Channel) : Prop where
  produces : after.producer = some id ↔ before.producer = some id
  subscribes : id ∈ after.subscribers ↔ id ∈ before.subscribers
  described : before.producer = some id →
    after.description = before.description ∧ after.raw = before.raw

variable {channel : Channel} {id other : SessionId}

theorem Keeps.refl (id : SessionId) (channel : Channel) : Keeps id channel channel :=
  ⟨Iff.rfl, Iff.rfl, fun _ => ⟨rfl, rfl⟩⟩

theorem Keeps.trans {before middle after : Channel} (first : Keeps id before middle)
    (second : Keeps id middle after) : Keeps id before after where
  produces := second.produces.trans first.produces
  subscribes := second.subscribes.trans first.subscribes
  described := fun held =>
    have left := first.described held
    have right := second.described (first.produces.mpr held)
    ⟨right.1.trans left.1, right.2.trans left.2⟩

theorem refersTo_iff :
    channel.refersTo id = true ↔ channel.producer = some id ∨ id ∈ channel.subscribers := by
  simp [refersTo]

theorem isVacant_iff :
    channel.isVacant = true ↔ channel.producer = none ∧ channel.subscribers = [] := by
  simp [isVacant]

theorem lockedFor_eq_false_iff :
    channel.lockedFor id = false ↔ ∀ holder, channel.producer = some holder → holder = id := by
  unfold lockedFor
  cases channel.producer <;> simp

/-- Who has the producer's place takes it again. -/
theorem claim?_of_held (held : channel.producer = some id) : channel.claim? id = some channel := by
  have free : channel.lockedFor id = false :=
    lockedFor_eq_false_iff.mpr fun _ produces => Option.some.inj (produces.symm.trans held)
  rw [claim?, free, ← held]
  rfl

@[simp] theorem mem_subscribers_remove :
    other ∈ (channel.remove id).subscribers ↔ other ∈ channel.subscribers ∧ other ≠ id := by
  unfold remove
  split <;> simp

theorem producer_remove :
    (channel.remove id).producer = if channel.producer = some id then none else channel.producer := by
  unfold remove
  split <;> rfl

theorem mem_subscribers_subscribe :
    other ∈ (channel.subscribe id).subscribers ↔ other ∈ channel.subscribers ∨ other = id := by
  unfold subscribe
  split
  · rename_i member
    constructor
    · exact Or.inl
    · rintro (listed | rfl)
      · exact listed
      · exact member
  · simp

@[simp] theorem producer_subscribe : (channel.subscribe id).producer = channel.producer := by
  unfold subscribe
  split <;> rfl

theorem keeps_remove (different : other ≠ id) : Keeps other channel (channel.remove id) := by
  refine ⟨?_, by simp [different], ?_⟩
  · rw [producer_remove]
    by_cases held : channel.producer = some id
    · simp [held, Ne.symm different]
    · simp [held]
  · intro produces
    have held : channel.producer ≠ some id := by
      rw [produces]
      simpa using different
    simp [remove, held]

theorem keeps_subscribe (different : other ≠ id) : Keeps other channel (channel.subscribe id) := by
  refine ⟨by simp, ?_, ?_⟩
  · rw [mem_subscribers_subscribe]
    simp [different]
  · intro _
    unfold subscribe
    split <;> exact ⟨rfl, rfl⟩

/-- A session that takes the producer's place in a channel that no other holds takes it from
nobody. -/
theorem keeps_claimed (different : other ≠ id) (free : channel.lockedFor id = false)
    (description : Option Description) (raw : Option Bytes) :
    Keeps other channel { channel with producer := some id, description, raw } := by
  have unheld : channel.producer ≠ some other := fun held =>
    different (lockedFor_eq_false_iff.mp free other held)
  refine ⟨?_, Iff.rfl, fun held => (unheld held).elim⟩
  simpa [unheld] using Ne.symm different

end Channel

namespace Relay

/-- The channel of a name, one that nobody uses if none is registered. -/
def channelAt (relay : Relay) (name : Text) : Channel :=
  (relay.registry.get? name).getD .vacant

/-- What a change of the relay leaves alone about a session. -/
structure Keeps (id : SessionId) (before after : Relay) : Prop where
  session : after.session? id = before.session? id
  channels : ∀ name, (before.channelAt name).Keeps id (after.channelAt name)

variable {relay : Relay} {id other : SessionId} {name : Text}

theorem Keeps.refl (id : SessionId) (relay : Relay) : Keeps id relay relay :=
  ⟨rfl, fun _ => .refl id _⟩

theorem Keeps.trans {before middle after : Relay} (first : Keeps id before middle)
    (second : Keeps id middle after) : Keeps id before after :=
  ⟨second.session.trans first.session, fun name => (first.channels name).trans (second.channels name)⟩

/-- A session that has a role in the channel of a name shows that the channel is registered. -/
theorem registered_of_refersTo (role : (relay.channelAt name).refersTo id = true) :
    relay.registry.get? name = some (relay.channelAt name) := by
  unfold channelAt at role ⊢
  cases found : relay.registry.get? name with
  | none => simp [found, Channel.refersTo, Channel.vacant] at role
  | some channel => rfl

theorem channelAt_of_found {channel : Channel} (found : relay.registry.get? name = some channel) :
    relay.channelAt name = channel := by
  rw [channelAt, found, Option.getD_some]

theorem channelAt_ensureChannel (name key : Text) :
    (relay.ensureChannel name).channelAt key = relay.channelAt key := by
  unfold channelAt ensureChannel
  rw [Registry.get?_ensure]
  by_cases same : key = name <;> simp [same]

/-- Changing a registered channel changes no other. -/
theorem channelAt_modifyChannel {channel : Channel}
    (found : relay.registry.get? name = some channel) (change : Channel → Channel) (key : Text) :
    (relay.modifyChannel name change).channelAt key =
      if key = name then change channel else relay.channelAt key := by
  unfold channelAt modifyChannel
  rw [Registry.get?_modify]
  by_cases same : key = name
  · subst same
    simp [found]
  · simp [same]

theorem get?_ensureChannel (relay : Relay) (name : Text) :
    (relay.ensureChannel name).registry.get? name = some (relay.channelAt name) := by
  simp [ensureChannel, Registry.get?_ensure, channelAt]

/-- Putting a channel under a name, registered before or not, changes no other. -/
theorem channelAt_replaced (relay : Relay) (name : Text) (channel : Channel) (key : Text) :
    ((relay.ensureChannel name).modifyChannel name fun _ => channel).channelAt key =
      if key = name then channel else relay.channelAt key := by
  rw [channelAt_modifyChannel (get?_ensureChannel relay name), channelAt_ensureChannel]

/-- After a session has left, a channel is what is left without it, unless that was retired. -/
theorem channelAt_teardown (relay : Relay) (id : SessionId) (name : Text) :
    (relay.teardown id).channelAt name = (relay.channelAt name).remove id ∨
      (relay.teardown id).channelAt name = .vacant ∧
        ((relay.channelAt name).remove id).isVacant = true := by
  have left : (relay.teardown id).registry = relay.registry.teardown relay.held id := rfl
  rw [channelAt, channelAt, left, Registry.get?, Registry.get?, Registry.slots_teardown]
  cases relay.registry.slots.get? name with
  | none => exact .inl (by simp [Channel.remove, Channel.vacant])
  | some slot =>
      by_cases stays : relay.registry.retains relay.held name
          { slot with channel := slot.channel.remove id } = true
      · exact .inl (by simp [Option.filter, stays])
      · have unused := mt Registry.retains_iff.mpr stays
        simp only [not_or, Bool.not_eq_false] at unused
        exact .inr ⟨by simp [Option.filter, stays], unused.2.2⟩

theorem producer_channelAt_teardown (relay : Relay) (id : SessionId) (name : Text) :
    ((relay.teardown id).channelAt name).producer = ((relay.channelAt name).remove id).producer := by
  rcases channelAt_teardown relay id name with same | ⟨retired, vacant⟩
  · rw [same]
  · rw [retired, (Channel.isVacant_iff.mp vacant).1]
    rfl

theorem subscribers_channelAt_teardown (relay : Relay) (id : SessionId) (name : Text) :
    ((relay.teardown id).channelAt name).subscribers =
      ((relay.channelAt name).remove id).subscribers := by
  rcases channelAt_teardown relay id name with same | ⟨retired, vacant⟩
  · rw [same]
  · rw [retired, (Channel.isVacant_iff.mp vacant).2]
    rfl

/-- A session that has left has no role in any channel. -/
theorem refersTo_channelAt_teardown (relay : Relay) (id : SessionId) (name : Text) :
    ((relay.teardown id).channelAt name).refersTo id = false := by
  have gone := Channel.refersTo_remove (relay.channelAt name) id id
  simp only [ne_eq, not_true_eq_false, decide_false, Bool.false_and] at gone
  simpa only [Channel.refersTo, producer_channelAt_teardown, subscribers_channelAt_teardown]
    using gone

/-! ## What is kept for the other sessions -/

theorem keeps_of_registry_eq {before after : Relay} (registry : after.registry = before.registry)
    (session : after.session? id = before.session? id) : Keeps id before after := by
  refine ⟨session, fun name => ?_⟩
  have same : after.channelAt name = before.channelAt name := by
    rw [channelAt, registry, ← channelAt]
  rw [same]
  exact .refl id _

theorem keeps_negotiate (different : other ≠ id) (change : Negotiation → Negotiation) :
    Keeps other relay (relay.negotiate id change) :=
  keeps_of_registry_eq rfl (by rw [session?_negotiate, if_neg different])

theorem keeps_ensureChannel (id : SessionId) (relay : Relay) (name : Text) :
    Keeps id relay (relay.ensureChannel name) := by
  refine ⟨rfl, fun key => ?_⟩
  rw [channelAt_ensureChannel]
  exact .refl id _

theorem keeps_modifyChannel {change : Channel → Channel} {channel : Channel}
    (found : relay.registry.get? name = some channel) (kept : channel.Keeps id (change channel)) :
    Keeps id relay (relay.modifyChannel name change) := by
  refine ⟨rfl, fun key => ?_⟩
  rw [channelAt_modifyChannel found]
  by_cases same : key = name
  · subst same
    rw [if_pos rfl, channelAt_of_found found]
    exact kept
  · rw [if_neg same]
    exact .refl id _

theorem keeps_teardown (different : other ≠ id) : Keeps other relay (relay.teardown id) := by
  refine ⟨rfl, fun name => ?_⟩
  have kept : (relay.channelAt name).Keeps other ((relay.channelAt name).remove id) :=
    Channel.keeps_remove different
  refine ⟨?_, ?_, fun held => ?_⟩
  · rw [producer_channelAt_teardown]
    exact kept.produces
  · rw [subscribers_channelAt_teardown]
    exact kept.subscribes
  · rcases channelAt_teardown relay id name with same | ⟨_, vacant⟩
    · rw [same]
      exact kept.described held
    · have unheld := (Channel.isVacant_iff.mp vacant).1
      rw [kept.produces.mpr held] at unheld
      exact (Option.some_ne_none _ unheld).elim

theorem keeps_openSession (different : other ≠ id) (peer : Address) :
    Keeps other relay (relay.openSession id peer) :=
  keeps_of_registry_eq rfl (by simp [session?, openSession, Table.get?_set, different])

theorem keeps_closeSession (different : other ≠ id) :
    Keeps other relay (relay.closeSession id) := by
  unfold closeSession
  cases relay.session? id with
  | none => exact .refl other relay
  | some session =>
      have left : Keeps other relay (relay.teardown id) := keeps_teardown different
      refine left.trans (keeps_of_registry_eq rfl ?_)
      simp [session?, Table.get?_erase, different]

theorem keeps_closeLink (different : other ≠ id) : Keeps other relay (relay.closeLink id) :=
  keeps_of_registry_eq rfl (by simp [session?, closeLink, Table.get?_modify, different])

/-- **A request changes nothing for other sessions.** -/
theorem Outcome.keeps {session : Session} {request : Request} {after : Relay}
    {result : Except Refusal Reply} (outcome : relay.Outcome session request after result)
    (different : other ≠ session.id) : Keeps other relay after := by
  cases outcome with
  | refused _ => exact .refl other relay
  | informed _ _ _ _ => exact .refl other relay
  | @announced description name _ _ free =>
      have claimed : (relay.channelAt name).Keeps other { relay.channelAt name with
          producer := some session.id
          description := some description
          raw := some request.body } := Channel.keeps_claimed different free _ _
      exact ((keeps_ensureChannel other relay name).trans
        (keeps_modifyChannel (get?_ensureChannel relay name) claimed)).trans (keeps_negotiate different _)
  | boundOnly _ _ _ _ => exact keeps_negotiate different _
  | ungranted _ _ _ _ _ => exact keeps_negotiate different _
  | setUp _ _ _ _ _ => exact keeps_negotiate different _
  | recorded _ planned free =>
      exact (keeps_modifyChannel (streamPlan_ok planned).2.1
        (Channel.keeps_claimed different free _ _)).trans (keeps_negotiate different _)
  | played _ planned =>
      exact (keeps_negotiate different _).trans (keeps_modifyChannel (streamPlan_ok planned).2.1
        (Channel.keeps_subscribe different))
  | paused _ => exact keeps_negotiate different _
  | tornDown _ => exact (keeps_teardown different).trans (keeps_negotiate different _)

theorem keeps_route {session : Session} (different : other ≠ session.id) (request : Request) :
    Keeps other relay (relay.route Handlers.standard session request).1 := by
  rw [route_eq]
  exact (outcome_dispatch relay session request).keeps different

end Relay

end MediaRelay
