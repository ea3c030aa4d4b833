import MediaRelay.Proofs.Relay.Atomicity
import MediaRelay.Proofs.Relay.Remembrance

/-! # What closed sessions leave behind

A session that is closed leaves every channel, the registered ones and those that are kept in use
from outside, which are registered too (`Relay.registered_of_mem_held`). So nothing refers to it when
it is returned, and the pool takes it whenever there is room. What is taken from the pool later is as
new (`Relay.close_releases`).
-/

namespace MediaRelay

/-- Nothing shows that a session comes from the pool. -/
structure Session.Unused (session : Session) : Prop where
  state : session.negotiation.state = .init
  media : session.negotiation.media.entries = []
  interleaved : session.negotiation.interleaved = false
  channel : session.negotiation.channel = none

theorem Session.unused_of_initial {session : Session}
    (initial : session.negotiation = .initial) : session.Unused := by
  constructor <;> rw [initial] <;> rfl

namespace SessionPool

variable {pool : SessionPool}

theorem accepts_eq_true_iff : pool.accepts false = true ↔ pool.idle < pool.capacity := by
  simp [accepts, idle]

theorem idle_release (pool : SessionPool) (referred : Bool) (session : Session) :
    (pool.release referred session).idle =
      if pool.accepts referred then pool.idle + 1 else pool.idle := by
  unfold release
  split <;> rfl

/-- The pool has at most as many idle sessions as it may have. -/
structure Within (pool : SessionPool) (limit : Nat) : Prop where
  capacity : pool.capacity = limit
  idle : pool.idle ≤ limit

variable {limit : Nat}

theorem Within.acquire (within : pool.Within limit) (id : SessionId) (peer : Address)
    (relayPorts : Option (UInt16 × UInt16)) :
    (pool.acquire id peer relayPorts).2.Within limit := by
  unfold SessionPool.acquire
  cases free : pool.free with
  | nil => exact within
  | cons first others =>
      have idle := within.idle
      rw [SessionPool.idle, free, List.length_cons] at idle
      exact ⟨within.capacity, Nat.le_of_succ_le idle⟩

theorem Within.release (within : pool.Within limit) (referred : Bool) (session : Session) :
    (pool.release referred session).Within limit := by
  unfold SessionPool.release
  split
  · rename_i accepted
    have room : pool.idle < pool.capacity :=
      of_decide_eq_true (Bool.and_eq_true_iff.mp accepted).2
    exact ⟨within.capacity, within.capacity ▸ room⟩
  · exact within

end SessionPool

namespace Relay

variable {relay after : Relay} {id : SessionId} {session : Session} {event : Event}

theorem Change.within (change : relay.Change event after) {limit : Nat}
    (within : relay.sessionPool.Within limit) : after.sessionPool.Within limit := by
  cases change with
  | idle same => rwa [same.sessionPool]
  | ensured same => rwa [same.sessionPool]
  | opened _ => exact within.acquire _ _ _
  | @requested _ session request _ =>
      rw [route_eq]
      rwa [(outcome_dispatch relay session request).fixed.2.1]
  | @closed id session found =>
      simp only [closeSession, found]
      exact within.release _ _
  | linkFailed => exact within

theorem within_reached (config : RelayConfig) (events : List Event) :
    (reached config events).sessionPool.Within config.idleSessions :=
  @reached_induction (fun relay => relay.sessionPool.Within config.idleSessions) config
    ⟨rfl, Nat.zero_le _⟩ (fun _ event within => (change_after _ event).within within) events

/-! ## Closing -/

/-- No registered channel refers to a session that is in none. -/
theorem refersTo_registry_eq_false
    (absent : ∀ name, (relay.channelAt name).refersTo id = false) :
    relay.registry.refersTo id = false := by
  rw [Registry.refersTo, List.any_eq_false]
  intro slot listed
  obtain ⟨name, found⟩ := (Table.mem_values_iff _ slot).mp listed
  have registered : relay.registry.get? name = some slot.channel := by
    rw [Registry.get?, found, Option.map_some]
  rw [← channelAt_of_found registered, absent name]
  exact Bool.false_ne_true

/-- Once a session has left all channels, the pool takes it if there is room. -/
theorem reusesOnClose_iff (relay : Relay) (id : SessionId) :
    relay.reusesOnClose id = true ↔ relay.sessionPool.idle < relay.sessionPool.capacity := by
  rw [reusesOnClose, refersTo_registry_eq_false (refersTo_channelAt_teardown relay id)]
  exact SessionPool.accepts_eq_true_iff

theorem registry_closeSession (found : relay.session? id = some session) :
    (relay.closeSession id).registry = (relay.teardown id).registry := by
  simp only [closeSession, found]

theorem idle_closeSession (found : relay.session? id = some session) :
    (relay.closeSession id).sessionPool.idle =
      if relay.reusesOnClose id then relay.sessionPool.idle + 1 else relay.sessionPool.idle := by
  simp only [closeSession, found, SessionPool.idle_release]
  rfl

/-- What is promised as an open session is closed. -/
structure Releases (relay : Relay) (id : SessionId) : Prop where
  unregistered : ∀ name channel, (relay.closeSession id).registry.get? name = some channel →
    channel.refersTo id = false
  /-- A channel that is kept in use from outside is registered, and has no part of the session. -/
  unheld : ∀ kept ∈ (relay.closeSession id).held, ∃ channel,
    (relay.closeSession id).registry.byId? kept = some channel ∧ channel.refersTo id = false
  /-- The pool takes the session if there is room. -/
  reused : relay.reusesOnClose id = true ↔ relay.sessionPool.idle < relay.sessionPool.capacity
  idle : (relay.closeSession id).sessionPool.idle =
    if relay.reusesOnClose id then relay.sessionPool.idle + 1 else relay.sessionPool.idle

theorem byId?_of_idOf? (distinct : relay.registry.Distinct) {name : Text} {kept : ChannelId}
    (means : relay.registry.idOf? name = some kept) :
    relay.registry.byId? kept = some (relay.channelAt name) := by
  obtain ⟨slot, found, rfl⟩ := Option.map_eq_some_iff.mp means
  have registered : relay.registry.get? name = some slot.channel := by
    rw [Registry.get?, found, Option.map_some]
  rw [Registry.byId?, distinct.nameOf?_eq found, Option.bind_some, registered,
    channelAt_of_found registered]

theorem releases_reached {config : RelayConfig} {events : List Event}
    (found : (reached config events).session? id = some session) :
    (reached config events).Releases id where
  unregistered := by
    intro name channel registered
    rw [registry_closeSession found] at registered
    rw [← channelAt_of_found registered]
    exact refersTo_channelAt_teardown _ id name
  unheld := by
    intro kept held
    have closed : (reached config events).closeSession id =
        reached config (events ++ [.closed id]) := (reached_concat config events (.closed id)).symm
    rw [closed] at held ⊢
    obtain ⟨name, means⟩ := registered_of_mem_held held
    refine ⟨_, byId?_of_idOf? (distinct_reached config _) means, ?_⟩
    apply (coherent_reached config _).gone id
    rw [← closed, session?_closeSession, if_pos rfl]
  reused := reusesOnClose_iff _ id
  idle := idle_closeSession found

/-- **Closing a session releases it.** Whatever has happened, no channel refers to a session that is
closed, registered or kept in use from outside, and the pool takes the session exactly if there is
room. The pool never has more than it may, and every session that is opened later is as new. -/
theorem close_releases (config : RelayConfig) (events : List Event) :
    (∀ id session, (reached config events).session? id = some session →
      (reached config events).Releases id) ∧
    (reached config events).sessionPool.Within config.idleSessions ∧
    ∀ id peer, (reached config events).session? id = none →
      ∃ session, ((reached config events).after (.opened id peer)).session? id = some session ∧
        session = ((reached config events).sessionPool.acquire id peer config.ports).1 ∧
        session.Unused := by
  refine ⟨fun id session found => releases_reached found, within_reached config events, ?_⟩
  intro id peer absent
  have cleared := (coherent_reached config events).cleared
  refine ⟨_, ?_, rfl, Session.unused_of_initial (negotiation_acquire cleared id peer _).1⟩
  have unopened : ¬ ((reached config events).session? id).isSome = true := by simp [absent]
  rw [after_opened, if_neg unopened, session?_openSession, if_pos rfl, ports_reached]

end Relay

namespace Sample

/-- The recorder's channel is kept in use from outside, by a handle and for a source. -/
def sentAndHeld : List Event := sent ++ [.held "cam".toList]

/-- The recorder is closed. -/
def sentAndClosed : List Event := sentAndHeld ++ [.closed recorder]

end Sample

namespace Relay

set_option maxRecDepth 100000 in
/-- The producer of a channel that is kept in use is closed: the channel stays and has nobody, and
the next session is made of what the producer has left. -/
theorem close_releases_recorder :
    ((reached Sample.config Sample.sentAndHeld).session? Sample.recorder).map
      (fun session => session.negotiation.state) = some .recording ∧
    (reached Sample.config Sample.sentAndHeld).Releases Sample.recorder ∧
    (reached Sample.config Sample.sentAndClosed).held = [1, 1] ∧
    (reached Sample.config Sample.sentAndClosed).registry.byId? 1 = some .vacant ∧
    (reached Sample.config Sample.sentAndClosed).sessionPool.idle = 1 ∧
    ∃ session, ((reached Sample.config Sample.sentAndClosed).after
      (.opened Sample.viewer Sample.distant)).session? Sample.viewer = some session ∧
        session.Unused := by
  have present : ((reached Sample.config Sample.sentAndHeld).session? Sample.recorder).isSome =
      true := by decide +kernel
  have absent : (reached Sample.config Sample.sentAndClosed).session? Sample.viewer = none := by
    decide +kernel
  obtain ⟨session, found⟩ := Option.isSome_iff_exists.mp present
  obtain ⟨later, opened, _, unused⟩ := (close_releases Sample.config Sample.sentAndClosed).2.2
    Sample.viewer Sample.distant absent
  exact ⟨by decide +kernel, (close_releases Sample.config Sample.sentAndHeld).1 _ session found,
    by decide +kernel, by decide +kernel, by decide +kernel, later, opened, unused⟩

end Relay

end MediaRelay
