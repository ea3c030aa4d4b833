import MediaRelay.Proofs.Relay.Alike

/-! # Which channels are registered

As long as no channel is kept in use from outside, exactly the default channel and the channels that
some session uses are registered (`Relay.tidy_reached`). So what is registered is known from who
uses what.
-/

namespace MediaRelay

/-- Whether an event may keep a channel in use from outside: with a handle, or for the source of a
datagram. -/
def Event.keepsChannels : Event → Bool
  | .held _ | .received .. => true
  | _ => false

theorem Channel.isVacant_subscribe (channel : Channel) (id : SessionId) :
    (channel.subscribe id).isVacant = false := by
  have listed : id ∈ (channel.subscribe id).subscribers :=
    Channel.mem_subscribers_subscribe.mpr (.inr rfl)
  rw [Bool.eq_false_iff, ne_eq, Channel.isVacant_iff]
  rintro ⟨_, empty⟩
  rw [empty] at listed
  exact nomatch listed

namespace Relay

/-- Exactly the default channel and the channels that are in use are registered. -/
structure Tidy (relay : Relay) : Prop where
  handles : relay.handles = []
  sources : relay.sources = {}
  registered : ∀ name, (relay.registry.get? name).isSome = true ↔
    relay.registry.defaultChannel = some name ∨ (relay.channelAt name).isVacant = false

variable {relay after : Relay} {id : SessionId} {session : Session} {request : Request}
  {event : Event} {name : Text}

theorem Tidy.held (tidy : relay.Tidy) : relay.held = [] := by
  rw [Relay.held, tidy.handles, tidy.sources]
  rfl

theorem Tidy.congr (tidy : relay.Tidy) (registry : after.registry = relay.registry)
    (handles : after.handles = relay.handles) (sources : after.sources = relay.sources) :
    after.Tidy where
  handles := handles.trans tidy.handles
  sources := sources.trans tidy.sources
  registered := by
    intro name
    rw [channelAt, registry, ← channelAt]
    exact tidy.registered name

/-- Tidy relays with the same channels have the same channels registered. -/
theorem Tidy.get?_eq (tidy : relay.Tidy) (other : after.Tidy)
    (standing : after.registry.defaultChannel = relay.registry.defaultChannel) {name : Text}
    (same : after.channelAt name = relay.channelAt name) :
    after.registry.get? name = relay.registry.get? name := by
  have registered : (after.registry.get? name).isSome = (relay.registry.get? name).isSome := by
    rw [Bool.eq_iff_iff, other.registered, tidy.registered, standing, same]
  unfold channelAt at same
  cases found : relay.registry.get? name with
  | none =>
      rwa [found, Option.isSome_none, Option.isSome_eq_false_iff, Option.isNone_iff_eq_none]
        at registered
  | some channel =>
      rw [found, Option.isSome_some, Option.isSome_iff_exists] at registered
      obtain ⟨other, held⟩ := registered
      rw [held, found, Option.getD_some, Option.getD_some] at same
      rw [held, same]

theorem tidy_new (config : RelayConfig) : (new config).Tidy where
  handles := rfl
  sources := rfl
  registered := by
    intro name
    have vacant : ((new config).channelAt name).isVacant = true := by
      rw [channelAt_new]
      rfl
    have registry : (new config).registry = .new config.defaultChannel := rfl
    rw [vacant, registry]
    cases config.defaultChannel with
    | none =>
        have empty : ({ defaultChannel := none } : Registry).get? name = none := rfl
        simp [empty, Registry.new]
    | some standing =>
        have empty : ({ defaultChannel := some standing } : Registry).get? name = none := rfl
        simp only [Registry.new, Registry.get?_ensure, defaultChannel_ensure, empty]
        by_cases same : name = standing <;> simp [same, eq_comm]

/-! ## Operations -/

theorem Tidy.modified (tidy : relay.Tidy) {channel : Channel}
    (found : relay.registry.get? name = some channel) (change : Channel → Channel)
    (used : (change channel).isVacant = false) : (relay.modifyChannel name change).Tidy where
  handles := tidy.handles
  sources := tidy.sources
  registered := by
    intro key
    have standing : (relay.modifyChannel name change).registry.defaultChannel =
        relay.registry.defaultChannel := rfl
    have changed : (relay.modifyChannel name change).registry.get? key =
        if key = name then (relay.registry.get? key).map change else relay.registry.get? key :=
      Registry.get?_modify relay.registry name key change
    rw [channelAt_modifyChannel found, standing, changed]
    by_cases same : key = name
    · subst same
      simp [found, used]
    · simp only [same, ↓reduceIte]
      exact tidy.registered key

theorem Tidy.replaced (tidy : relay.Tidy) {channel : Channel} (used : channel.isVacant = false) :
    ((relay.ensureChannel name).modifyChannel name fun _ => channel).Tidy where
  handles := tidy.handles
  sources := tidy.sources
  registered := by
    intro key
    have standing : ((relay.ensureChannel name).modifyChannel name fun _ =>
        channel).registry.defaultChannel = relay.registry.defaultChannel :=
      defaultChannel_ensure relay.registry name
    have changed : ((relay.ensureChannel name).modifyChannel name fun _ =>
        channel).registry.get? key =
          if key = name then some channel else relay.registry.get? key := by
      unfold modifyChannel ensureChannel
      rw [Registry.get?_modify, Registry.get?_ensure]
      by_cases same : key = name <;> simp [same]
    rw [channelAt_replaced, standing, changed]
    by_cases same : key = name
    · simp [same, used]
    · simp only [same, ↓reduceIte]
      exact tidy.registered key

/-- A session that leaves leaves the default channel and what others use. -/
theorem Tidy.teardown (tidy : relay.Tidy) (id : SessionId) : (relay.teardown id).Tidy where
  handles := tidy.handles
  sources := tidy.sources
  registered := by
    intro name
    have standing : (relay.teardown id).registry.defaultChannel =
        relay.registry.defaultChannel := rfl
    have left : (relay.teardown id).registry.slots.get? name =
        ((relay.registry.slots.get? name).map fun slot =>
          { slot with channel := slot.channel.remove id }).filter
            (relay.registry.retains [] name) := by
      rw [← relay.registry.slots_teardown, ← tidy.held]
      rfl
    have before := tidy.registered name
    have vacant : Channel.vacant.isVacant = true := rfl
    rw [channelAt, standing, Registry.get?, left]
    cases stored : relay.registry.slots.get? name with
    | none =>
        have unregistered : relay.registry.get? name = none := by simp [Registry.get?, stored]
        simp only [unregistered, Option.isSome_none, Bool.false_eq_true, false_iff, not_or]
          at before
        simp [before.1, vacant]
    | some slot =>
        simp only [Option.map_some, Option.filter_some, Registry.retains]
        by_cases default : relay.registry.defaultChannel = some name
        · simp [default]
        · by_cases unused : (slot.channel.remove id).isVacant = true <;>
            simp [default, unused, vacant]

/-! ## Events -/

theorem Outcome.tidy {result : Except Refusal Reply}
    (outcome : relay.Outcome session request after result) (tidy : relay.Tidy) : after.Tidy := by
  cases outcome with
  | refused _ => exact tidy
  | informed _ _ _ _ => exact tidy
  | announced _ _ _ => exact (tidy.replaced rfl).congr rfl rfl rfl
  | boundOnly _ _ _ _ => exact tidy.congr rfl rfl rfl
  | ungranted _ _ _ _ _ => exact tidy.congr rfl rfl rfl
  | setUp _ _ _ _ _ => exact tidy.congr rfl rfl rfl
  | @recorded plan _ planned _ =>
      have claimed := tidy.modified (streamPlan_ok planned).2.1
        (fun _ => { plan.channel with producer := some session.id }) rfl
      exact claimed.congr rfl rfl rfl
  | @played plan _ planned =>
      have joined := tidy.modified (streamPlan_ok planned).2.1
        (fun channel => channel.subscribe session.id)
        (Channel.isVacant_subscribe plan.channel session.id)
      exact joined.congr rfl rfl rfl
  | paused _ => exact tidy.congr rfl rfl rfl
  | tornDown _ => exact (tidy.teardown session.id).congr rfl rfl rfl

/-- An event that keeps no channel in use leaves the relay tidy. -/
theorem Tidy.step (tidy : relay.Tidy) (free : event.keepsChannels = false) :
    (relay.after event).Tidy := by
  cases event with
  | opened id peer =>
      rw [after_opened]
      split
      · exact tidy
      · exact tidy.congr rfl rfl rfl
  | requested id request =>
      cases found : relay.session? id with
      | none => simpa only [Relay.after, found] using tidy
      | some session =>
          rw [after_requested found, route_eq]
          exact (outcome_dispatch relay session request).tidy tidy
  | closed id =>
      cases found : relay.session? id with
      | none => simpa only [Relay.after, closeSession, found] using tidy
      | some session =>
          simp only [Relay.after, closeSession, found]
          exact (tidy.teardown id).congr rfl rfl rfl
  | linkFailed id => exact tidy.congr rfl rfl rfl
  | pushed name payload interleaved channel order =>
      simp only [Relay.after]
      split <;> exact tidy.congr rfl rfl rfl
  | received source half payload => exact (Bool.false_ne_true free.symm).elim
  | held name => exact (Bool.false_ne_true free.symm).elim
  | letGo id =>
      refine tidy.congr rfl ?_ rfl
      change relay.handles.erase id = relay.handles
      rw [tidy.handles]
      rfl
  | sourceForgotten source =>
      refine tidy.congr rfl rfl ?_
      change relay.sources.erase source = relay.sources
      rw [tidy.sources]
      rfl
  | sourcesForgotten => exact tidy.congr rfl rfl tidy.sources.symm

/-- **Nothing but the default channel and channels in use is registered**, in all that is reached
without keeping channels from outside. -/
theorem tidy_reached (config : RelayConfig) {events : List Event}
    (free : ∀ event ∈ events, event.keepsChannels = false) : (reached config events).Tidy := by
  induction events using List.reverseRecOn with
  | nil => exact tidy_new config
  | append_singleton events event ih =>
      rw [reached_concat]
      exact (ih fun earlier member => free earlier (List.mem_append_left _ member)).step
        (free event (List.mem_append_right _ (List.mem_singleton_self event)))

end Relay

end MediaRelay
