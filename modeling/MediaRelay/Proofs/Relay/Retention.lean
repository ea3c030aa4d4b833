import MediaRelay.Proofs.Relay.Bystanders
import MediaRelay.Proofs.Relay.ProducerLock
import MediaRelay.Proofs.Relay.Tidiness

/-! # Which channels stay

A name means the channel that is registered under it, told by its identity. `Relay.Registers` has a
case for everything that an event can do to the names: they keep their meaning, one more gets a new
channel, or a session leaves and the channels that nothing then keeps in use are retired. So a name
keeps its meaning as long as its channel is in use, and no other channel is left when a session has
left (`Relay.retention_reached`).
-/

namespace MediaRelay

namespace Channel

variable {channel : Channel} {id : SessionId}

theorem isVacant_iff_refersTo : channel.isVacant = true ↔ ∀ id, channel.refersTo id = false := by
  constructor
  · intro vacant id
    obtain ⟨free, empty⟩ := isVacant_iff.mp vacant
    simp [refersTo, free, empty]
  · intro unused
    apply isVacant_iff.mpr
    constructor
    · cases held : channel.producer with
      | none => rfl
      | some holder =>
          have role := refersTo_iff.mpr (.inl held)
          exact (Bool.false_ne_true ((unused holder).symm.trans role)).elim
    · apply List.eq_nil_iff_forall_not_mem.mpr
      intro member listed
      have role := refersTo_iff.mpr (.inr listed)
      exact Bool.false_ne_true ((unused member).symm.trans role)

/-- A channel that a session has left is in use if and only if another session has a role in it. -/
theorem isVacant_remove_eq_false_iff :
    (channel.remove id).isVacant = false ↔ ∃ other, other ≠ id ∧ channel.refersTo other = true := by
  rw [Bool.eq_false_iff, ne_eq, isVacant_iff_refersTo]
  simp only [refersTo_remove, Bool.and_eq_false_imp, decide_eq_true_eq, not_forall,
    Bool.not_eq_false, exists_prop]

end Channel

namespace Registry

variable {registry : Registry} {name key : Text}

theorem idOf?_modify (registry : Registry) (name key : Text) (change : Channel → Channel) :
    (registry.modify name change).idOf? key = registry.idOf? key := by
  rw [idOf?, idOf?, modify, Table.get?_modify]
  by_cases same : key = name
  · rw [if_pos same, Option.map_map]
    rfl
  · rw [if_neg same]

theorem idOf?_eq_none_iff : registry.idOf? name = none ↔ registry.slots.contains name = false := by
  simp [idOf?, Table.contains]

theorem get?_eq_none_iff : registry.get? name = none ↔ registry.idOf? name = none := by
  simp [get?, idOf?]

theorem ensure_of_registered {id : ChannelId} (found : registry.idOf? name = some id) :
    registry.ensure name = registry := by
  have held : registry.slots.contains name = true := by
    obtain ⟨slot, stored, _⟩ := Option.map_eq_some_iff.mp found
    simp [Table.contains, stored]
  rw [ensure, if_pos held]

theorem idOf?_ensure_of_absent (absent : registry.idOf? name = none) (key : Text) :
    (registry.ensure name).idOf? key =
      if key = name then some registry.nextId else registry.idOf? key := by
  have missing := idOf?_eq_none_iff.mp absent
  simp only [ensure, missing, Bool.false_eq_true, ↓reduceIte, idOf?, Table.get?_set]
  by_cases same : key = name
  · simp only [same, ↓reduceIte, Option.map_some]
  · simp only [same, ↓reduceIte]

theorem nextId_ensure_of_absent (absent : registry.idOf? name = none) :
    (registry.ensure name).nextId = registry.nextId + 1 := by
  have missing := idOf?_eq_none_iff.mp absent
  simp only [ensure, missing, Bool.false_eq_true, ↓reduceIte]

end Registry

namespace Relay

/-- A session that is open leaves its channels by an event. -/
structure Departs (relay : Relay) (event : Event) (id : SessionId) : Prop where
  present : (relay.session? id).isSome = true
  leaves : relay.Leaves event id

/-- A channel stays in use when a session leaves: it is the default one, it is kept in use from
outside, or another session has a role in it. -/
def InUseWithout (relay : Relay) (id : SessionId) (name : Text) (slot : Slot) : Prop :=
  relay.registry.defaultChannel = some name ∨ slot.id ∈ relay.held ∨
    ∃ other, other ≠ id ∧ slot.channel.refersTo other = true

/-- The cases of what an event makes of the registry. -/
inductive Registers (relay : Relay) (event : Event) (after : Registry) : Prop where
  | same (stays : ∀ id, ¬ relay.Departs event id) (next : after.nextId = relay.registry.nextId)
      (ids : ∀ key, after.idOf? key = relay.registry.idOf? key)
  | added {name : Text} (stays : ∀ id, ¬ relay.Departs event id)
      (absent : relay.registry.idOf? name = none)
      (next : after.nextId = relay.registry.nextId + 1)
      (ids : ∀ key, after.idOf? key =
        if key = name then some relay.registry.nextId else relay.registry.idOf? key)
  | left {id : SessionId} (departs : relay.Departs event id)
      (swept : after = relay.registry.teardown relay.held id)

variable {relay after : Relay} {registry : Registry} {session : Session} {request : Request}
  {id : SessionId} {event : Event} {name : Text} {slot : Slot}

/-! ## One event -/

theorem Departs.acting (departs : relay.Departs event id) : event.actor? = some id := by
  rcases departs.leaves with ⟨request, reply, rfl, _⟩ | rfl <;> rfl

theorem Departs.granted (departs : relay.Departs (.requested id request) id) :
    request.known? = some .teardown ∧
      ∃ reply, relay.reply? (.requested id request) = some reply ∧ reply.response.status = .ok := by
  rcases departs.leaves with ⟨asked, reply, same, known, replied, success⟩ | same
  · obtain rfl := (Event.requested.inj same).2
    exact ⟨known, reply, replied, success⟩
  · exact nomatch same

theorem registers_ensure (stays : ∀ id, ¬ relay.Departs event id) (name : Text) :
    relay.Registers event (relay.registry.ensure name) := by
  cases found : relay.registry.idOf? name with
  | some id =>
      rw [Registry.ensure_of_registered found]
      exact .same stays rfl fun _ => rfl
  | none =>
      exact .added stays found (Registry.nextId_ensure_of_absent found)
        (Registry.idOf?_ensure_of_absent found)

theorem Registers.modify (registers : relay.Registers event registry) (name : Text)
    (change : Channel → Channel) (stays : ∀ id, ¬ relay.Departs event id) :
    relay.Registers event (registry.modify name change) := by
  have ids := registry.idOf?_modify name
  cases registers with
  | same _ next same => exact .same stays next fun key => (ids key change).trans (same key)
  | added _ absent next same =>
      exact .added stays absent next fun key => (ids key change).trans (same key)
  | left departs _ => exact (stays _ departs).elim

/-- The cases of what a request makes of the registry. -/
theorem Outcome.registers {result : Except Refusal Reply}
    (outcome : relay.Outcome session request after result)
    (present : (relay.session? session.id).isSome = true)
    (spared : ¬ (request.known? = some .teardown ∧ ∃ reply, result = .ok reply) →
      ∀ id, ¬ relay.Departs event id)
    (grants : request.known? = some .teardown → (∃ reply, result = .ok reply) →
      relay.Grants event session.id .teardown) : relay.Registers event after.registry := by
  have unchanged (stays : ∀ id, ¬ relay.Departs event id) :
      relay.Registers event relay.registry := .same stays rfl fun _ => rfl
  have other {method : Method} (admitted : session.Admits method request)
      (different : method ≠ .teardown) : ∀ id, ¬ relay.Departs event id := by
    apply spared
    rintro ⟨known, _⟩
    exact different (Option.some.inj (admitted.known.symm.trans known))
  cases outcome with
  | refused _ =>
      refine unchanged (spared ?_)
      rintro ⟨_, _, same⟩
      cases same
  | informed admitted query _ _ =>
      exact unchanged (other admitted (by rintro rfl; exact Bool.false_ne_true query))
  | announced admitted _ _ =>
      simp only [negotiate, modifyChannel, ensureChannel]
      exact (registers_ensure (other admitted (by decide)) _).modify _ _ (other admitted (by decide))
  | boundOnly admitted _ _ _ => exact unchanged (other admitted (by decide))
  | ungranted admitted _ _ _ _ => exact unchanged (other admitted (by decide))
  | setUp admitted _ _ _ _ => exact unchanged (other admitted (by decide))
  | recorded admitted _ _ =>
      simp only [negotiate, modifyChannel]
      exact (unchanged (other admitted (by decide))).modify _ _ (other admitted (by decide))
  | played admitted _ =>
      simp only [negotiate, modifyChannel]
      exact (unchanged (other admitted (by decide))).modify _ _ (other admitted (by decide))
  | paused admitted => exact unchanged (other admitted (by decide))
  | tornDown admitted => exact .left ⟨present, .inl (grants admitted.known ⟨_, rfl⟩)⟩ rfl

theorem registers_requested (found : relay.session? session.id = some session)
    (request : Request) :
    relay.Registers (.requested session.id request)
      (relay.after (.requested session.id request)).registry := by
  have outcome := outcome_dispatch relay session request
  rw [after_requested found, route_eq]
  refine outcome.registers (by rw [found]; rfl) ?_ ?_
  · intro refused id departs
    obtain rfl := Option.some.inj departs.acting
    obtain ⟨known, reply, replied, success⟩ := departs.granted
    rw [reply?_requested found, Option.some.injEq] at replied
    subst replied
    exact refused ⟨known, status_route_ok_iff.mp success⟩
  · intro known answered
    exact ⟨request, _, rfl, known, reply?_requested found request,
      status_route_ok_iff.mpr answered⟩

/-- **Every event does one of these to the registry.** -/
theorem registers_after (identified : relay.Identified) (event : Event) :
    relay.Registers event (relay.after event).registry := by
  have unchanged (stays : ∀ id, ¬ relay.Departs event id)
      (same : (relay.after event).registry = relay.registry) :
      relay.Registers event (relay.after event).registry :=
    same.symm ▸ .same stays rfl fun _ => rfl
  have still (silent : event.actor? = none) : ∀ id, ¬ relay.Departs event id :=
    fun id departs => Option.some_ne_none id (departs.acting.symm.trans silent)
  cases event with
  | requested id request =>
      cases found : relay.session? id with
      | some session =>
          obtain rfl := identified id session found
          exact registers_requested found request
      | none =>
          refine unchanged (fun other departs => ?_) (by simp only [after, found])
          obtain rfl := Option.some.inj departs.acting
          exact Bool.false_ne_true ((congrArg Option.isSome found).symm.trans departs.present)
  | closed id =>
      cases found : relay.session? id with
      | some session =>
          refine .left ⟨by rw [found]; rfl, .inr rfl⟩ ?_
          simp only [after, closeSession, found]
          rfl
      | none =>
          refine unchanged (fun other departs => ?_) (by simp only [after, closeSession, found])
          obtain rfl := Option.some.inj departs.acting
          exact Bool.false_ne_true ((congrArg Option.isSome found).symm.trans departs.present)
  | opened id peer =>
      refine unchanged (fun other departs => ?_) ?_
      · rcases departs.leaves with ⟨_, _, same, _⟩ | same <;> cases same
      · rw [after_opened]
        split <;> rfl
  | linkFailed id =>
      refine unchanged (fun other departs => ?_) rfl
      rcases departs.leaves with ⟨_, _, same, _⟩ | same <;> cases same
  | pushed target payload interleaved channel order =>
      exact unchanged (still rfl) (sameSessions_pushed relay target payload interleaved channel
        order).registry
  | received source half payload =>
      exact unchanged (still rfl) (sameSessions_takeDatagram relay source half payload).registry
  | held target => exact registers_ensure (still rfl) target
  | letGo _ => exact unchanged (still rfl) rfl
  | sourceForgotten _ => exact unchanged (still rfl) rfl
  | sourcesForgotten => exact unchanged (still rfl) rfl

theorem Outcome.held {result : Except Refusal Reply}
    (outcome : relay.Outcome session request after result) : after.held = relay.held := by
  cases outcome <;> rfl

/-- No session leaves the channels that it kept in use from outside, as it has none. -/
theorem Departs.held (departs : relay.Departs event id) (identified : relay.Identified) :
    (relay.after event).held = relay.held := by
  obtain ⟨session, found⟩ := Option.isSome_iff_exists.mp departs.present
  rcases departs.leaves with ⟨request, _, rfl, _⟩ | rfl
  · obtain rfl := identified id session found
    rw [after_requested found, route_eq]
    exact (outcome_dispatch relay session request).held
  · simp only [Relay.after, closeSession, found]
    rfl

/-- What a session leaves of a name, if anything. -/
theorem slots_after_departs (departs : relay.Departs event id) (identified : relay.Identified)
    (name : Text) :
    (relay.after event).registry.slots.get? name =
      ((relay.registry.slots.get? name).map fun slot =>
        { slot with channel := slot.channel.remove id }).filter
          (relay.registry.retains relay.held name) := by
  cases registers_after identified event with
  | same stays _ _ => exact (stays id departs).elim
  | added stays _ _ _ => exact (stays id departs).elim
  | left others swept =>
      obtain rfl := Option.some.inj (departs.acting.symm.trans others.acting)
      rw [swept, Registry.slots_teardown]

theorem inUseWithout_iff_retains :
    relay.InUseWithout id name slot ↔
      relay.registry.retains relay.held name { slot with channel := slot.channel.remove id } =
        true := by
  rw [InUseWithout, ← Channel.isVacant_remove_eq_false_iff, Registry.retains_iff]

/-- **A name keeps its meaning through an event just if its channel stays in use.** -/
theorem idOf?_after_iff (identified : relay.Identified) (event : Event)
    (found : relay.registry.slots.get? name = some slot) :
    (relay.after event).registry.idOf? name = some slot.id ↔
      ∀ id, relay.Departs event id → relay.InUseWithout id name slot := by
  have means : relay.registry.idOf? name = some slot.id := by rw [Registry.idOf?, found]; rfl
  cases registers_after identified event with
  | same stays _ ids => exact iff_of_true ((ids name).trans means) fun id departs => (stays id departs).elim
  | added stays absent _ ids =>
      refine iff_of_true ?_ fun id departs => (stays id departs).elim
      rw [ids, if_neg ?_, means]
      rintro rfl
      exact nomatch absent.symm.trans means
  | @left leaver departs _ =>
      have left := slots_after_departs departs identified name
      rw [found, Option.map_some, Option.filter_some] at left
      rw [Registry.idOf?, left]
      constructor
      · intro kept id others
        obtain rfl := Option.some.inj (departs.acting.symm.trans others.acting)
        rw [inUseWithout_iff_retains]
        by_contra lost
        simp [lost] at kept
      · intro used
        simp only [inUseWithout_iff_retains.mp (used leaver departs), ↓reduceIte, Option.map_some]

/-- A name that an event leaves registered keeps its meaning. -/
theorem idOf?_after_cases (identified : relay.Identified) (event : Event) {channelId : ChannelId}
    (means : relay.registry.idOf? name = some channelId) :
    (relay.after event).registry.idOf? name = some channelId ∨
      (relay.after event).registry.idOf? name = none := by
  cases registers_after identified event with
  | same _ _ ids => exact .inl ((ids name).trans means)
  | added _ absent _ ids =>
      refine .inl ?_
      rw [ids, if_neg ?_, means]
      rintro rfl
      exact nomatch absent.symm.trans means
  | left departs _ =>
      obtain ⟨slot, found, rfl⟩ := Option.map_eq_some_iff.mp means
      rw [Registry.idOf?, slots_after_departs departs identified name, found, Option.map_some,
        Option.filter_some]
      split
      · exact .inl rfl
      · exact .inr rfl

/-! ## Identities last -/

/-- An identity that was given out is that of one name for ever. -/
structure Reserved (relay : Relay) (id : ChannelId) (name : Text) : Prop where
  issued : id < relay.registry.nextId
  only : ∀ key, relay.registry.idOf? key = some id → key = name

theorem reserved_of_registered (distinct : relay.registry.Distinct) {channelId : ChannelId}
    (means : relay.registry.idOf? name = some channelId) : relay.Reserved channelId name := by
  obtain ⟨slot, found, rfl⟩ := Option.map_eq_some_iff.mp means
  refine ⟨distinct.issued name slot found, fun key other => ?_⟩
  obtain ⟨twin, listed, same⟩ := Option.map_eq_some_iff.mp other
  exact distinct.apart key name twin slot listed found same

theorem Reserved.step {channelId : ChannelId} (reserved : relay.Reserved channelId name)
    (identified : relay.Identified) (event : Event) : (relay.after event).Reserved channelId name := by
  cases registers_after identified event with
  | same _ next ids =>
      exact ⟨next ▸ reserved.issued, fun key means => reserved.only key (ids key ▸ means)⟩
  | @added fresh _ _ next ids =>
      refine ⟨next ▸ Nat.lt_succ_of_lt reserved.issued, fun key means => ?_⟩
      rw [ids] at means
      split at means
      · exact absurd (Option.some.inj means) (Nat.ne_of_gt reserved.issued)
      · exact reserved.only key means
  | left departs swept =>
      refine ⟨swept ▸ reserved.issued, fun key means => reserved.only key ?_⟩
      obtain ⟨slot, kept, rfl⟩ := Option.map_eq_some_iff.mp means
      obtain ⟨earlier, found, rfl, _⟩ := Registry.slots_teardown_eq_some_iff.mp (swept ▸ kept)
      rw [Registry.idOf?, found]
      rfl

/-! ## Runs -/

theorem distinct_reached (config : RelayConfig) (events : List Event) :
    (reached config events).registry.Distinct :=
  @reached_induction (fun relay => relay.registry.Distinct) config
    (Registry.distinct_new config.defaultChannel)
    (fun _ event distinct => (change_after _ event).distinct distinct) events

theorem defaultChannel_reached (config : RelayConfig) (events : List Event) :
    (reached config events).registry.defaultChannel = config.defaultChannel := by
  refine @reached_induction (fun relay => relay.registry.defaultChannel = config.defaultChannel)
    config ?_ (fun _ event same => (change_after _ event).standing.trans same) events
  change (Registry.new config.defaultChannel).defaultChannel = config.defaultChannel
  cases config.defaultChannel with
  | none => rfl
  | some name => exact defaultChannel_ensure _ name

/-- By induction on the run, in each step of which the channel stays in use. -/
theorem idOf?_while_in_use {config : RelayConfig} {events later : List Event}
    {channelId : ChannelId}
    (means : (reached config events).registry.idOf? name = some channelId)
    (used : ∀ earlier event id slot, earlier ++ [event] <+: later →
      (reached config (events ++ earlier)).Departs event id →
      (reached config (events ++ earlier)).registry.slots.get? name = some slot →
      slot.id = channelId → (reached config (events ++ earlier)).InUseWithout id name slot) :
    (reached config (events ++ later)).registry.idOf? name = some channelId := by
  induction later using List.reverseRecOn with
  | nil => rwa [List.append_nil]
  | append_singleton later event ih =>
      have before := ih fun earlier event id slot first =>
        used earlier event id slot (first.trans (List.prefix_append later _))
      obtain ⟨slot, found, rfl⟩ := Option.map_eq_some_iff.mp before
      rw [← List.append_assoc, reached_concat]
      exact (idOf?_after_iff (identified_reached config _) event found).mpr fun id departs =>
        used later event id slot (List.prefix_refl _) departs found rfl

/-- By induction on the run. -/
theorem reserved_later {config : RelayConfig} {events : List Event} {channelId : ChannelId}
    (means : (reached config events).registry.idOf? name = some channelId) (later : List Event) :
    (reached config (events ++ later)).Reserved channelId name := by
  induction later using List.reverseRecOn with
  | nil =>
      rw [List.append_nil]
      exact reserved_of_registered (distinct_reached config events) means
  | append_singleton later event ih =>
      rw [← List.append_assoc, reached_concat]
      exact ih.step (identified_reached config _) event

theorem idOf?_defaultChannel (config : RelayConfig) (events : List Event)
    (default : config.defaultChannel = some name) :
    (reached config events).registry.idOf? name = some 0 := by
  refine @reached_induction (fun relay => relay.registry.idOf? name = some 0) config ?_ ?_ events
  · change (Registry.new config.defaultChannel).idOf? name = some 0
    rw [default]
    exact (Registry.idOf?_ensure_of_absent rfl name).trans (if_pos rfl)
  · intro events event means
    obtain ⟨slot, found, issued⟩ := Option.map_eq_some_iff.mp means
    rw [← issued]
    refine (idOf?_after_iff (identified_reached config events) event found).mpr ?_
    intro id _
    exact .inl ((defaultChannel_reached config events).trans default)

/-- What is promised about the channels that are registered when a run has been made. -/
structure Retention (config : RelayConfig) (events : List Event) : Prop where
  /-- An event leaves a channel under its name if and only if the channel stays in use. -/
  kept : ∀ event name slot, (reached config events).registry.slots.get? name = some slot →
    ((reached config (events ++ [event])).registry.idOf? name = some slot.id ↔
      ∀ id, (reached config events).Departs event id →
        (reached config events).InUseWithout id name slot)
  /-- So does a run in each step of which it stays in use. -/
  lasting : ∀ later name channelId,
    (reached config events).registry.idOf? name = some channelId →
    (∀ earlier event id slot, earlier ++ [event] <+: later →
      (reached config (events ++ earlier)).Departs event id →
      (reached config (events ++ earlier)).registry.slots.get? name = some slot →
      slot.id = channelId → (reached config (events ++ earlier)).InUseWithout id name slot) →
    (reached config (events ++ later)).registry.idOf? name = some channelId
  /-- A channel that was registered never comes back under another name. -/
  own : ∀ later name key channelId,
    (reached config events).registry.idOf? name = some channelId →
    (reached config (events ++ later)).registry.idOf? key = some channelId → key = name
  /-- The default channel is always the one that was registered first. -/
  standing : ∀ name, config.defaultChannel = some name →
    (reached config events).registry.idOf? name = some 0
  /-- When a session has left, no channel is left but the default one and those in use. -/
  swept : ∀ event id name slot, (reached config events).Departs event id →
    (reached config (events ++ [event])).registry.slots.get? name = some slot →
      config.defaultChannel = some name ∨ slot.id ∈ (reached config (events ++ [event])).held ∨
        slot.channel.isVacant = false
  /-- Without handles from outside, every other channel has a producer or a subscriber. -/
  used : (∀ event ∈ events, event.keepsChannels = false) → ∀ name channel,
    (reached config events).registry.get? name = some channel →
      config.defaultChannel = some name ∨ channel.producer.isSome = true ∨
        channel.subscribers ≠ []

theorem swept_departs {config : RelayConfig} {events : List Event}
    (departs : (reached config events).Departs event id)
    (found : (reached config (events ++ [event])).registry.slots.get? name = some slot) :
    config.defaultChannel = some name ∨ slot.id ∈ (reached config (events ++ [event])).held ∨
      slot.channel.isVacant = false := by
  have identified := identified_reached config events
  rw [reached_concat, slots_after_departs departs identified] at found
  have retained := (Option.filter_eq_some_iff.mp found).2
  rw [Registry.retains_iff, defaultChannel_reached] at retained
  rwa [reached_concat, departs.held identified]

theorem used_of_tidy {config : RelayConfig} {events : List Event} {channel : Channel}
    (free : ∀ event ∈ events, event.keepsChannels = false)
    (found : (reached config events).registry.get? name = some channel) :
    config.defaultChannel = some name ∨ channel.producer.isSome = true ∨
      channel.subscribers ≠ [] := by
  rcases ((tidy_reached config free).registered name).mp (by rw [found]; rfl) with default | used
  · exact .inl ((defaultChannel_reached config events).symm.trans default)
  · rw [channelAt_of_found found, Channel.isVacant, Bool.and_eq_false_iff] at used
    rcases used with held | listed
    · exact .inr (.inl (by rwa [Option.isNone_eq_false_iff] at held))
    · exact .inr (.inr (by simpa using listed))

/-- **Channels are neither lost nor leaked**, whatever has happened to the relay. -/
theorem retention_reached (config : RelayConfig) (events : List Event) :
    Retention config events where
  kept := by
    intro event name slot found
    rw [reached_concat]
    exact idOf?_after_iff (identified_reached config events) event found
  lasting := fun _ _ _ means used => idOf?_while_in_use means used
  own := fun later _ key _ means still => (reserved_later means later).only key still
  standing := fun _ default => idOf?_defaultChannel config events default
  swept := fun _ _ _ _ departs found => swept_departs departs found
  used := fun free _ _ found => used_of_tidy free found

set_option maxRecDepth 100000 in
/-- A channel outlives its producer if a handle is kept on it, until the next session leaves after
the handle is gone. -/
example :
    (reached {} (Sample.halfSetUp ++ [.closed Sample.recorder])).registry.idOf? "cam".toList =
        none ∧
    (reached {} (Sample.halfSetUp ++ [.held "cam".toList, .closed Sample.recorder,
        .opened Sample.viewer Sample.distant, .letGo 1])).registry.idOf? "cam".toList = some 1 ∧
    (reached {} (Sample.halfSetUp ++ [.held "cam".toList, .closed Sample.recorder,
        .opened Sample.viewer Sample.distant, .letGo 1,
        .closed Sample.viewer])).registry.idOf? "cam".toList = none := by
  decide +kernel

end Relay

end MediaRelay
