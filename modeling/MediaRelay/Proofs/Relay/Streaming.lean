import MediaRelay.Proofs.Relay.SetUps

/-! # Streaming sessions and their media

Streaming starts only if the media that the channel then describes are set up for its direction and
travel alike, and it fixes how media travel. A set-up is carried out in every state, so media that
are set up after that go their own ways. All others keep to what was checked
(`Relay.streams_since_start`).
-/

namespace MediaRelay

namespace Negotiation

/-- What streaming in a direction means for the media, given what the channel described at the start
and what was set up since. -/
structure Streams (negotiation : Negotiation) (direction : Direction) (description : Description)
    (since : List Handler.SetupPlan) : Prop where
  state : negotiation.state = direction.state
  kept : ∀ control media, negotiation.media.get? control = some media →
    Handler.SetupPlan.last? control since = none →
      media.isInterleaved = negotiation.interleaved ∧
        (control ∈ description.controls → (media.record = true ↔ direction = .record))
  renewed : ∀ control media plan, negotiation.media.get? control = some media →
    Handler.SetupPlan.last? control since = some plan →
      Media.ofTransport? (.ofNat plan.ordinal) plan.transport = some media

variable {negotiation changed : Negotiation} {direction : Direction} {description : Description}
  {since : List Handler.SetupPlan} {interleaved : Bool}

theorem mem_of_mapM {α β : Type} {read : α → Option β} {keys : List α} {found : List β}
    (all : keys.mapM read = some found) {key : α} (member : key ∈ keys) :
    ∃ value ∈ found, read key = some value := by
  induction keys generalizing found with
  | nil => exact nomatch member
  | cons first keys ih =>
      simp only [List.mapM_cons, Option.pure_def, Option.bind_eq_bind, Option.bind_eq_some_iff,
        Option.some.injEq] at all
      obtain ⟨value, here, values, there, rfl⟩ := all
      rcases List.mem_cons.mp member with rfl | later
      · exact ⟨value, List.mem_cons_self, here⟩
      · obtain ⟨value', among, read'⟩ := ih there later
        exact ⟨value', List.mem_cons_of_mem _ among, read'⟩

/-- What is checked before streaming starts. -/
theorem exists_of_framing?
    (travels : negotiation.framing? description direction = some interleaved) :
    description.controls ≠ [] ∧ ∀ control ∈ description.controls, ∃ media,
      negotiation.media.get? control = some media ∧ media.isInterleaved = interleaved ∧
        (media.record = true ↔ direction = .record) := by
  unfold framing? at travels
  split at travels
  · rename_i first rest listed
    split at travels
    · rename_i uniform
      rw [List.all_eq_true] at uniform
      rw [Option.some.injEq] at travels
      subst travels
      refine ⟨fun empty => ?_, fun control described => ?_⟩
      · rw [empty] at listed
        cases listed
      · obtain ⟨media, among, held⟩ := mem_of_mapM listed described
        have checked := uniform media among
        simp only [Bool.and_eq_true, decide_eq_true_eq] at checked
        exact ⟨media, held, checked.2, iff_of_eq checked.1⟩
    · cases travels
  · cases travels

/-- At the start all media are as was checked. Those that the channel does not describe travel like
the others. -/
theorem Alike.streams_start (alike : negotiation.Alike)
    (travels : negotiation.framing? description direction = some interleaved) :
    (negotiation.start direction interleaved).Streams direction description [] where
  state := rfl
  kept := by
    obtain ⟨filled, checked⟩ := exists_of_framing? travels
    intro control media listed _
    refine ⟨?_, fun described => ?_⟩
    · obtain ⟨first, others, controls⟩ := List.exists_cons_of_ne_nil filled
      obtain ⟨held, present, framing, _⟩ := checked first (controls ▸ List.mem_cons_self)
      exact (alike control media first held listed present).trans framing
    · obtain ⟨held, present, _, way⟩ := checked control described
      obtain rfl := Option.some.inj (present.symm.trans listed)
      exact way
  renewed := fun _ _ _ _ last => nomatch last

theorem Streams.congr (streams : negotiation.Streams direction description since)
    (state : changed.state = negotiation.state) (media : changed.media = negotiation.media)
    (interleaved : changed.interleaved = negotiation.interleaved) :
    changed.Streams direction description since where
  state := state.trans streams.state
  kept := by
    rw [media, interleaved]
    exact streams.kept
  renewed := by
    rw [media]
    exact streams.renewed

/-- A set-up renews one medium and leaves the others as they are. -/
theorem Streams.setUp {plan : Handler.SetupPlan} {medium : Media}
    (streams : negotiation.Streams direction description since)
    (asked : Media.ofTransport? (.ofNat plan.ordinal) plan.transport = some medium)
    (state : changed.state = negotiation.state)
    (media : changed.media = negotiation.media.set plan.control medium)
    (interleaved : changed.interleaved = negotiation.interleaved) :
    changed.Streams direction description (since ++ [plan]) where
  state := state.trans streams.state
  kept := by
    intro control held listed silent
    rw [Handler.SetupPlan.last?_concat] at silent
    split at silent
    · exact nomatch silent
    · rename_i different
      rw [media, Table.get?_set, if_neg (Ne.symm different)] at listed
      rw [interleaved]
      exact streams.kept control held listed silent
  renewed := by
    intro control held last listed told
    rw [media, Table.get?_set] at listed
    rw [Handler.SetupPlan.last?_concat] at told
    by_cases same : control = plan.control
    · subst same
      rw [if_pos rfl] at listed told
      obtain rfl := Option.some.inj told
      exact asked.trans listed
    · rw [if_neg same] at listed
      rw [if_neg (Ne.symm same)] at told
      exact streams.renewed control held last listed told

end Negotiation

namespace Relay

/-- A session streams in a direction. -/
def StreamsIn (relay : Relay) (id : SessionId) (direction : Direction) : Prop :=
  ∃ session, relay.session? id = some session ∧ session.negotiation.state = direction.state

/-- A run in which a session starts to stream in a direction: it is granted that, and has streamed
ever since. -/
structure Since (config : RelayConfig) (id : SessionId) (direction : Direction)
    (before : List Event) (start : Event) (later : List Event) (name : Text)
    (description : Description) (negotiation : Negotiation) : Prop where
  granted : (reached config before).Grants start id direction.method
  described : ((reached config before).channelAt name).description = some description
  throughout : ∀ earlier, earlier <+: later →
    (reached config (before ++ start :: earlier)).StreamsIn id direction
  bound : negotiation.channel = some name
  streams : negotiation.Streams direction description
    ((reached config (before ++ [start])).setUps id later)

variable {config : RelayConfig} {id : SessionId} {direction : Direction} {before later : List Event}
  {start event : Event} {name : Text} {description : Description}
  {negotiation changed : Negotiation}

theorem Since.concat
    (since : Since config id direction before start later name description negotiation)
    (still : (reached config (before ++ start :: (later ++ [event]))).StreamsIn id direction)
    (bound : changed.channel = some name)
    (streams : changed.Streams direction description
      ((reached config (before ++ [start])).setUps id later ++
        ((reached config (before ++ start :: later)).setUp? id event).toList)) :
    Since config id direction before start (later ++ [event]) name description changed where
  granted := since.granted
  described := since.described
  throughout := by
    intro earlier first
    rcases List.prefix_concat_iff.mp first with rfl | shorter
    · exact still
    · exact since.throughout earlier shorter
  bound := bound
  streams := by
    have onwards : (reached config (before ++ [start])).afterAll later =
        reached config (before ++ start :: later) := by
      rw [← reached_append, List.append_assoc, List.singleton_append]
    rw [setUps_concat, onwards]
    exact streams

variable {relay : Relay} {session : Session} {events : List Event}

/-- Unless streaming has just been started, it goes on: the session streamed before and stays bound,
and at most one medium is set up. -/
theorem Renegotiates.goes_on (step : relay.Renegotiates id event negotiation changed)
    (streaming : changed.state = direction.state) :
    (∃ name description interleaved, relay.Grants event id direction.method ∧
      relay.setUp? id event = none ∧ negotiation.channel = some name ∧
      (relay.channelAt name).description = some description ∧
      negotiation.framing? description direction = some interleaved ∧
      changed = negotiation.start direction interleaved) ∨
    (negotiation.state = direction.state ∧
      (∀ name, negotiation.channel = some name → changed.channel = some name) ∧
      ∀ description since, negotiation.Streams direction description since →
        changed.Streams direction description (since ++ (relay.setUp? id event).toList)) := by
  cases step with
  | same silent =>
      refine .inr ⟨streaming, fun _ bound => bound, fun description since streams => ?_⟩
      rwa [append_of_silent silent]
  | bound silent free =>
      refine .inr ⟨streaming, fun name bound => ?_, fun description since streams => ?_⟩
      · rw [Negotiation.mayBind_iff.mp free name bound]
        rfl
      · rw [append_of_silent silent]
        exact streams.congr rfl rfl rfl
  | @setUp plan media told free _ asked goes =>
      generalize bare : ({ negotiation.bind plan.name with
        media := negotiation.media.set plan.control media } : Negotiation) = renewed at streaming
      have state : (renewed.settle plan.description).state = negotiation.state := by
        rcases renewed.state_settle plan.description with same | ⟨_, ready⟩
        · exact same.trans (bare ▸ rfl)
        · rw [streaming] at ready
          cases direction <;> exact nomatch ready
      have interleaved : (renewed.settle plan.description).interleaved =
          negotiation.interleaved := by
        unfold Negotiation.settle
        split <;> exact bare ▸ rfl
      refine .inr ⟨state.symm.trans streaming, fun name bound => ?_,
        fun description since streams => ?_⟩
      · rw [Negotiation.channel_settle, ← bare, Negotiation.mayBind_iff.mp free name bound]
        rfl
      · rw [told, Option.toList_some]
        refine streams.setUp asked state ?_ interleaved
        rw [Negotiation.media_settle, ← bare]
  | @started way name description interleaved silent granted bound described travels =>
      have same : way = direction := by
        cases way <;> cases direction <;> first | rfl | exact nomatch streaming
      subst same
      exact .inl ⟨name, description, interleaved, granted, silent, bound, described, travels, rfl⟩
  | paused _ =>
      have still := Negotiation.isStreaming_pause negotiation
      rw [streaming] at still
      cases direction <;> exact nomatch still
  | cleared _ => cases direction <;> exact nomatch streaming

/-- **A session that streams keeps to what was checked when it started**, with every medium that it
has not set up since. All its media travel alike, whenever they were set up. -/
theorem streams_since_start (found : (reached config events).session? id = some session)
    (streaming : session.negotiation.state = direction.state) :
    session.negotiation.Alike ∧ ∃ before start later name description,
      events = before ++ start :: later ∧
        Since config id direction before start later name description session.negotiation := by
  refine ⟨alike_reached found, ?_⟩
  refine negotiated_induction (motive := fun events negotiation => negotiation.Alike ∧
    (negotiation.state = direction.state → ∃ before start later name description,
      events = before ++ start :: later ∧
        Since config id direction before start later name description negotiation))
    (fun _ => ⟨Negotiation.alike_initial, fun state => ?_⟩) ?_ found |>.2 streaming
  · cases direction <;> exact nomatch state
  · intro events event session later left step ⟨alike, held⟩
    refine ⟨step.alike alike, fun streaming => ?_⟩
    have still : (reached config (events ++ [event])).StreamsIn id direction :=
      ⟨later, left, streaming⟩
    rcases step.goes_on streaming with
      ⟨name, description, interleaved, granted, silent, bound, described, travels, same⟩ |
      ⟨before, stays, renews⟩
    · refine ⟨events, event, [], name, description, rfl, granted, described,
        fun earlier first => ?_, ?_, ?_⟩
      · rwa [List.prefix_nil.mp first]
      · rw [same]
        exact bound
      · rw [same]
        exact alike.streams_start travels
    · obtain ⟨earlier, start, since, name, description, rfl, begun⟩ := held before
      rw [List.append_assoc, List.cons_append] at still ⊢
      exact ⟨earlier, start, since ++ [event], name, description, rfl,
        begun.concat still (stays name begun.bound) (renews description _ begun.streams)⟩

end Relay

namespace Negotiation

/-- All media go the way that the session streams, and travel as it does. -/
def InStep (negotiation : Negotiation) : Prop :=
  (negotiation.isPlaying = true → ∀ entry ∈ negotiation.media.entries,
    entry.2.record = false ∧ entry.2.isInterleaved = negotiation.interleaved) ∧
  (negotiation.isRecording = true → ∀ entry ∈ negotiation.media.entries,
    entry.2.record = true ∧ entry.2.isInterleaved = negotiation.interleaved)

instance (negotiation : Negotiation) : Decidable negotiation.InStep :=
  inferInstanceAs (Decidable (_ ∧ _))

end Negotiation

namespace Sample

/-- A viewer of two media sets up the first one to be sent, while it plays. -/
def turned : List Event :=
  [.opened recorder address, .requested recorder announce, .opened viewer distant,
    .requested viewer viewFrames, .requested viewer viewSecond, .requested viewer (plain .play),
    .requested viewer framed]

/-- A viewer of one medium sets it up in datagrams, while it plays in frames. -/
def moved : List Event :=
  [.opened recorder address, .requested recorder announceOne, .opened viewer distant,
    .requested viewer viewFrames, .requested viewer (plain .play),
    .requested viewer (setUp "/cam/t1".toList "RTP/AVP;unicast;client_port=5000-5001".toList)]

/-- A viewer has set up the second medium to be sent when the channel is described without it. -/
def outlived : List Event :=
  [.opened recorder address, .requested recorder announce, .opened viewer distant,
    .requested viewer viewFrames, .requested viewer
      (setUp "/cam/t2".toList "RTP/AVP/TCP;unicast;interleaved=4-5;mode=record".toList),
    .requested recorder announceOne, .requested viewer (plain .play)]

end Sample

namespace Relay

set_option maxRecDepth 100000 in
theorem streams_since_start_turned :
    ∃ session, (reached Sample.config Sample.turned).session? Sample.viewer = some session ∧
      session.negotiation.state = .playing ∧ session.negotiation.Alike ∧
      ∃ before start later name description, Sample.turned = before ++ start :: later ∧
        Since Sample.config Sample.viewer .play before start later name description
          session.negotiation := by
  have plays : ((reached Sample.config Sample.turned).session? Sample.viewer).map
      (fun session => session.negotiation.state) = some .playing := by decide +kernel
  obtain ⟨session, found, state⟩ := Option.map_eq_some_iff.mp plays
  exact ⟨session, found, state, streams_since_start found state⟩

set_option maxRecDepth 100000 in
/-- Media that are set up while a session streams need not go its way nor travel as it does, and
neither need media that the channel did not describe any more when streaming started. -/
theorem not_inStep_streaming :
    (∃ session ∈ (reached Sample.config Sample.turned).session? Sample.viewer,
      session.negotiation.isPlaying = true ∧ ¬ session.negotiation.InStep) ∧
    (∃ session ∈ (reached Sample.config Sample.moved).session? Sample.viewer,
      session.negotiation.isPlaying = true ∧ ¬ session.negotiation.InStep) ∧
    ∃ session ∈ (reached Sample.config Sample.outlived).session? Sample.viewer,
      session.negotiation.isPlaying = true ∧ ¬ session.negotiation.InStep := by
  refine ⟨?_, ?_, ?_⟩ <;> decide +kernel

end Relay

end MediaRelay
