import MediaRelay.Proofs.Connection.Station
import MediaRelay.Proofs.Message.RoundTrip
import MediaRelay.Proofs.Relay.Bystanders
import MediaRelay.Proofs.Relay.Tidiness

/-! # Connections leave no trace

A connection that comes to a relay, sends whatever it likes and is cleaned up leaves the relay as it
was: the same channels are registered, each with the producer, the description and the subscribers
that it had, and no other session has changed (`Connection.run_leaves_no_trace`). All the time the
relay is as before without what the connection's session does in the channels (`Relay.Visited`), and
in the end the session has no part in any of them.
-/

namespace MediaRelay

namespace Channel

variable {channel before after : Channel} {id : SessionId} {said : SessionId → Option Bytes}

theorem remove_subscribe (channel : Channel) (id : SessionId) :
    (channel.subscribe id).remove id = channel.remove id := by
  unfold Channel.subscribe
  split
  · rfl
  · simp [Channel.remove]

/-- A channel that no other session produces has nothing but subscribers without the session. -/
theorem Tells.remove_eq (tells : channel.Tells said) (free : channel.lockedFor id = false) :
    channel.remove id =
      { subscribers := channel.subscribers.filter fun subscriber => subscriber ≠ id } := by
  cases tells with
  | nothing unheld undescribed empty =>
      rw [remove_of_producer_ne (by rw [unheld]; nofun), unheld, undescribed, empty]
  | latest held _ _ _ _ =>
      obtain rfl := lockedFor_eq_false_iff.mp free _ held
      exact if_pos held

/-- What a session does to a channel is undone when the session leaves. -/
theorem Step.remove_eq {announced? : SessionId → Option Bytes}
    (step : before.Step (some id) announced? after) (tells : before.Tells said) :
    after.remove id = before.remove id := by
  cases step with
  | same _ => rfl
  | described acting _ _ _ free =>
      obtain rfl := Option.some.inj acting
      rw [tells.remove_eq free]
      exact if_pos rfl
  | claimed acting _ free told =>
      obtain rfl := Option.some.inj acting
      rw [← tells.claim told free]
  | subscribed acting _ =>
      obtain rfl := Option.some.inj acting
      exact remove_subscribe before id
  | left acting _ =>
      obtain rfl := Option.some.inj acting
      exact remove_remove before id
  | retired acting _ unused =>
      obtain rfl := Option.some.inj acting
      rw [← (tells.remove id).eq_vacant unused]
      exact remove_remove before id

end Channel

namespace Relay

/-- A relay that one session alone has changed: without it every channel is as before. -/
structure Visited (id : SessionId) (before after : Relay) : Prop where
  channels : ∀ name, (after.channelAt name).remove id = before.channelAt name
  others : ∀ other, other ≠ id → after.session? other = before.session? other
  standing : after.registry.defaultChannel = before.registry.defaultChannel
  sound : after.Sound
  telling : after.Telling
  tidy : after.Tidy

variable {before relay after : Relay} {id : SessionId} {event : Event}

theorem Telling.step (telling : relay.Telling) (identified : relay.Identified) (event : Event) :
    (relay.after event).Telling := fun name =>
  have ⟨_, tells⟩ := telling name
  ⟨_, tells.step (step_after identified event name)⟩

/-- A session that is not open has changed nothing. -/
theorem visited_refl (sound : relay.Sound) (telling : relay.Telling) (tidy : relay.Tidy)
    (absent : relay.session? id = none) : Visited id relay relay where
  channels := fun name => Channel.remove_eq_self (sound.coherent.gone id absent name)
  others := fun _ _ => rfl
  standing := rfl
  sound := sound
  telling := telling
  tidy := tidy

theorem Visited.step (visited : Visited id before relay) (about : event.actor? = some id) :
    Visited id before (relay.after event) where
  channels := by
    intro name
    obtain ⟨said, tells⟩ := visited.telling name
    have step := step_after visited.sound.identified event name
    rw [about] at step
    rw [step.remove_eq tells, visited.channels]
  others := by
    intro other different
    have apart : event.actor? ≠ some other := fun same =>
      different (Option.some.inj (same.symm.trans about))
    have kept := (change_after relay event).keeps visited.sound.identified apart
    exact kept.session.trans (visited.others other different)
  standing := (change_after relay event).standing.trans visited.standing
  sound := visited.sound.step event
  telling := visited.telling.step visited.sound.identified event
  tidy := visited.tidy.step (by cases event <;> first | rfl | exact nomatch about)

theorem Visited.acts (visited : Visited id before relay) (acts : relay.ActsFor id after) :
    Visited id before after := by
  induction acts with
  | pooled full =>
      exact ⟨visited.channels, visited.others, visited.standing, visited.sound.withPackages full,
        visited.telling, visited.tidy.congr rfl rfl rfl⟩
  | next _ about ih => exact ih.step about

/-- Once the visitor is gone, all is as before. -/
theorem Visited.eq_before (visited : Visited id before after) (tidy : before.Tidy)
    (absent : before.session? id = none) (gone : after.session? id = none) :
    (∀ name, after.registry.get? name = before.registry.get? name) ∧
      ∀ other, after.session? other = before.session? other := by
  refine ⟨fun name => tidy.get?_eq visited.tidy visited.standing ?_, fun other => ?_⟩
  · rw [← visited.channels name, Channel.remove_eq_self (visited.sound.coherent.gone id gone name)]
  · by_cases own : other = id
    · rw [own, gone, absent]
    · exact visited.others other own

end Relay

namespace Connection

variable {connection : Connection} {relay before : Relay} {running : Bool} {done : Progress}
  {id : SessionId}

/-! ## The end of a stream -/

/-- A turn of a connection ends it, or takes at least one byte of its input. -/
def Advances (connection : Connection) (done : Progress) : Prop :=
  done.ending.isSome = true ∨
    done.connection.input.length < connection.input.length ∧
      done.connection.finished = connection.finished

theorem broken_of_finished (finished : connection.finished = true) (relay : Relay)
    (error : RelayError) : ∃ done, connection.broken relay error = some done ∧
      connection.Advances done := by
  unfold Connection.broken
  split
  · exact ⟨_, if_pos finished, .inl rfl⟩
  · exact ⟨_, rfl, .inl rfl⟩

theorem requestTurn_of_finished (finished : connection.finished = true) (relay : Relay) :
    ∃ done, connection.requestTurn running relay = some done ∧ connection.Advances done := by
  unfold requestTurn
  cases read : Request.read connection.input with
  | error error =>
      cases error with
      | malformed _ => exact ⟨_, rfl, .inl rfl⟩
      | unsupportedVersion _ => exact ⟨_, rfl, .inl rfl⟩
      | _ => exact broken_of_finished finished relay _
  | ok read? =>
      cases read? with
      | none => exact ⟨_, if_pos finished, .inl rfl⟩
      | some opening =>
          obtain ⟨request, rest⟩ := opening
          have shorter := Request.length_lt_of_read read
          refine ⟨_, rfl, ?_⟩
          unfold answer
          dsimp only
          split
          · exact .inl rfl
          · exact .inr ⟨shorter, rfl⟩

theorem turn_of_finished (finished : connection.finished = true) (relay : Relay) :
    ∃ done, connection.turn running relay = some done ∧ connection.Advances done := by
  have shorter {room : Nat} {frame : Frame} {rest : Bytes}
      (read : Frame.read room connection.input = .ok (some (frame, rest))) :
      rest.length < connection.input.length := by
    have split := congrArg List.length (Frame.eq_append_of_read read).1
    simp only [List.length_append, Frame.head, List.length_cons, List.length_nil] at split
    omega
  unfold turn
  split
  · unfold feedTurn
    dsimp only
    split
    · rename_i read
      exact ⟨_, rfl, .inr ⟨shorter read, rfl⟩⟩
    · exact requestTurn_of_finished finished _
    · exact broken_of_finished finished _ _
  · unfold plainTurn
    split
    · split
      · rename_i read
        exact ⟨_, rfl, .inr ⟨shorter read, rfl⟩⟩
      · exact requestTurn_of_finished finished _
      · exact broken_of_finished finished _ _
    · exact requestTurn_of_finished finished _

/-- A connection that receives no more ends, if it may take as many turns as there are bytes and one
more. By induction on the turns. -/
theorem ending_advanceBy {turns : Nat} (finished : connection.finished = true)
    (enough : connection.input.length < turns) (relay : Relay) :
    (connection.advanceBy running turns relay).ending.isSome = true := by
  induction turns generalizing connection relay with
  | zero => exact absurd enough (Nat.not_lt_zero _)
  | succ turns ih =>
      obtain ⟨done, took, advances⟩ : ∃ done, connection.turn running relay = some done ∧
          connection.Advances done := turn_of_finished finished relay
      simp only [advanceBy, took]
      split
      · assumption
      · rename_i going
        obtain ⟨shorter, same⟩ := advances.resolve_left going
        exact ih (same.trans finished) (by omega) done.relay

/-! ## What is left behind -/

/-- By induction on the turns: each is done for the connection's own session. -/
theorem visited_advanceBy (visited : Relay.Visited id before relay)
    (serves : connection.Serves id relay) (running : Bool) (turns : Nat) :
    Relay.Visited id before (connection.advanceBy running turns relay).relay ∧
      (connection.advanceBy running turns relay).connection.Serves id
        (connection.advanceBy running turns relay).relay := by
  induction turns generalizing connection relay with
  | zero => exact ⟨visited, serves⟩
  | succ turns ih =>
      unfold advanceBy
      cases took : connection.turn running relay with
      | none => exact ⟨visited, serves⟩
      | some done =>
          obtain rfl := serves.named
          have turn := turn_cases visited.sound.full serves.known took
          have onwards := visited.acts turn.acts
          have still := turn.serves serves.known
          dsimp only
          split
          · exact ⟨onwards, still⟩
          · exact ih onwards still

/-- A connection that is cleaned up has no session any more. -/
theorem visited_cleanUp (visited : Relay.Visited id before relay)
    (serves : connection.Serves id relay) :
    Relay.Visited id before (connection.cleanUp relay) ∧
      (connection.cleanUp relay).session? id = none := by
  obtain rfl := serves.named
  unfold cleanUp
  split
  · refine ⟨visited.step (show (Event.closed connection.id).actor? = _ from rfl), ?_⟩
    rw [Relay.session?_closeSession, if_pos rfl]
  · rename_i unopened
    refine ⟨visited, ?_⟩
    rwa [serves.known, Bool.not_eq_true, Option.isSome_eq_false_iff, Option.isNone_iff_eq_none]
      at unopened

variable {config : RelayConfig} {events : List Event}

/-- **A connection leaves no trace.** Whatever it receives, it comes to an end, and once it is
cleaned up the same channels are registered as before, and every session is as before. -/
theorem run_leaves_no_trace (free : ∀ event ∈ events, event.keepsChannels = false)
    (absent : (Relay.reached config events).session? id = none) (peer : Address) (stream : Bytes) :
    let before := Relay.reached config events
    let done := (Connection.new id peer).run before stream
    let after := done.connection.cleanUp done.relay
    done.ending.isSome = true ∧ after.registry.defaultChannel = before.registry.defaultChannel ∧
      (∀ name, after.registry.get? name = before.registry.get? name) ∧
      ∀ other, after.session? other = before.session? other := by
  intro before done after
  have tidy := Relay.tidy_reached config free
  have visited := Relay.visited_refl (Relay.sound_reached config events)
    (Relay.telling_reached config events) tidy absent
  have serves : ({ Connection.new id peer with
      input := (Connection.new id peer).input ++ stream, finished := true } : Connection).Serves id
        before := ⟨rfl, by rw [absent]; rfl⟩
  have stays := visited_advanceBy visited serves true (stream.length + 1)
  have left := visited_cleanUp stays.1 stays.2
  exact ⟨ending_advanceBy rfl (Nat.lt_succ_self _) before, left.1.standing,
    left.1.eq_before tidy absent left.2⟩

end Connection

namespace Sample

/-- A recorder comes with a channel of its own and is cut off in the middle of a frame. -/
def visit : Bytes :=
  { announceOne with uri := "/yard".toList }.encode ++
    (setUp "/yard/t1".toList "RTP/AVP/TCP;unicast;interleaved=0-1;mode=record".toList).encode ++
    { plain .record with uri := "/yard".toList }.encode ++ [36, 0, 0, 2, 1, 2] ++ [36, 0, 0, 9, 1]

/-- What the recorder has done in the end. -/
def visitor : Progress :=
  (Connection.new viewer distant).run (Relay.reached config halfSetUp) visit

end Sample

namespace Connection

set_option maxRecDepth 100000 in
/-- The visitor records in the end, and nothing is left of it nor of its channel. -/
theorem run_leaves_no_trace_visitor :
    (∀ event ∈ Sample.halfSetUp, event.keepsChannels = false) ∧
      (Relay.reached Sample.config Sample.halfSetUp).session? Sample.viewer = none ∧
      Sample.visitor.ending = some .midMessage ∧
      (Sample.visitor.relay.session? Sample.viewer).map (fun session =>
        (session.negotiation.state, session.negotiation.channel)) =
          some (.recording, some "yard".toList) ∧
      (∀ name, (Sample.visitor.connection.cleanUp Sample.visitor.relay).registry.get? name =
        (Relay.reached Sample.config Sample.halfSetUp).registry.get? name) ∧
      ∀ other, (Sample.visitor.connection.cleanUp Sample.visitor.relay).session? other =
        (Relay.reached Sample.config Sample.halfSetUp).session? other := by
  have free : ∀ event ∈ Sample.halfSetUp, event.keepsChannels = false := by decide
  have absent : (Relay.reached Sample.config Sample.halfSetUp).session? Sample.viewer = none := by
    decide +kernel
  have traceless := run_leaves_no_trace free absent Sample.distant Sample.visit
  exact ⟨free, absent, by decide +kernel, by decide +kernel, traceless.2.2⟩

end Connection

end MediaRelay
