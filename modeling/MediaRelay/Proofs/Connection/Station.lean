import MediaRelay.Connection
import MediaRelay.Proofs.Message.Reading
import MediaRelay.Proofs.Relay.Coherence
import MediaRelay.Proofs.Relay.Origins
import MediaRelay.Proofs.Relay.Packages

/-! # Relays with connections

A station is a relay with the connections that have not ended. They take turns in any order, each
acting on one message at a time, and what no connection has a part in may come between any two
turns. `Connection.Turn` says what a turn can do. What connections do to the relay is no more than
events about their own sessions (`Relay.ActsFor`), so what holds in all runs of a relay holds of a
station too (`sound_reached`).
-/

namespace MediaRelay

namespace Relay

/-- What is known of a relay in the course of every run. -/
structure Sound (relay : Relay) : Prop where
  identified : relay.Identified
  coherent : relay.Coherent
  distinct : relay.registry.Distinct
  full : relay.packagePool.Full

variable {relay after : Relay} {id other : SessionId} {event : Event} {pool : PackagePool}

theorem sound_new (config : RelayConfig) : (new config).Sound where
  identified := identified_new config
  coherent := coherent_new config
  distinct := Registry.distinct_new config.defaultChannel
  full := fun _ member => nomatch member

theorem Sound.change (sound : relay.Sound) (change : relay.Change event after)
    (full : after.packagePool.Full) : after.Sound where
  identified := change.identified sound.identified
  coherent := change.coherent sound.identified sound.coherent
  distinct := change.distinct sound.distinct
  full := full

theorem Sound.step (sound : relay.Sound) (event : Event) : (relay.after event).Sound :=
  sound.change (change_after relay event) (full_after sound.full event)

theorem sound_reached (config : RelayConfig) (events : List Event) :
    (reached config events).Sound :=
  reached_induction config (sound_new config) (fun _ event sound => sound.step event) events

theorem change_withPackages (relay : Relay) (pool : PackagePool) :
    relay.Change .sourcesForgotten (relay.withPackages pool) :=
  .idle ⟨rfl, rfl, rfl, rfl⟩

theorem Sound.withPackages (sound : relay.Sound) (full : pool.Full) :
    (relay.withPackages pool).Sound :=
  sound.change (change_withPackages relay pool) full

theorem session?_after_opened (relay : Relay) (id : SessionId) (peer : Address) :
    ∃ session, (relay.after (.opened id peer)).session? id = some session := by
  rw [after_opened]
  cases found : relay.session? id with
  | some session => exact ⟨session, by simpa using found⟩
  | none => exact ⟨_, by simp [session?_openSession]; rfl⟩

/-- A relay is left with other idle packages and by events about one session. -/
inductive ActsFor (id : SessionId) (relay : Relay) : Relay → Prop where
  | pooled {pool : PackagePool} (full : pool.Full) : ActsFor id relay (relay.withPackages pool)
  | next {after : Relay} {event : Event} (acts : ActsFor id relay after)
      (about : event.actor? = some id) : ActsFor id relay (after.after event)

theorem ActsFor.sound (acts : relay.ActsFor id after) (sound : relay.Sound) : after.Sound := by
  induction acts with
  | pooled full => exact sound.withPackages full
  | @next _ event _ _ ih => exact ih.step event

/-- What is done for a session leaves all others alone. -/
theorem ActsFor.session?_eq (acts : relay.ActsFor id after) (sound : relay.Sound)
    (different : other ≠ id) : after.session? other = relay.session? other := by
  induction acts with
  | pooled _ => rfl
  | @next middle event acts about ih =>
      have apart : event.actor? ≠ some other := fun same =>
        different (Option.some.inj (same.symm.trans about))
      have kept := (change_after middle event).keeps (acts.sound sound).identified apart
      exact kept.session.trans ih

end Relay

/-! ## Turns -/

namespace Connection

variable {connection : Connection} {relay : Relay} {pool : PackagePool} {running : Bool}
  {done : Progress}

/-- A connection is that of a session, and knows whether the session has been opened. -/
structure Serves (connection : Connection) (id : SessionId) (relay : Relay) : Prop where
  named : connection.id = id
  known : connection.opened = (relay.session? id).isSome

theorem Serves.congr {id : SessionId} {after : Relay} (serves : connection.Serves id relay)
    (same : (after.session? id).isSome = (relay.session? id).isSome) : connection.Serves id after :=
  ⟨serves.named, serves.known.trans same.symm⟩

/-- The cases of what a turn does. -/
inductive Turn (connection : Connection) (relay : Relay) (done : Progress) : Prop where
  /-- A frame is left out, or the connection ends. -/
  | still {pool : PackagePool} (full : pool.Full) (left : done.relay = relay.withPackages pool)
      (silent : ∀ name package, .fed name package ∉ done.acts)
      (same : done.connection.id = connection.id ∧ done.connection.opened = connection.opened)
  | answered {pool : PackagePool} {request : Request} (full : pool.Full)
      (left : done.relay = ((relay.withPackages pool).after
        (.opened connection.id connection.peer)).after (.requested connection.id request))
      (silent : ∀ name package, .fed name package ∉ done.acts)
      (same : done.connection.id = connection.id ∧ done.connection.opened = true)
  | fed {session : Session} {name : Text} {channel : Channel} {package : Package} {frame : Frame}
      {rest : Bytes} {pool : PackagePool} (full : pool.Full)
      (left : done.relay = relay.withPackages pool)
      (feeding : connection.feeding? relay = some (session, name, channel))
      (read : Frame.read maxPayload connection.input = .ok (some (frame, rest)))
      (acts : done.acts = [.fed name package])
      (filled : package.trimmed = ⟨frame.payload, frame.payload.length, true, frame.channel,
        session.negotiation.ordinalForChannel frame.channel⟩)
      (same : done.connection.id = connection.id ∧ done.connection.opened = connection.opened)

theorem openedOn_eq (known : connection.opened = (relay.session? connection.id).isSome) :
    connection.openedOn relay = relay.after (.opened connection.id connection.peer) := by
  rw [openedOn, Relay.after_opened, known]

theorem turn_endedBy (full : pool.Full) (ending : Ending) :
    connection.Turn relay (connection.endedBy (relay.withPackages pool) ending) :=
  .still full rfl (fun _ _ member => nomatch member) ⟨rfl, rfl⟩

theorem turn_of_broken (full : pool.Full) {error : RelayError}
    (broken : connection.broken (relay.withPackages pool) error = some done) :
    connection.Turn relay done := by
  unfold Connection.broken at broken
  split at broken
  · split at broken
    · obtain rfl := Option.some.inj broken
      exact turn_endedBy full _
    · exact nomatch broken
  · obtain rfl := Option.some.inj broken
    exact turn_endedBy full _

theorem turn_answer (full : pool.Full)
    (known : connection.opened = (relay.session? connection.id).isSome) (request : Request)
    (rest : Bytes) :
    connection.Turn relay (connection.answer running (relay.withPackages pool) request rest) := by
  have opening : connection.openedOn (relay.withPackages pool) =
      (relay.withPackages pool).after (.opened connection.id connection.peer) := openedOn_eq known
  obtain ⟨session, found⟩ :=
    (relay.withPackages pool).session?_after_opened connection.id connection.peer
  unfold answer
  simp only [opening, found]
  exact .answered full (Relay.after_requested found request).symm (by simp) ⟨rfl, rfl⟩

theorem turn_of_requestTurn (full : pool.Full)
    (known : connection.opened = (relay.session? connection.id).isSome)
    (took : connection.requestTurn running (relay.withPackages pool) = some done) :
    connection.Turn relay done := by
  unfold requestTurn at took
  split at took
  · split at took
    · obtain rfl := Option.some.inj took
      exact turn_endedBy full _
    · exact nomatch took
  · obtain rfl := Option.some.inj took
    exact turn_answer full known _ _
  · obtain rfl := Option.some.inj took
    exact .still full rfl (by simp [reject]) ⟨rfl, rfl⟩
  · obtain rfl := Option.some.inj took
    exact .still full rfl (by simp [reject]) ⟨rfl, rfl⟩
  · exact turn_of_broken full took

theorem turn_of_plainTurn (full : relay.packagePool.Full)
    (known : connection.opened = (relay.session? connection.id).isSome)
    (took : connection.plainTurn running relay = some done) : connection.Turn relay done := by
  have requested (took : connection.requestTurn running relay = some done) :=
    turn_of_requestTurn full known took
  unfold plainTurn at took
  split at took
  · split at took
    · obtain rfl := Option.some.inj took
      exact .still full rfl (by simp) ⟨rfl, rfl⟩
    · exact requested took
    · exact turn_of_broken full took
  · exact requested took

theorem turn_of_feedTurn {session : Session} {name : Text} {channel : Channel}
    (full : relay.packagePool.Full)
    (known : connection.opened = (relay.session? connection.id).isSome)
    (feeding : connection.feeding? relay = some (session, name, channel))
    (took : connection.feedTurn running relay session name channel = some done) :
    connection.Turn relay done := by
  obtain ⟨whole, left⟩ := full.acquire
  have returned := left.release whole
  unfold feedTurn at took
  dsimp only at took
  split at took
  · rename_i frame rest read
    rw [whole] at read
    obtain rfl := Option.some.inj took
    refine .fed (left.release ?_) rfl feeding read rfl (Package.trimmed_fill ?_ _ _ _) ⟨rfl, rfl⟩
    · exact (Package.length_buffer_fill _ _).trans whole
    · rw [whole]
      exact (Frame.eq_append_of_read read).2.1
  · exact turn_of_requestTurn returned known took
  · exact turn_of_broken returned took

/-- Every turn is one of the cases. -/
theorem turn_cases (full : relay.packagePool.Full)
    (known : connection.opened = (relay.session? connection.id).isSome)
    (took : connection.turn running relay = some done) : connection.Turn relay done := by
  unfold Connection.turn at took
  split at took
  · rename_i session name channel feeding
    exact turn_of_feedTurn full known feeding took
  · exact turn_of_plainTurn full known took

/-- What a turn does is done for the connection's own session. -/
theorem Turn.acts (turn : connection.Turn relay done) :
    relay.ActsFor connection.id done.relay := by
  cases turn with
  | still full left _ _ => exact left ▸ .pooled full
  | answered full left _ _ => exact left ▸ .next (.next (.pooled full) rfl) rfl
  | fed full left _ _ _ _ _ => exact left ▸ .pooled full

/-- A connection knows after a turn whether its session is open, if it did before. -/
theorem Turn.serves (turn : connection.Turn relay done)
    (known : connection.opened = (relay.session? connection.id).isSome) :
    done.connection.Serves connection.id done.relay := by
  cases turn with
  | still _ left _ same => exact left ▸ ⟨same.1, same.2.trans known⟩
  | fed _ left _ _ _ _ same => exact left ▸ ⟨same.1, same.2.trans known⟩
  | @answered pool request _ left _ same =>
      obtain ⟨session, found⟩ :=
        (relay.withPackages pool).session?_after_opened connection.id connection.peer
      obtain ⟨change, still⟩ := Relay.session?_route _ session request connection.id
      refine ⟨same.1, ?_⟩
      rw [left, Relay.after_requested found, still, found, same.2]
      rfl

end Connection

/-! ## Stations -/

/-- A relay with the connections that have not ended, by the ids of their sessions. -/
structure Station where
  relay : Relay
  connections : Table SessionId Connection := {}

/-- Something that happens to a station. -/
inductive Occurrence where
  /-- An event that no connection has a part in. -/
  | direct (event : Event)
  | accepted (id : SessionId) (peer : Address)
  | arrived (id : SessionId) (bytes : Bytes)
  /-- The peer of a connection ends its sending side. -/
  | finished (id : SessionId)
  /-- A connection acts on the next message of its input, while the server is running or not. -/
  | turned (id : SessionId) (running : Bool)
  /-- Nothing has come on a connection for the idle timeout. -/
  | expired (id : SessionId)

namespace Station

/-- A station that nobody uses yet. -/
def new (config : RelayConfig) : Station := ⟨.new config, {}⟩

/-- Whether an event may happen directly: the sessions of connections are opened, asked and closed
by their connections only. -/
def admits (station : Station) : Event → Bool
  | .opened id _ | .requested id _ | .closed id => !station.connections.contains id
  | _ => true

/-- Takes in what a connection has done: one that has ended is cleaned up. -/
def settle (station : Station) (id : SessionId) (done : Progress) : Station :=
  if done.ending.isSome then
    ⟨done.connection.cleanUp done.relay, station.connections.erase id⟩
  else
    ⟨done.relay, station.connections.set id done.connection⟩

/-- What a connection does in its turn. -/
def turn? (station : Station) (id : SessionId) (running : Bool) : Option Progress :=
  (station.connections.get? id).bind fun connection => connection.turn running station.relay

/-- How a connection ends at the idle timeout. -/
def expiry? (station : Station) (id : SessionId) : Option Progress :=
  ((station.connections.get? id).filter fun connection => connection.mayExpire station.relay).map
    fun connection => connection.endedBy station.relay .timedOut

/-- Changes a connection. -/
def modify (station : Station) (id : SessionId) (change : Connection → Connection) : Station :=
  { station with connections := station.connections.modify id change }

/-- What an occurrence leaves behind. A connection is accepted under an id that is not in use. -/
def after (station : Station) : Occurrence → Station
  | .direct event =>
    if station.admits event then { station with relay := station.relay.after event } else station
  | .accepted id peer =>
    if station.connections.contains id || (station.relay.session? id).isSome then
      station
    else
      { station with connections := station.connections.set id (.new id peer) }
  | .arrived id bytes =>
    station.modify id fun connection => { connection with input := connection.input ++ bytes }
  | .finished id => station.modify id fun connection => { connection with finished := true }
  | .turned id running =>
    match station.turn? id running with
    | none => station
    | some done => station.settle id done
  | .expired id =>
    match station.expiry? id with
    | none => station
    | some done => station.settle id done

/-- What a run leaves behind. -/
def afterAll (station : Station) (occurrences : List Occurrence) : Station :=
  occurrences.foldl after station

/-- What a run leaves of a new station. -/
def reached (config : RelayConfig) (occurrences : List Occurrence) : Station :=
  (new config).afterAll occurrences

/-- What is known of a station in the course of every run. -/
structure Sound (station : Station) : Prop where
  relay : station.relay.Sound
  serves : ∀ id connection, station.connections.get? id = some connection →
    connection.Serves id station.relay

variable {station : Station} {id : SessionId} {connection : Connection} {done : Progress}

theorem sound_new (config : RelayConfig) : (new config).Sound :=
  ⟨Relay.sound_new config, fun _ _ found => (nomatch found)⟩

/-- An event that is not about the session of a connection leaves open what is open. -/
theorem Sound.direct (sound : station.Sound) {event : Event} (admitted : station.admits event) :
    Sound { station with relay := station.relay.after event } where
  relay := sound.relay.step event
  serves := by
    intro id connection found
    refine (sound.serves id connection found).congr ?_
    have taken : station.connections.contains id = true := by simp [Table.contains, found]
    by_cases acting : event.actor? = some id
    · cases event with
      | linkFailed failing =>
          obtain rfl := Option.some.inj acting
          simp only [Relay.after, Relay.session?_closeLink, ↓reduceIte, Option.isSome_map]
      | opened _ _ => obtain rfl := Option.some.inj acting; simp [admits, taken] at admitted
      | requested _ _ => obtain rfl := Option.some.inj acting; simp [admits, taken] at admitted
      | closed _ => obtain rfl := Option.some.inj acting; simp [admits, taken] at admitted
      | _ => cases acting
    · rw [((Relay.change_after station.relay event).keeps sound.relay.identified acting).session]

theorem Sound.modify (sound : station.Sound) (id : SessionId) {change : Connection → Connection}
    (same : ∀ connection, (change connection).id = connection.id ∧
      (change connection).opened = connection.opened) : (station.modify id change).Sound where
  relay := sound.relay
  serves := by
    intro key connection found
    rw [Station.modify, Table.get?_modify] at found
    split at found
    · obtain ⟨earlier, held, rfl⟩ := Option.map_eq_some_iff.mp found
      have serves := sound.serves key earlier held
      exact ⟨(same earlier).1.trans serves.named, (same earlier).2.trans serves.known⟩
    · exact sound.serves key connection found

/-- The connections of other sessions do not notice what is done for one. -/
theorem Sound.serves_others (sound : station.Sound) {after : Relay}
    (acts : station.relay.ActsFor id after) {key : SessionId} (different : key ≠ id)
    (found : station.connections.get? key = some connection) : connection.Serves key after :=
  (sound.serves key connection found).congr
    (congrArg Option.isSome (acts.session?_eq sound.relay different))

theorem Sound.set (sound : station.Sound) {after : Relay} (acts : station.relay.ActsFor id after)
    (serves : connection.Serves id after) :
    Sound ⟨after, station.connections.set id connection⟩ where
  relay := acts.sound sound.relay
  serves := by
    intro key other found
    rw [Table.get?_set] at found
    split at found
    · rename_i same
      obtain rfl := Option.some.inj found
      exact same ▸ serves
    · rename_i different
      exact sound.serves_others acts different found

theorem Sound.erase (sound : station.Sound) {after : Relay}
    (acts : station.relay.ActsFor id after) : Sound ⟨after, station.connections.erase id⟩ where
  relay := acts.sound sound.relay
  serves := by
    intro key other found
    rw [Table.get?_erase] at found
    split at found
    · cases found
    · rename_i different
      exact sound.serves_others acts different found

theorem Sound.accepted (sound : station.Sound) (id : SessionId) (peer : Address) :
    (station.after (.accepted id peer)).Sound := by
  unfold Station.after
  dsimp only
  split
  · exact sound
  · rename_i fresh
    have closed : (station.relay.session? id).isSome = false := by
      simpa using (not_or.mp (mt Bool.or_eq_true_iff.mpr fresh)).2
    exact sound.set (.pooled sound.relay.full) ⟨rfl, closed.symm⟩

/-- A connection that has acted for its own session is taken in again or cleaned up. -/
theorem Sound.settle (sound : station.Sound) (acts : station.relay.ActsFor id done.relay)
    (serves : done.connection.Serves id done.relay) : (station.settle id done).Sound := by
  unfold Station.settle
  split
  · refine sound.erase ?_
    unfold Connection.cleanUp
    rw [serves.named]
    split
    · exact acts.next (show (Event.closed id).actor? = some id from rfl)
    · exact acts
  · exact sound.set acts serves

/-- Every occurrence keeps what is known. -/
theorem Sound.after (sound : station.Sound) (occurrence : Occurrence) :
    (station.after occurrence).Sound := by
  cases occurrence with
  | direct event =>
      unfold Station.after
      dsimp only
      split
      · rename_i admitted
        exact sound.direct admitted
      · exact sound
  | accepted id peer => exact sound.accepted id peer
  | arrived id bytes => exact sound.modify id fun _ => ⟨rfl, rfl⟩
  | finished id => exact sound.modify id fun _ => ⟨rfl, rfl⟩
  | turned id running =>
      unfold Station.after
      dsimp only
      split
      · exact sound
      · rename_i done took
        obtain ⟨connection, found, acted⟩ := Option.bind_eq_some_iff.mp took
        obtain ⟨rfl, known⟩ := sound.serves id connection found
        have turn := Connection.turn_cases sound.relay.full known acted
        exact sound.settle turn.acts (turn.serves known)
  | expired id =>
      unfold Station.after
      dsimp only
      split
      · exact sound
      · rename_i done ended
        obtain ⟨connection, found, rfl⟩ := Option.map_eq_some_iff.mp ended
        have listed := (Option.filter_eq_some_iff.mp found).1
        exact sound.settle (.pooled sound.relay.full) (sound.serves id connection listed)

theorem reached_append (config : RelayConfig) (first second : List Occurrence) :
    reached config (first ++ second) = (reached config first).afterAll second :=
  List.foldl_append

theorem sound_reached (config : RelayConfig) (occurrences : List Occurrence) :
    (reached config occurrences).Sound := by
  unfold reached afterAll
  have start := sound_new config
  generalize new config = station at start ⊢
  induction occurrences generalizing station with
  | nil => exact start
  | cons occurrence occurrences ih => exact ih _ (start.after occurrence)

/-! ## Whole inputs -/

variable {running : Bool}

theorem after_turned_of_none (waits : station.turn? id running = none) :
    station.after (.turned id running) = station := by
  simp only [Station.after, waits]

theorem after_turned_of_some (took : station.turn? id running = some done) :
    station.after (.turned id running) = station.settle id done := by
  simp only [Station.after, took]

theorem afterAll_turned_of_none (waits : station.turn? id running = none) (turns : Nat) :
    station.afterAll (List.replicate turns (.turned id running)) = station := by
  induction turns with
  | zero => rfl
  | succ turns ih =>
      rw [List.replicate_succ, afterAll, List.foldl_cons, after_turned_of_none waits]
      exact ih

theorem settle_of_not_ended (going : ¬ done.ending.isSome = true) :
    station.settle id done = ⟨done.relay, station.connections.set id done.connection⟩ := by
  rw [settle, if_neg going]

theorem get?_settle (going : ¬ done.ending.isSome = true) :
    (station.settle id done).connections.get? id = some done.connection := by
  rw [settle_of_not_ended going, Table.get?_set, if_pos rfl]

/-- A connection that acts on all of its input at once does what it does in turns of its own. -/
theorem settle_advanceBy (found : station.connections.get? id = some connection) (turns : Nat) :
    station.settle id (connection.advanceBy running turns station.relay) =
      station.afterAll (List.replicate turns (.turned id running)) := by
  induction turns generalizing station connection with
  | zero =>
      simp only [Connection.advanceBy, settle, Option.isSome_none, Bool.false_eq_true, ↓reduceIte,
        Table.set_eq_self found]
      rfl
  | succ turns ih =>
      have turned : station.turn? id running = connection.turn running station.relay := by
        rw [turn?, found, Option.bind_some]
      rw [Connection.advanceBy, List.replicate_succ, afterAll, List.foldl_cons, ← afterAll]
      cases took : connection.turn running station.relay with
      | none =>
          have waits := turned.trans took
          rw [after_turned_of_none waits, afterAll_turned_of_none waits]
          simp only [settle, Option.isSome_none, Bool.false_eq_true, ↓reduceIte,
            Table.set_eq_self found]
      | some done =>
          rw [after_turned_of_some (turned.trans took)]
          by_cases ended : done.ending.isSome = true
          · -- A connection that has ended is gone, so its further turns do nothing.
            have gone : (station.settle id done).turn? id running = none := by
              simp [settle, ended, turn?, Table.get?_erase]
            rw [afterAll_turned_of_none gone]
            simp only [ended, ↓reduceIte]
          · rw [← ih (get?_settle ended), settle_of_not_ended ended]
            simp only [ended, Bool.false_eq_true, ↓reduceIte]
            generalize done.connection.advanceBy running turns done.relay = later
            by_cases last : later.ending.isSome = true
            · simp only [settle, last, ↓reduceIte, Table.erase_set found]
            · simp only [settle, last, Bool.false_eq_true, ↓reduceIte, Table.set_set found]

end Station

end MediaRelay
