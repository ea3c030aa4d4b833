import MediaRelay.Proofs.Relay.Runs
import MediaRelay.Server

/-! # Runs of a server

A run is a list of events: the server is started and stopped, connections are accepted, receive bytes
and act on them, at once or later, and datagrams come in. `Server.step` is what an event does. A
connection that acts either does nothing or what is brief while the server is stopped
(`Server.steps_step`): it answers one request at most, and ends with it.
-/

namespace MediaRelay

/-- Something that happens to a server. -/
inductive ServerEvent where
  | started
  | stopped
  | accepted (id : SessionId) (peer : Address)
  | arrived (id : SessionId) (bytes : Bytes)
  /-- The peer of a connection ends its sending side. -/
  | finished (id : SessionId)
  /-- Something comes on a connection which has not got round to it yet. -/
  | pending (id : SessionId) (bytes : Bytes) (last : Bool)
  /-- A connection acts on the next message of its input. -/
  | turned (id : SessionId)
  /-- Nothing has come on a connection for the idle timeout. -/
  | expired (id : SessionId)
  | received (source : Address) (half : Half) (payload : Bytes)
  /-- An event that no connection has a part in, at the relay of the latest start. -/
  | direct (event : Event)
  deriving DecidableEq, Repr

/-- The connection that acts in an event, if one does. -/
def ServerEvent.connection? : ServerEvent → Option SessionId
  | arrived id _ | finished id | turned id | expired id => some id
  | started | stopped | accepted _ _ | pending _ _ _ | received _ _ _ | direct _ => none

/-- The request that was carried out or refused. -/
def Act.request? : Act → Option Request
  | answered request _ => some request
  | _ => none

/-- The requests that were answered. -/
def Progress.requests (done : Progress) : List Request := done.acts.filterMap Act.request?

namespace Connection

/-! ## Turns -/

variable {connection : Connection} {relay : Relay} {running : Bool} {done : Progress}

/-- If the server has been stopped, a connection answers one request at most, and ends with it. -/
structure Brief (connection : Connection) (running : Bool) (done : Progress) : Prop where
  named : done.connection.id = connection.id
  once : running = false → done.requests.length ≤ 1
  last : running = false → done.requests ≠ [] → done.ending.isSome = true

theorem brief_of_silent (named : done.connection.id = connection.id) (silent : done.requests = []) :
    connection.Brief running done where
  named := named
  once := by
    intro _
    rw [silent]
    exact Nat.zero_le 1
  last := fun _ asked => (asked silent).elim

theorem brief_broken {error : RelayError} (took : connection.broken relay error = some done) :
    connection.Brief running done := by
  unfold broken at took
  split at took
  · split at took
    · obtain rfl := Option.some.inj took
      exact brief_of_silent rfl rfl
    · cases took
  · obtain rfl := Option.some.inj took
    exact brief_of_silent rfl rfl

theorem isSome_endingAfter_false (sent : Option Delivery) (reply : Reply) :
    (endingAfter false sent reply).isSome = true := by
  unfold endingAfter
  cases sent.isNone <;> cases reply.closes <;> rfl

theorem brief_answer (connection : Connection) (running : Bool) (relay : Relay) (request : Request)
    (rest : Bytes) : connection.Brief running (connection.answer running relay request rest) := by
  unfold answer
  dsimp only
  split
  · exact brief_of_silent rfl rfl
  · refine ⟨rfl, fun _ => Nat.le_refl 1, fun stopped _ => ?_⟩
    rw [stopped]
    exact isSome_endingAfter_false _ _

theorem brief_requestTurn (took : connection.requestTurn running relay = some done) :
    connection.Brief running done := by
  unfold requestTurn at took
  split at took
  · split at took
    · obtain rfl := Option.some.inj took
      exact brief_of_silent rfl rfl
    · cases took
  · obtain rfl := Option.some.inj took
    exact brief_answer connection running relay _ _
  · obtain rfl := Option.some.inj took
    exact brief_of_silent rfl rfl
  · obtain rfl := Option.some.inj took
    exact brief_of_silent rfl rfl
  · exact brief_broken took

theorem brief_turn (took : connection.turn running relay = some done) :
    connection.Brief running done := by
  unfold turn at took
  split at took
  · unfold feedTurn at took
    dsimp only at took
    split at took
    · obtain rfl := Option.some.inj took
      exact brief_of_silent rfl rfl
    · exact brief_requestTurn took
    · exact brief_broken took
  · unfold plainTurn at took
    split at took
    · split at took
      · obtain rfl := Option.some.inj took
        exact brief_of_silent rfl rfl
      · exact brief_requestTurn took
      · exact brief_broken took
    · exact brief_requestTurn took

/-- By induction on the turns: after a turn that does not end the connection nothing has been answered
yet. -/
theorem brief_advanceBy (connection : Connection) (running : Bool) (turns : Nat) (relay : Relay) :
    connection.Brief running (connection.advanceBy running turns relay) := by
  induction turns generalizing connection relay with
  | zero => exact brief_of_silent rfl rfl
  | succ turns ih =>
      unfold advanceBy
      cases took : connection.turn running relay with
      | none => exact brief_of_silent rfl rfl
      | some done =>
          have first := brief_turn took
          have later := ih done.connection done.relay
          dsimp only
          split
          · exact first
          · rename_i going
            have silent (stopped : running = false) : done.acts.filterMap Act.request? = [] :=
              Classical.byContradiction fun asked => going (first.last stopped asked)
            refine ⟨later.named.trans first.named, fun stopped => ?_, fun stopped asked => ?_⟩
            · rw [Progress.requests, List.filterMap_append, silent stopped, List.nil_append]
              exact later.once stopped
            · rw [Progress.requests, List.filterMap_append, silent stopped, List.nil_append] at asked
              exact later.last stopped asked

end Connection

namespace Server

/-! ## Runs -/

/-- A server that has not been started. -/
def new (config : RelayConfig) : Server := { config }

/-- Changes a connection. -/
def modify (server : Server) (id : SessionId) (change : Connection → Connection) : Server :=
  { server with
    clients := server.clients.modify id fun client =>
      { client with connection := change client.connection } }

/-- A connection takes one turn. -/
def turn (server : Server) (id : SessionId) : ServerStep :=
  match server.clients.get? id with
  | none => { server }
  | some client =>
    match server.relays[client.generation]? with
    | none => { server }
    | some relay =>
      match client.connection.turn server.running relay with
      | none => { server }
      | some done => server.settle client.generation done

/-- What an event does. A connection is accepted under an id that no other one has. -/
def step (server : Server) : ServerEvent → ServerStep
  | .started =>
    match server.start with
    | .ok started => { server := started }
    | .error _ => { server }
  | .stopped => { server := server.stop }
  | .accepted id peer =>
    { server := if server.clients.contains id then server else server.accept id peer }
  | .arrived id bytes => server.receive id bytes
  | .finished id => server.finish id
  | .pending id bytes last =>
    { server := server.modify id fun connection =>
        { connection with
          input := connection.input ++ bytes
          finished := connection.finished || last } }
  | .turned id => server.turn id
  | .expired id => server.expire id
  | .received source half payload => server.takeDatagram source half payload
  | .direct event => { server := server.changeLatest fun relay => relay.after event }

/-- What an event leaves behind. -/
def after (server : Server) (event : ServerEvent) : Server := (server.step event).server

/-- What a run leaves behind. -/
def afterAll (server : Server) (events : List ServerEvent) : Server := events.foldl after server

/-- What a run leaves of a new server. -/
def reached (config : RelayConfig) (events : List ServerEvent) : Server :=
  (new config).afterAll events

variable {server started : Server} {id other : SessionId} {client : Client} {event : ServerEvent}
  {events : List ServerEvent} {relay : Relay} {done : Progress} {result : ServerStep}

/-- Connections are listed under their own ids. -/
def Listed (server : Server) : Prop :=
  ∀ id client, server.clients.get? id = some client → client.connection.id = id

/-! ## Steps of a connection -/

/-- A connection does nothing, or something brief. -/
inductive Steps (server : Server) (id : SessionId) : ServerStep → Prop where
  | idle : Steps server id { server }
  | acted {client : Client} {done : Progress} (known : server.clients.get? id = some client)
      (brief : client.connection.Brief server.running done) :
      Steps server id (server.settle client.generation done)

theorem steps_turn (server : Server) (id : SessionId) : server.Steps id (server.turn id) := by
  unfold turn
  split
  · exact .idle
  · rename_i client known
    split
    · exact .idle
    · split
      · exact .idle
      · rename_i took
        exact .acted known (Connection.brief_turn took)

theorem steps_advance (server : Server) (id : SessionId) (change : Connection → Connection)
    (same : ∀ connection, (change connection).id = connection.id) :
    server.Steps id (server.advance id change) := by
  unfold advance
  split
  · exact .idle
  · rename_i client known
    split
    · exact .idle
    · have brief := Connection.brief_advanceBy (change client.connection) server.running
        ((change client.connection).input.length + 1)
      refine .acted known ⟨?_, (brief _).once, (brief _).last⟩
      exact (brief _).named.trans (same client.connection)

theorem steps_expire (server : Server) (id : SessionId) : server.Steps id (server.expire id) := by
  unfold expire
  split
  · exact .idle
  · rename_i client known
    split
    · exact .idle
    · split
      · exact .acted known (Connection.brief_of_silent rfl rfl)
      · exact .idle

theorem steps_step (acting : event.connection? = some id) : server.Steps id (server.step event) := by
  cases event with
  | arrived _ _ =>
      obtain rfl := Option.some.inj acting
      rw [step, receive]
      exact server.steps_advance _ _ fun _ => rfl
  | finished _ =>
      obtain rfl := Option.some.inj acting
      rw [step, finish]
      exact server.steps_advance _ _ fun _ => rfl
  | turned _ =>
      obtain rfl := Option.some.inj acting
      exact server.steps_turn _
  | expired _ =>
      obtain rfl := Option.some.inj acting
      exact server.steps_expire _
  | _ => cases acting

theorem get?_clients_settle (server : Server) (generation : Nat) (done : Progress)
    (other : SessionId) :
    (server.settle generation done).server.clients.get? other =
      if other = done.connection.id then
        if done.ending.isSome then none else some ⟨generation, done.connection⟩
      else server.clients.get? other := by
  unfold settle
  cases done.ending with
  | none => exact Table.get?_set _ _ _ _
  | some ending => exact Table.get?_erase _ _ _

theorem acts_settle (server : Server) (generation : Nat) (done : Progress) :
    (server.settle generation done).acts = done.acts := by
  unfold settle
  cases done.ending <;> rfl

theorem running_settle (server : Server) (generation : Nat) (done : Progress) :
    (server.settle generation done).server.running = server.running := by
  unfold settle
  cases done.ending <;> rfl

theorem Steps.running (steps : server.Steps id result) :
    result.server.running = server.running := by
  cases steps with
  | idle => rfl
  | acted _ _ => exact server.running_settle _ _

/-- A connection that has acted is the one that it was, if it is still there. -/
theorem Steps.listed (steps : server.Steps id result) (listed : server.Listed)
    (found : result.server.clients.get? other = some client) :
    client.connection.id = other ∧ (server.clients.get? other).isSome = true := by
  cases steps with
  | idle => exact ⟨listed other client found, by rw [found]; rfl⟩
  | @acted before done known brief =>
      rw [get?_clients_settle] at found
      split at found
      · rename_i same
        split at found
        · cases found
        · obtain rfl := Option.some.inj found
          have own : other = id := same.trans (brief.named.trans (listed id before known))
          exact ⟨same.symm, by rw [own, known]; rfl⟩
      · exact ⟨listed other client found, by rw [found]; rfl⟩

/-- A connection that is not there does not act. -/
theorem Steps.acts_of_gone (steps : server.Steps id result)
    (gone : server.clients.get? id = none) : result.acts = [] := by
  cases steps with
  | idle => rfl
  | acted known _ =>
      rw [gone] at known
      cases known

theorem Steps.once (steps : server.Steps id result) (stopped : server.running = false) :
    (result.acts.filterMap Act.request?).length ≤ 1 := by
  cases steps with
  | idle => exact Nat.zero_le 1
  | acted _ brief =>
      rw [acts_settle]
      exact brief.once stopped

/-- A connection that answers a request while the server is not running is gone. -/
theorem Steps.gone (steps : server.Steps id result) (listed : server.Listed)
    (stopped : server.running = false) (asked : result.acts.filterMap Act.request? ≠ []) :
    result.server.clients.get? id = none := by
  cases steps with
  | idle => exact (asked rfl).elim
  | @acted client done known brief =>
      rw [acts_settle] at asked
      have own : id = done.connection.id := (brief.named.trans (listed id client known)).symm
      rw [get?_clients_settle, if_pos own, if_pos (brief.last stopped asked)]

/-! ## What an event leaves -/

theorem clients_start (ok : server.start = .ok started) : started.clients = server.clients := by
  unfold start at ok
  split at ok
  · cases ok
  · split at ok
    · cases ok
    · obtain rfl := Except.ok.inj ok
      rfl

theorem takeDatagram_spares (server : Server) (source : Address) (half : Half) (payload : Bytes) :
    (server.takeDatagram source half payload).server.clients = server.clients ∧
      (server.takeDatagram source half payload).server.running = server.running := by
  unfold takeDatagram
  split
  · split <;> exact ⟨rfl, rfl⟩
  · exact ⟨rfl, rfl⟩

/-- A connection that is there after an event was there before, or has been accepted. -/
theorem client_after (listed : server.Listed)
    (found : (server.after event).clients.get? id = some client) :
    client.connection.id = id ∧
      ((server.clients.get? id).isSome = true ∨ ∃ peer, event = .accepted id peer) := by
  have still (same : server.clients.get? id = some client) :
      client.connection.id = id ∧
        ((server.clients.get? id).isSome = true ∨ ∃ peer, event = .accepted id peer) :=
    ⟨listed id client same, .inl (by rw [same]; rfl)⟩
  have acted {acting : SessionId} (about : event.connection? = some acting) :
      client.connection.id = id ∧
        ((server.clients.get? id).isSome = true ∨ ∃ peer, event = .accepted id peer) :=
    ((steps_step about).listed listed found).imp_right .inl
  cases event with
  | started =>
      rw [after, step] at found
      split at found
      · rename_i started ok
        exact still (clients_start ok ▸ found)
      · exact still found
  | stopped => exact still found
  | accepted accepting peer =>
      rw [after, step] at found
      dsimp only at found
      split at found
      · exact still found
      · unfold accept at found
        split at found
        · rw [Table.get?_set] at found
          split at found
          · rename_i same
            obtain rfl := Option.some.inj found
            exact ⟨same.symm, .inr ⟨peer, by rw [same]⟩⟩
          · exact still found
        · exact still found
  | pending changing bytes last =>
      rw [after, step, modify, Table.get?_modify] at found
      split at found
      · obtain ⟨before, known, rfl⟩ := Option.map_eq_some_iff.mp found
        exact ⟨listed id before known, .inl (by rw [known]; rfl)⟩
      · exact still found
  | received source half payload =>
      exact still ((server.takeDatagram_spares source half payload).1 ▸ found)
  | direct _ => exact still found
  | arrived _ _ => exact acted rfl
  | finished _ => exact acted rfl
  | turned _ => exact acted rfl
  | expired _ => exact acted rfl

theorem Listed.after (listed : server.Listed) (event : ServerEvent) :
    (server.after event).Listed :=
  fun _ _ found => (client_after listed found).1

theorem listed_reached (config : RelayConfig) (events : List ServerEvent) :
    (reached config events).Listed := by
  have start : (new config).Listed := fun _ _ found => nomatch found
  unfold reached afterAll
  generalize new config = server at start ⊢
  induction events generalizing server with
  | nil => exact start
  | cons event events ih => exact ih _ (start.after event)

theorem gone_after (listed : server.Listed) (gone : server.clients.get? id = none)
    (unaccepted : ∀ peer, event ≠ .accepted id peer) :
    (server.after event).clients.get? id = none := by
  cases found : (server.after event).clients.get? id with
  | none => rfl
  | some client =>
      rcases (client_after listed found).2 with known | ⟨peer, same⟩
      · rw [gone] at known
        cases known
      · exact absurd same (unaccepted peer)

theorem running_after (stopped : server.running = false) (unstarted : event ≠ .started) :
    (server.after event).running = false := by
  have acted {acting : SessionId} (about : event.connection? = some acting) :
      (server.after event).running = false := (steps_step about).running.trans stopped
  cases event with
  | started => exact absurd rfl unstarted
  | stopped => rfl
  | accepted id peer =>
      rw [after, step]
      dsimp only
      split
      · exact stopped
      · unfold accept
        split <;> exact stopped
  | pending _ _ _ => exact stopped
  | received source half payload =>
      exact (server.takeDatagram_spares source half payload).2.trans stopped
  | direct _ => exact stopped
  | arrived _ _ => exact acted rfl
  | finished _ => exact acted rfl
  | turned _ => exact acted rfl
  | expired _ => exact acted rfl

end Server

end MediaRelay
