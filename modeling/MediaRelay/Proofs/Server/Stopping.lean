import MediaRelay.Proofs.Server.Runs

/-! # Stopping a server

A server that is stopped closes no connection: each one ends with the request that it answers next.
As long as the server is not started again, a connection answers one more request at most, and once
it has done so it answers none in whatever comes later (`Server.stop_ends_connections`). But a server
that is started again before has all its connections as they were, and they go on without a bound
(`Server.restart_revives_connection`).
-/

namespace MediaRelay

namespace Server

/-- The requests that a connection routes as an event happens. -/
def routes (server : Server) (id : SessionId) (event : ServerEvent) : List Request :=
  if event.connection? = some id then (server.step event).acts.filterMap Act.request? else []

/-- The requests that a connection routes in the course of a run, each with whether the server is
running. -/
def routed (server : Server) (id : SessionId) : List ServerEvent → List (Bool × Request)
  | [] => []
  | event :: events =>
    (server.routes id event).map (Prod.mk server.running) ++ (server.after event).routed id events

variable {server started : Server} {id : SessionId} {event : ServerEvent}
  {events : List ServerEvent}

/-! ## What is routed -/

theorem routes_of_gone (gone : server.clients.get? id = none) : server.routes id event = [] := by
  unfold routes
  split
  · rename_i acting
    rw [(steps_step acting).acts_of_gone gone]
    rfl
  · rfl

theorem length_routes_le (stopped : server.running = false) (id : SessionId) (event : ServerEvent) :
    (server.routes id event).length ≤ 1 := by
  unfold routes
  split
  · rename_i acting
    exact (steps_step acting).once stopped
  · exact Nat.zero_le 1

theorem gone_of_routes (listed : server.Listed) (stopped : server.running = false)
    (asked : server.routes id event ≠ []) : (server.after event).clients.get? id = none := by
  unfold routes at asked
  split at asked
  · rename_i acting
    exact (steps_step acting).gone listed stopped asked
  · exact (asked rfl).elim

/-- A connection that is gone routes nothing. -/
theorem routed_of_gone (listed : server.Listed) (gone : server.clients.get? id = none)
    (unaccepted : ∀ peer, .accepted id peer ∉ events) : server.routed id events = [] := by
  induction events generalizing server with
  | nil => rfl
  | cons event events ih =>
      have first (peer : Address) : event ≠ .accepted id peer := fun same =>
        unaccepted peer (same ▸ List.mem_cons_self)
      have others (peer : Address) : .accepted id peer ∉ events := fun member =>
        unaccepted peer (List.mem_cons_of_mem _ member)
      rw [routed, routes_of_gone gone,
        ih (listed.after event) (gone_after listed gone first) others]
      rfl

/-- By induction on the run: what is routed while the server is not running is the last request. -/
theorem running_of_mem_dropLast (listed : server.Listed)
    (unaccepted : ∀ peer, .accepted id peer ∉ events) :
    ∀ entry ∈ (server.routed id events).dropLast, entry.1 = true := by
  induction events generalizing server with
  | nil => exact fun _ member => nomatch member
  | cons event events ih =>
      have others (peer : Address) : .accepted id peer ∉ events := fun member =>
        unaccepted peer (List.mem_cons_of_mem _ member)
      have later := ih (listed.after event) others
      intro entry member
      rw [routed, List.dropLast_append] at member
      cases running : server.running with
      | true =>
          have now (held : entry ∈ (server.routes id event).map (Prod.mk server.running)) :
              entry.1 = true := by
            obtain ⟨_, _, rfl⟩ := List.mem_map.mp held
            exact running
          split at member
          · exact now ((List.dropLast_sublist _).subset member)
          · exact (List.mem_append.mp member).elim now (later entry)
      | false =>
          by_cases asked : server.routes id event = []
          · rw [asked] at member
            split at member
            · cases member
            · exact later entry member
          · have gone := gone_of_routes listed running asked
            have once := length_routes_le running id event
            rw [routed_of_gone (listed.after event) gone others, List.isEmpty_nil, if_pos rfl]
              at member
            have nothing : ((server.routes id event).map (Prod.mk server.running)).dropLast = [] := by
              rw [← List.length_eq_zero_iff, List.length_dropLast, List.length_map]
              omega
            rw [nothing] at member
            cases member

theorem running_of_mem_routed (stopped : server.running = false) (unstarted : .started ∉ events) :
    ∀ entry ∈ server.routed id events, entry.1 = false := by
  induction events generalizing server with
  | nil => exact fun _ member => nomatch member
  | cons event events ih =>
      have still := running_after stopped fun same => unstarted (same ▸ List.mem_cons_self)
      intro entry member
      rw [routed] at member
      rcases List.mem_append.mp member with now | later
      · obtain ⟨_, _, rfl⟩ := List.mem_map.mp now
        exact stopped
      · exact ih still (fun member => unstarted (List.mem_cons_of_mem _ member)) entry later

theorem routed_append (server : Server) (id : SessionId) (first second : List ServerEvent) :
    server.routed id (first ++ second) =
      server.routed id first ++ (server.afterAll first).routed id second := by
  induction first generalizing server with
  | nil => rfl
  | cons event first ih =>
      rw [List.cons_append, routed, routed, ih, List.append_assoc]
      rfl

/-! ## Stopping -/

/-- What is promised of a connection of a server that has been stopped, whatever comes later. -/
structure Ends (stopped : Server) (id : SessionId) (later : List ServerEvent) : Prop where
  /-- Unless the server is started again, one request is routed at most. -/
  once : .started ∉ later → (stopped.routed id later).length ≤ 1
  /-- What has routed a request before the server is started again routes no more. -/
  last : ∀ first second, later = first ++ second → .started ∉ first →
    stopped.routed id first ≠ [] → (stopped.afterAll first).routed id second = []
  /-- All but the last request is routed after the server has been started again. -/
  restarted : ∀ entry ∈ (stopped.routed id later).dropLast, entry.1 = true

/-- What has been stopped and started again has its connections and their relays as they were. -/
structure Revives (stopped started : Server) : Prop where
  running : started.running = true
  clients : started.clients = stopped.clients
  relays : ∀ (generation : Nat) (relay : Relay), stopped.relays[generation]? = some relay →
    started.relays[generation]? = some relay

theorem revives_of_start (ok : server.start = .ok started) : server.Revives started := by
  unfold start at ok
  split at ok
  · cases ok
  · split at ok
    · cases ok
    · obtain rfl := Except.ok.inj ok
      refine ⟨rfl, rfl, fun generation relay stored => ?_⟩
      obtain ⟨inside, _⟩ := List.getElem?_eq_some_iff.mp stored
      exact (List.getElem?_append_left inside).trans stored

theorem ends_of_stopped {later : List ServerEvent} (listed : server.Listed)
    (stopped : server.running = false) (unaccepted : ∀ peer, .accepted id peer ∉ later) :
    server.Ends id later where
  restarted := running_of_mem_dropLast listed unaccepted
  once := by
    intro unstarted
    cases routed : server.routed id later with
    | nil => exact Nat.zero_le 1
    | cons entry others =>
        cases others with
        | nil => exact Nat.le_refl 1
        | cons next others =>
            have first : entry ∈ (server.routed id later).dropLast := by
              rw [routed]
              exact List.mem_cons_self
            have started := running_of_mem_dropLast listed unaccepted entry first
            have still := running_of_mem_routed stopped unstarted entry
              (List.dropLast_subset _ first)
            rw [started] at still
            cases still
  last := by
    rintro first second rfl unstarted asked
    have dropped := running_of_mem_dropLast listed unaccepted
    rw [routed_append, List.dropLast_append] at dropped
    cases onwards : (server.afterAll first).routed id second with
    | nil => rfl
    | cons entry others =>
        obtain ⟨earlier, member⟩ := List.exists_mem_of_ne_nil _ asked
        rw [onwards, List.isEmpty_cons, if_neg Bool.false_ne_true] at dropped
        have started := dropped earlier (List.mem_append_left _ member)
        have still := running_of_mem_routed stopped unstarted earlier member
        rw [started] at still
        cases still

/-- **Stopping ends connections, unless the server is started again.** After a stop a connection
routes one request at most before the next start, and none later if it has done so. What it routes
beyond that, whatever comes, it routes after the server has been started again, which leaves all
connections and their relays as they were. -/
theorem stop_ends_connections (config : RelayConfig) (earlier later : List ServerEvent)
    (id : SessionId) (unaccepted : ∀ peer, .accepted id peer ∉ later) :
    ((reached config earlier).after .stopped).Ends id later ∧
      ∀ started, ((reached config earlier).after .stopped).start = .ok started →
        ((reached config earlier).after .stopped).Revives started :=
  ⟨ends_of_stopped ((listed_reached config earlier).after .stopped) rfl unaccepted,
    fun _ ok => revives_of_start ok⟩

end Server

namespace Sample

/-- A connection is accepted and has sent a request. -/
def served : List ServerEvent :=
  [.started, .accepted recorder address, .arrived recorder (plain .options).encode]

/-- Three more requests come, the first of them while the connection is busy. -/
def requests : List ServerEvent :=
  [.pending recorder (plain .options).encode false, .turned recorder,
    .arrived recorder (plain .options).encode, .arrived recorder (plain .options).encode]

end Sample

namespace Server

set_option maxRecDepth 100000 in
/-- Of three requests that come after a stop one is routed. -/
theorem stop_ends_connections_recorder :
    (∀ peer, .accepted Sample.recorder peer ∉ Sample.requests) ∧
    (((reached {} Sample.served).after .stopped).routed Sample.recorder Sample.requests).length ≤ 1 ∧
    (((reached {} Sample.served).after .stopped).routed Sample.recorder Sample.requests).map
      Prod.fst = [false] := by
  have unaccepted (peer : Address) : .accepted Sample.recorder peer ∉ Sample.requests := by
    simp [Sample.requests]
  have ends := (stop_ends_connections {} Sample.served Sample.requests Sample.recorder
    unaccepted).1
  exact ⟨unaccepted, ends.once (by decide), by decide +kernel⟩

set_option maxRecDepth 100000 in
/-- A connection that was accepted before a stop routes three requests after it, once the server has
been started again. -/
theorem restart_revives_connection :
    .accepted Sample.recorder Sample.address ∈ Sample.served ∧
    (∀ peer, .accepted Sample.recorder peer ∉ ServerEvent.started :: Sample.requests) ∧
    (((reached {} Sample.served).after .stopped).routed Sample.recorder
      (.started :: Sample.requests)).map Prod.fst = [true, true, true] := by
  refine ⟨by decide, fun peer => ?_, by decide +kernel⟩
  simp [Sample.requests]

end Server

end MediaRelay
