import MediaRelay.Proofs.Relay.Roles
import MediaRelay.Relay.Source
import Mathlib.Data.List.Induction

/-! # Runs of a relay

A run is a list of events: sessions are opened and closed, send requests and lose their links,
packages and datagrams come in, and channels are kept in use from outside. `Relay.after` is what an
event leaves behind and `Relay.reached` what a run leaves of a new relay. What a new relay satisfies
and every event preserves holds of all that is reached (`reached_induction`).
-/

namespace MediaRelay

/-- Something that happens to a relay. -/
inductive Event where
  | opened (id : SessionId) (peer : Address)
  | requested (id : SessionId) (request : Request)
  | closed (id : SessionId)
  | linkFailed (id : SessionId)
  /-- A payload is put into the channel of a name. -/
  | pushed (name : Text) (payload : Bytes) (interleaved : Bool) (channel : UInt8)
      (order : Ordinal)
  /-- A datagram comes on the socket of a half. -/
  | received (source : Address) (half : Half) (payload : Bytes)
  | held (name : Text)
  | letGo (id : ChannelId)
  | sourceForgotten (source : Address)
  | sourcesForgotten
  deriving DecidableEq, Repr

namespace Event

/-- The session that an event is about, if it is about one. -/
def actor? : Event → Option SessionId
  | opened id _ | requested id _ | closed id | linkFailed id => some id
  | pushed .. | received .. | held _ | letGo _ | sourceForgotten _ | sourcesForgotten => none

end Event

namespace Relay

/-- What an event leaves behind. A session is opened under an id that no open session has, and only
open sessions send requests. -/
def after (relay : Relay) : Event → Relay
  | .opened id peer => if (relay.session? id).isSome then relay else relay.openSession id peer
  | .requested id request =>
    match relay.session? id with
    | none => relay
    | some session => (relay.route Handlers.standard session request).1
  | .closed id => relay.closeSession id
  | .linkFailed id => relay.closeLink id
  | .pushed name payload interleaved channel order =>
    let (package, relay) := relay.packed payload
    match relay.registry.get? name with
    | none => relay.discard package
    | some target => (relay.push target { package with interleaved, channel, order }).1
  | .received source half payload => (relay.takeDatagram source half payload).1
  | .held name => relay.hold name
  | .letGo id => relay.letGo id
  | .sourceForgotten source => relay.forgetSource source
  | .sourcesForgotten => relay.forgetSources

/-- The reply to a request that an open session sends. -/
def reply? (relay : Relay) : Event → Option Reply
  | .requested id request =>
    (relay.session? id).map fun session => (relay.route Handlers.standard session request).2
  | _ => none

/-- What a run leaves behind. -/
def afterAll (relay : Relay) (events : List Event) : Relay := events.foldl after relay

/-- What a run leaves of a new relay. -/
def reached (config : RelayConfig) (events : List Event) : Relay := (new config).afterAll events

theorem afterAll_append (relay : Relay) (first second : List Event) :
    relay.afterAll (first ++ second) = (relay.afterAll first).afterAll second :=
  List.foldl_append

theorem reached_append (config : RelayConfig) (first second : List Event) :
    reached config (first ++ second) = (reached config first).afterAll second :=
  afterAll_append _ first second

theorem reached_concat (config : RelayConfig) (events : List Event) (event : Event) :
    reached config (events ++ [event]) = (reached config events).after event :=
  reached_append config events [event]

/-- What a new relay satisfies and every event preserves holds of all that is reached. -/
theorem reached_induction {property : Relay → Prop} (config : RelayConfig)
    (start : property (new config))
    (step : ∀ events event, property (reached config events) →
      property ((reached config events).after event)) (events : List Event) :
    property (reached config events) := by
  have onwards (later : List Event) : ∀ earlier, property (reached config earlier) →
      property (reached config (earlier ++ later)) := by
    induction later with
    | nil =>
        intro earlier held
        rwa [List.append_nil]
    | cons event later ih =>
        intro earlier held
        have next := ih (earlier ++ [event]) (reached_concat config earlier event ▸ step earlier event held)
        rwa [List.append_assoc] at next
  exact onwards events [] start

variable {relay : Relay} {session : Session} {request : Request} {id other : SessionId}
  {events : List Event}

theorem after_opened (relay : Relay) (id : SessionId) (peer : Address) :
    relay.after (.opened id peer) =
      if (relay.session? id).isSome then relay else relay.openSession id peer := rfl

theorem after_requested (found : relay.session? id = some session) (request : Request) :
    relay.after (.requested id request) =
      (relay.route Handlers.standard session request).1 := by
  simp only [after, found]

theorem reply?_requested (found : relay.session? id = some session) (request : Request) :
    relay.reply? (.requested id request) =
      some (relay.route Handlers.standard session request).2 := by
  rw [reply?, found, Option.map_some]

/-! ## The cases of an event -/

/-- Two relays that differ at most in packages, sources of datagrams and handles. -/
structure SameSessions (before after : Relay) : Prop where
  ports : after.ports = before.ports
  registry : after.registry = before.registry
  sessions : after.sessions = before.sessions
  sessionPool : after.sessionPool = before.sessionPool

theorem SameSessions.refl (relay : Relay) : SameSessions relay relay := ⟨rfl, rfl, rfl, rfl⟩

theorem sameSessions_takeDatagram (relay : Relay) (source : Address) (half : Half)
    (payload : Bytes) : SameSessions relay (relay.takeDatagram source half payload).1 := by
  unfold takeDatagram
  cases relay.resolve? source with
  | none => exact ⟨rfl, rfl, rfl, rfl⟩
  | some origin =>
      by_cases recording : origin.producer.negotiation.isRecording = true
      · simp only [recording, ↓reduceIte]
        exact ⟨rfl, rfl, rfl, rfl⟩
      · simp only [recording, Bool.false_eq_true, ↓reduceIte]
        exact ⟨rfl, rfl, rfl, rfl⟩

/-- The cases of what an event leaves behind. -/
inductive Change (relay : Relay) : Event → Relay → Prop where
  | idle {event : Event} {after : Relay} (same : SameSessions relay after) :
      Change relay event after
  | ensured {name : Text} {after : Relay} (same : SameSessions (relay.ensureChannel name) after) :
      Change relay (.held name) after
  | opened {id : SessionId} {peer : Address} (fresh : relay.session? id = none) :
      Change relay (.opened id peer) (relay.openSession id peer)
  | requested {id : SessionId} {session : Session} {request : Request}
      (found : relay.session? id = some session) :
      Change relay (.requested id request) (relay.route Handlers.standard session request).1
  | closed {id : SessionId} {session : Session} (found : relay.session? id = some session) :
      Change relay (.closed id) (relay.closeSession id)
  | linkFailed {id : SessionId} : Change relay (.linkFailed id) (relay.closeLink id)

theorem change_after (relay : Relay) (event : Event) : relay.Change event (relay.after event) := by
  cases event with
  | opened id peer =>
      cases found : relay.session? id with
      | none => simpa [after_opened, found] using .opened found
      | some session => simpa [after_opened, found] using .idle (.refl relay)
  | requested id request =>
      cases found : relay.session? id with
      | none => simpa [after, found] using .idle (.refl relay)
      | some session => exact after_requested found request ▸ .requested found
  | closed id =>
      cases found : relay.session? id with
      | none => simpa [after, closeSession, found] using .idle (.refl relay)
      | some session => exact .closed found
  | linkFailed id => exact .linkFailed
  | pushed name payload interleaved channel order =>
      refine .idle ?_
      simp only [after]
      cases (relay.packed payload).2.registry.get? name with
      | none => exact ⟨rfl, rfl, rfl, rfl⟩
      | some target => exact ⟨rfl, rfl, rfl, rfl⟩
  | received source half payload => exact .idle (sameSessions_takeDatagram relay source half payload)
  | held name => exact .ensured ⟨rfl, rfl, rfl, rfl⟩
  | letGo id => exact .idle ⟨rfl, rfl, rfl, rfl⟩
  | sourceForgotten source => exact .idle ⟨rfl, rfl, rfl, rfl⟩
  | sourcesForgotten => exact .idle ⟨rfl, rfl, rfl, rfl⟩

/-! ## Sessions keep what they are -/

/-- A request changes of every session at most what it has negotiated. -/
theorem Outcome.session? {after : Relay} {result : Except Refusal Reply}
    (outcome : relay.Outcome session request after result) (id : SessionId) :
    ∃ change, after.session? id =
      (relay.session? id).map fun session => session.negotiate change := by
  have unchanged : ∃ change, relay.session? id =
      (relay.session? id).map fun session => session.negotiate change :=
    ⟨fun negotiation => negotiation, by simp [Session.negotiate]⟩
  have changed (change : Negotiation → Negotiation) : ∃ change',
      (relay.negotiate session.id change).session? id =
        (relay.session? id).map fun session => session.negotiate change' := by
    rw [session?_negotiate]
    by_cases same : id = session.id
    · exact ⟨change, if_pos same⟩
    · rw [if_neg same]
      exact unchanged
  cases outcome with
  | refused _ => exact unchanged
  | informed _ _ _ _ => exact unchanged
  | announced _ _ _ => exact changed _
  | boundOnly _ _ _ _ => exact changed _
  | ungranted _ _ _ _ _ => exact changed _
  | setUp _ _ _ _ _ => exact changed _
  | recorded _ _ _ => exact changed _
  | played _ _ => exact changed _
  | paused _ => exact changed _
  | tornDown _ => exact changed _

theorem session?_route (relay : Relay) (session : Session) (request : Request) (id : SessionId) :
    ∃ change, (relay.route Handlers.standard session request).1.session? id =
      (relay.session? id).map fun session => session.negotiate change := by
  rw [route_eq]
  exact (outcome_dispatch relay session request).session? id

/-- No request changes the ports of the relay or what is idle. -/
theorem Outcome.fixed {after : Relay} {result : Except Refusal Reply}
    (outcome : relay.Outcome session request after result) :
    after.ports = relay.ports ∧ after.sessionPool = relay.sessionPool ∧
      after.packagePool = relay.packagePool := by
  cases outcome <;> exact ⟨rfl, rfl, rfl⟩

/-- Sessions are listed under their own ids. -/
def Identified (relay : Relay) : Prop :=
  ∀ id session, relay.session? id = some session → session.id = id

theorem identified_new (config : RelayConfig) : (new config).Identified := by
  intro id session found
  simp [session?, new, Table.get?, EmptyCollection.emptyCollection, Table.empty] at found

theorem SameSessions.session? {before after : Relay} (same : SameSessions before after)
    (id : SessionId) : after.session? id = before.session? id := by
  rw [Relay.session?, same.sessions, ← Relay.session?]

theorem SameSessions.channelAt {before after : Relay} (same : SameSessions before after)
    (name : Text) : after.channelAt name = before.channelAt name := by
  rw [Relay.channelAt, same.registry, ← Relay.channelAt]

theorem session?_openSession (relay : Relay) (id : SessionId) (peer : Address) (other : SessionId) :
    (relay.openSession id peer).session? other =
      if other = id then some (relay.sessionPool.acquire id peer relay.ports).1
      else relay.session? other :=
  Table.get?_set relay.sessions id other _

theorem session?_closeSession (relay : Relay) (id other : SessionId) :
    (relay.closeSession id).session? other =
      if other = id then none else relay.session? other := by
  unfold closeSession
  by_cases same : other = id
  · subst same
    cases found : relay.session? other with
    | none => simpa using found
    | some session => simp [session?, Table.get?_erase]
  · cases found : relay.session? id with
    | none => simp [same]
    | some session => simp [session?, Table.get?_erase, same, teardown]

theorem session?_closeLink (relay : Relay) (id other : SessionId) :
    (relay.closeLink id).session? other =
      if other = id then (relay.session? other).map fun session => { session with linkOpen := false }
      else relay.session? other :=
  Table.get?_modify relay.sessions id other _

@[simp] theorem id_acquire (pool : SessionPool) (id : SessionId) (peer : Address)
    (relayPorts : Option (UInt16 × UInt16)) : (pool.acquire id peer relayPorts).1.id = id := by
  unfold SessionPool.acquire
  split <;> rfl

/-- An open session was open before the event, with the same id, or has been opened by it. -/
theorem Change.session_cases {event : Event} {after : Relay} (change : relay.Change event after)
    (found : after.session? id = some session) :
    (∃ earlier, relay.session? id = some earlier ∧ session.id = earlier.id) ∨
      ∃ peer, event = .opened id peer ∧ session.id = id := by
  cases change with
  | idle same => exact .inl ⟨session, same.session? id ▸ found, rfl⟩
  | ensured same => exact .inl ⟨session, same.session? id ▸ found, rfl⟩
  | @opened opening peer _ =>
      rw [session?_openSession] at found
      split at found
      · rename_i same
        rw [Option.some.injEq] at found
        refine .inr ⟨peer, by rw [same], ?_⟩
        rw [← found, id_acquire, same]
      · exact .inl ⟨session, found, rfl⟩
  | @requested acting actor request _ =>
      obtain ⟨change, same⟩ := session?_route relay actor request id
      rw [same] at found
      obtain ⟨earlier, held, rfl⟩ := Option.map_eq_some_iff.mp found
      exact .inl ⟨earlier, held, rfl⟩
  | closed _ =>
      rw [session?_closeSession] at found
      split at found
      · exact nomatch found
      · exact .inl ⟨session, found, rfl⟩
  | linkFailed =>
      rw [session?_closeLink] at found
      split at found
      · obtain ⟨earlier, held, rfl⟩ := Option.map_eq_some_iff.mp found
        exact .inl ⟨earlier, held, rfl⟩
      · exact .inl ⟨session, found, rfl⟩

theorem Change.identified {event : Event} {after : Relay} (change : relay.Change event after)
    (identified : relay.Identified) : after.Identified := by
  intro id session found
  rcases change.session_cases found with ⟨earlier, held, same⟩ | ⟨_, _, named⟩
  · exact same.trans (identified id earlier held)
  · exact named

theorem identified_reached (config : RelayConfig) (events : List Event) :
    (reached config events).Identified :=
  reached_induction config (identified_new config)
    (fun _ event identified => (change_after _ event).identified identified) events

/-- **Every open session has been opened.** -/
theorem opened_of_session? {config : RelayConfig} {events : List Event}
    (found : (reached config events).session? id = some session) :
    ∃ peer, .opened id peer ∈ events := by
  induction events using List.reverseRecOn generalizing session with
  | nil => exact nomatch found
  | append_singleton events event ih =>
      rw [reached_concat] at found
      rcases (change_after _ event).session_cases found with ⟨_, known, _⟩ | ⟨peer, rfl, _⟩
      · obtain ⟨peer, member⟩ := ih known
        exact ⟨peer, List.mem_append_left _ member⟩
      · exact ⟨peer, List.mem_append_right _ (List.mem_singleton.mpr rfl)⟩

/-! ## Events leave other sessions alone -/

theorem SameSessions.keeps {before after : Relay} (same : SameSessions before after)
    (id : SessionId) : Keeps id before after :=
  keeps_of_registry_eq same.registry (same.session? id)

/-- **An event changes nothing for sessions that it is not about.** -/
theorem Change.keeps {event : Event} {after : Relay} (change : relay.Change event after)
    (identified : relay.Identified) (apart : event.actor? ≠ some id) : Keeps id relay after := by
  have foreign {actor : SessionId} (acting : event.actor? = some actor) : id ≠ actor := by
    rintro rfl
    exact apart acting
  cases change with
  | idle same => exact same.keeps id
  | ensured same => exact (keeps_ensureChannel id relay _).trans (same.keeps id)
  | opened _ => exact keeps_openSession (foreign rfl) _
  | @requested acting session request found =>
      have named : session.id = acting := identified acting session found
      exact keeps_route (named ▸ foreign rfl) request
  | closed _ => exact keeps_closeSession (foreign rfl)
  | linkFailed => exact keeps_closeLink (foreign rfl)

/-- A run that is not about a session changes nothing for it. -/
theorem keeps_afterAll (identified : relay.Identified)
    (apart : ∀ event ∈ events, event.actor? ≠ some id) :
    Keeps id relay (relay.afterAll events) := by
  induction events generalizing relay with
  | nil => exact .refl id relay
  | cons event events ih =>
      have change := change_after relay event
      have first := change.keeps identified (apart event List.mem_cons_self)
      exact first.trans (ih (change.identified identified) fun later member =>
        apart later (List.mem_cons_of_mem _ member))

end Relay

/-! ## Requests of a recorder and a viewer -/

namespace Sample

/-- A relay with ports for datagrams. -/
def config : RelayConfig := { ports := some (6000, 6001) }

def recorder : SessionId := "a".toList

def address : Address := ⟨1, 4000⟩

def viewer : SessionId := "b".toList

def distant : Address := ⟨2, 4000⟩

/-- Two media with the controls `t1` and `t2`. -/
def description : Bytes :=
  Utf8.encode "v=0\nm=video 0 RTP/AVP 96\na=control:t1\nm=audio 0 RTP/AVP 97\na=control:t2\n".toList

/-- A request that says nothing but its method. -/
def plain (method : Method) : Request where
  method := method.token
  uri := "/cam".toList

def announce : Request where
  method := Method.announce.token
  uri := "/cam".toList
  headers := [("Content-Type".toList, "application/sdp".toList)]
  body := description

/-- A description of one medium with the control `t1`. -/
def announceOne : Request :=
  { announce with body := Utf8.encode "v=0\nm=video 0 RTP/AVP 96\na=control:t1\n".toList }

def setUp (uri transport : Text) : Request where
  method := Method.setup.token
  uri := uri
  headers := [("Transport".toList, transport)]

/-- The first medium in frames. -/
def framed : Request :=
  setUp "/cam/t1".toList "RTP/AVP/TCP;unicast;interleaved=0-1;mode=record".toList

/-- The first medium in frames, to be received. -/
def viewFrames : Request :=
  setUp "/cam/t1".toList "RTP/AVP/TCP;unicast;interleaved=2-3".toList

/-- The second medium in frames, to be received. -/
def viewSecond : Request :=
  setUp "/cam/t2".toList "RTP/AVP/TCP;unicast;interleaved=4-5".toList

/-- The second medium in datagrams. -/
def datagrams : Request :=
  setUp "/cam/t2".toList "RTP/AVP;unicast;client_port=5000-5001;mode=record".toList

def halfSetUp : List Event :=
  [.opened recorder address, .requested recorder announce, .requested recorder framed]

end Sample

end MediaRelay
