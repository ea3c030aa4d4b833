import MediaRelay.Registry
import MediaRelay.Session.Pool

/-!
# The relay

The state of a running relay: the registered channels, the open sessions, the idle sessions and
packages, the sources of datagrams and the handles that are kept on channels. Sessions are opened
and closed here, and packages are pushed into channels.
-/

namespace MediaRelay

/-- What a relay is set up with. -/
structure RelayConfig where
  /-- The channel that targets without a name mean. -/
  defaultChannel : Option Text := some "live".toList
  /-- The ports of the sockets for datagrams; without them media travel on connections only. -/
  ports : Option (UInt16 × UInt16) := none
  /-- After how many milliseconds an idle connection ends; never if zero. -/
  timeout : Nat := 60000
  idleSessions : Nat := 64
  idlePackages : Nat := 1024
  deriving DecidableEq, Repr

/-- Something that leaves the relay for the peer of a session. -/
structure Delivery where
  recipient : SessionId
  parcel : Parcel
  deriving DecidableEq, Repr

structure Relay where
  ports : Option (UInt16 × UInt16)
  timeout : Nat
  registry : Registry
  sessions : Table SessionId Session := {}
  sessionPool : SessionPool
  packagePool : PackagePool
  /-- The addresses that datagrams came from, each with the channel they were last meant for. -/
  sources : Table Address (Option ChannelId) := {}
  /-- The channels that are kept in use from outside. -/
  handles : List ChannelId := []
  deriving DecidableEq

namespace Relay

/-- A relay that nobody uses yet. -/
def new (config : RelayConfig) : Relay where
  ports := config.ports
  timeout := config.timeout
  registry := .new config.defaultChannel
  sessionPool := ⟨config.idleSessions, []⟩
  packagePool := ⟨config.idlePackages, []⟩

/-- The channels that may not be retired. -/
def held (relay : Relay) : List ChannelId := relay.handles ++ relay.sources.values.filterMap id

/-- The idle timeout in whole seconds. -/
def timeoutSeconds (relay : Relay) : Nat := relay.timeout / 1000

/-- The session with an id. -/
def session? (relay : Relay) (id : SessionId) : Option Session := relay.sessions.get? id

/-- Changes what a session has negotiated. -/
def negotiate (relay : Relay) (id : SessionId) (change : Negotiation → Negotiation) : Relay :=
  { relay with sessions := relay.sessions.modify id fun session => session.negotiate change }

/-- Registers a channel, if the name has none. -/
def ensureChannel (relay : Relay) (name : Text) : Relay :=
  { relay with registry := relay.registry.ensure name }

/-- Changes a channel. -/
def modifyChannel (relay : Relay) (name : Text) (change : Channel → Channel) : Relay :=
  { relay with registry := relay.registry.modify name change }

/-- Removes a session from every channel, and retires the channels that become vacant. -/
def teardown (relay : Relay) (id : SessionId) : Relay :=
  { relay with registry := relay.registry.teardown relay.held id }

/-- Opens a session for a peer. The id is one that no session had before. -/
def openSession (relay : Relay) (id : SessionId) (peer : Address) : Relay :=
  let acquired := relay.sessionPool.acquire id peer relay.ports
  { relay with
    sessions := relay.sessions.set id acquired.1
    sessionPool := acquired.2 }

/-- Whether a session that closes now goes back to the pool. -/
def reusesOnClose (relay : Relay) (id : SessionId) : Bool :=
  relay.sessionPool.accepts ((relay.teardown id).registry.refersTo id)

/-- Closes a session: it leaves every channel and returns to the pool. -/
def closeSession (relay : Relay) (id : SessionId) : Relay :=
  match relay.session? id with
  | none => relay
  | some session =>
    let left := relay.teardown id
    { left with
      sessions := left.sessions.erase id
      sessionPool := left.sessionPool.release (left.registry.refersTo id) session }

/-- Lets the link of a session fail from now on. -/
def closeLink (relay : Relay) (id : SessionId) : Relay :=
  { relay with
    sessions := relay.sessions.modify id fun session => { session with linkOpen := false } }

/-- Keeps a handle on a channel, which is registered if need be. -/
def hold (relay : Relay) (name : Text) : Relay :=
  let ensured := relay.ensureChannel name
  { ensured with handles := (ensured.registry.idOf? name).toList ++ ensured.handles }

/-- Lets go of a handle. -/
def letGo (relay : Relay) (id : ChannelId) : Relay :=
  { relay with handles := relay.handles.erase id }

theorem session?_negotiate (relay : Relay) (id other : SessionId)
    (change : Negotiation → Negotiation) :
    (relay.negotiate id change).session? other =
      if other = id then (relay.session? other).map fun session => session.negotiate change
      else relay.session? other :=
  Table.get?_modify relay.sessions id other _

/-! ## Packages -/

/-- Takes an idle package and puts a payload into it. -/
def packed (relay : Relay) (payload : Bytes) : Package × Relay :=
  let acquired := relay.packagePool.acquire
  (acquired.1.fill payload, { relay with packagePool := acquired.2 })

/-- Returns a package to the pool. -/
def discard (relay : Relay) (package : Package) : Relay :=
  { relay with packagePool := relay.packagePool.release package }

/-- What a subscriber is sent of a package: nothing unless it is playing. -/
def deliver? (relay : Relay) (package : Package) (id : SessionId) : Option Delivery :=
  match relay.session? id with
  | none => none
  | some session =>
    if session.negotiation.isPlaying then
      match session.forward package with
      | .ok (some parcel) => some ⟨id, parcel⟩
      | _ => none
    else
      none

/-- What the subscribers of a channel are sent of a package. -/
def deliveries (relay : Relay) (channel : Channel) (package : Package) : List Delivery :=
  channel.subscribers.filterMap (relay.deliver? package)

/-- Pushes a package into a channel. Once its subscribers have it, it returns to the pool. -/
def push (relay : Relay) (channel : Channel) (package : Package) : Relay × List Delivery :=
  (relay.discard package, relay.deliveries channel package)

end Relay

end MediaRelay
