import MediaRelay.Session.Basic

/-!
# The session pool

Closed sessions leave what they had negotiated to later ones, cleared, as long as the pool has
room. A session that something still refers to leaves nothing.
-/

namespace MediaRelay

structure SessionPool where
  capacity : Nat
  free : List Negotiation := []
  deriving DecidableEq

namespace SessionPool

/-- A new session for a peer. -/
def acquire (pool : SessionPool) (id : SessionId) (peer : Address)
    (relayPorts : Option (UInt16 × UInt16)) : Session × SessionPool :=
  match pool.free with
  | [] => ({ id, peer, relayPorts }, pool)
  | negotiation :: free => ({ id, peer, relayPorts, negotiation }, { pool with free := free })

/-- Whether a released session goes back to the pool. -/
def accepts (pool : SessionPool) (referred : Bool) : Bool :=
  !referred && pool.free.length < pool.capacity

/-- Returns a session. -/
def release (pool : SessionPool) (referred : Bool) (session : Session) : SessionPool :=
  if pool.accepts referred then
    { pool with free := session.negotiation.clear :: pool.free }
  else
    pool

/-- How many sessions are idle. -/
def idle (pool : SessionPool) : Nat := pool.free.length

end SessionPool

end MediaRelay
