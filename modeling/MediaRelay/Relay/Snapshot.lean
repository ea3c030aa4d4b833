import MediaRelay.Relay.Basic

/-!
# Snapshots

What the relay shows of its channels: each with its producer, its subscribers and whether it is
described. Channels come in the order of their names and subscribers in that of their ids.
-/

namespace MediaRelay

structure SessionInfo where
  id : SessionId
  address : Address
  interleaved : Bool
  state : SessionState
  deriving DecidableEq, Repr

structure ChannelInfo where
  name : Text
  producer : Option SessionInfo
  subscribers : List SessionInfo
  hasDescription : Bool
  deriving DecidableEq, Repr

/-- What is shown of a session. -/
def Session.info (session : Session) : SessionInfo :=
  ⟨session.id, session.peer, session.negotiation.interleaved, session.negotiation.state⟩

/-- Puts a value before those with a greater key. -/
def insertByKey {α : Type} (key : α → Text) (value : α) : List α → List α
  | [] => [value]
  | other :: rest =>
    if key other < key value then other :: insertByKey key value rest else value :: other :: rest

/-- The values in the order of their keys. -/
def sortedByKey {α : Type} (key : α → Text) (values : List α) : List α :=
  values.foldr (insertByKey key) []

namespace Relay

/-- What is shown of a channel. -/
def channelInfo (relay : Relay) (name : Text) (channel : Channel) : ChannelInfo where
  name := name
  producer := (channel.producer.bind relay.session?).map Session.info
  subscribers := sortedByKey SessionInfo.id
    ((channel.subscribers.filterMap relay.session?).map Session.info)
  hasDescription := channel.description.isSome

/-- What is shown of the relay. -/
def snapshot (relay : Relay) : List ChannelInfo :=
  sortedByKey ChannelInfo.name
    (relay.registry.slots.entries.map fun entry => relay.channelInfo entry.1 entry.2.channel)

end Relay

end MediaRelay
