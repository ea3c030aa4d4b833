import MediaRelay.Relay.Basic

/-!
# Sources of datagrams

Datagrams reach the relay on two sockets that all producers share, so only the address they come
from tells which channel they are for: that of the producer on the host which sends a medium from
the port. The relay remembers the channel for each source, and looks again when the channel's
producer no longer fits.
-/

namespace MediaRelay

/-- The producer and the medium that a datagram belongs to. -/
structure Origin where
  channelId : ChannelId
  channel : Channel
  producer : Session
  ordinal : Ordinal
  deriving DecidableEq

namespace Relay

/-- The producer of a channel, if it is on a host. -/
def producerOn? (relay : Relay) (channel : Channel) (host : Nat) : Option Session :=
  (channel.producer.bind relay.session?).filter fun session => session.peer.host = host

/-- What a datagram from an address is to a channel. -/
def originIn? (relay : Relay) (source : Address) (slot : Slot) : Option Origin :=
  (relay.producerOn? slot.channel source.host).bind fun producer =>
    (producer.negotiation.ordinalForPort? source.port).map fun ordinal =>
      ⟨slot.id, slot.channel, producer, ordinal⟩

/-- The first registered channel that a datagram from an address belongs to. -/
def scan? (relay : Relay) (source : Address) : Option Origin :=
  relay.registry.slots.values.findSome? (relay.originIn? source)

/-- What a datagram is to the channel remembered for its source. -/
def remembered? (relay : Relay) (source : Address) : Option Origin :=
  ((relay.sources.get? source).join.bind fun id =>
    (relay.registry.byId? id).map fun channel => ⟨id, channel⟩).bind (relay.originIn? source)

/-- What a datagram belongs to: the remembered channel, as long as it fits. -/
def resolve? (relay : Relay) (source : Address) : Option Origin :=
  (relay.remembered? source).or (relay.scan? source)

/-- What became of a datagram. -/
inductive Routing where
  | dropped
  | pushed (channel : ChannelId) (package : Package)
  deriving DecidableEq, Repr

/-- Takes in a datagram: it goes to the channel it belongs to, if the producer is recording. -/
def takeDatagram (relay : Relay) (source : Address) (half : Half) (payload : Bytes) :
    Relay × Routing × List Delivery :=
  let origin := relay.resolve? source
  let (package, relay) := packed { relay with
    sources := relay.sources.set source (origin.map Origin.channelId) } payload
  match origin with
  | none => (relay.discard package, .dropped, [])
  | some origin =>
    if origin.producer.negotiation.isRecording then
      let package := { package with
        interleaved := false, channel := half.index, order := origin.ordinal }
      let (relay, sent) := relay.push origin.channel package
      (relay, .pushed origin.channelId package, sent)
    else
      (relay.discard package, .dropped, [])

/-- Forgets all sources. -/
def forgetSources (relay : Relay) : Relay := { relay with sources := {} }

/-- Forgets a source. -/
def forgetSource (relay : Relay) (source : Address) : Relay :=
  { relay with sources := relay.sources.erase source }

end Relay

end MediaRelay
