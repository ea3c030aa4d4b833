import MediaRelay.Media.Package
import MediaRelay.Transport

/-!
# Negotiated media

A medium that a session has set up knows its ordinal, its direction and the pair of channel
numbers or ports it travels on. The functions on lists of media say which medium a packet belongs
to; each takes the first that fits.
-/

namespace MediaRelay

/-- The pair that a medium travels on. -/
inductive Route where
  /-- Two channel numbers on the connection. -/
  | interleaved (rtp rtcp : UInt8)
  /-- Two ports of the peer. -/
  | udp (rtp rtcp : UInt16)
  deriving DecidableEq, Repr

structure Media where
  /-- Whether the peer sends the medium rather than receives it. -/
  record : Bool
  ordinal : Ordinal
  route : Route
  deriving DecidableEq, Repr

namespace Media

/-- The medium that a transport specification asks for. -/
def ofTransport? (ordinal : Ordinal) (transport : Transport) : Option Media :=
  if transport.isInterleaved then
    transport.interleaved.map fun pair => ⟨transport.record, ordinal, .interleaved pair.1 pair.2⟩
  else
    transport.clientPorts.map fun pair => ⟨transport.record, ordinal, .udp pair.1 pair.2⟩

/-- Whether the medium travels in frames on the connection. -/
def isInterleaved (media : Media) : Bool :=
  match media.route with
  | .interleaved _ _ => true
  | .udp _ _ => false

/-- Whether a channel number is one of the medium's pair. -/
def usesChannel (media : Media) (channel : UInt8) : Bool :=
  match media.route with
  | .interleaved rtp rtcp => channel = rtp || channel = rtcp
  | .udp _ _ => false

/-- Whether the peer sends the medium from a port. -/
def recordsFrom (media : Media) (port : UInt16) : Bool :=
  match media.route with
  | .interleaved _ _ => false
  | .udp rtp rtcp => media.record && (port = rtp || port = rtcp)

/-- The medium with an ordinal. -/
def withOrdinal? (listed : List Media) (ordinal : Ordinal) : Option Media :=
  listed.find? fun media => media.ordinal = ordinal

/-- The ordinal of the medium that a channel number belongs to; numbers of no medium stand for the
ordinal of their own pair. -/
def ordinalForChannel (listed : List Media) (channel : UInt8) : Ordinal :=
  match listed.find? fun media => media.usesChannel channel with
  | some media => media.ordinal
  | none => (Ordinal.split channel).1

/-- The ordinal of the medium that the peer sends from a port. -/
def ordinalForPort? (listed : List Media) (port : UInt16) : Option Ordinal :=
  (listed.find? fun media => media.recordsFrom port).map Media.ordinal

end Media

/-- Where a package leaves a session. -/
inductive Outlet where
  | frame (channel : UInt8)
  | datagram (half : Half) (port : UInt16)
  deriving DecidableEq, Repr

namespace Outlet

/-- Where a package leaves a session that has set up the listed media. A frame takes the channel
of the session's own medium; without one it keeps its number, and a datagram takes the number of
its ordinal. A datagram takes the port of the session's own medium. -/
def of? (listed : List Media) (interleaved : Bool) (package : Package) : Option Outlet :=
  let half := Half.ofParity package.channel
  let route := (Media.withOrdinal? listed package.order).map Media.route
  if interleaved then
    match route with
    | some (.interleaved rtp rtcp) => some (frame (half.pick (rtp, rtcp)))
    | _ =>
      if package.interleaved then
        some (frame package.channel)
      else
        (Ordinal.join? package.order half).map frame
  else
    match route with
    | some (.udp rtp rtcp) => some (datagram half (half.pick (rtp, rtcp)))
    | _ => none

end Outlet

end MediaRelay
