import MediaRelay.Proofs.Relay.Conversion
import MediaRelay.Proofs.Relay.FanOut
import MediaRelay.Proofs.Relay.SetUps

/-! # Frames on the channels of a viewer

A viewer that has negotiated a channel number for a half of a medium may be sent there what its
producer sends on that half of the medium. `Negotiation.Arrival` has a case for everything else that
may come on the number, and `Relay.arrival_of_frame` says that there are no others. They come from
what clients may ask for: any pair of numbers, in any order, also one that is in use already, and
frames with numbers that were never negotiated.
-/

namespace MediaRelay

/-- The other half of a pair. -/
def Half.other : Half → Half
  | .rtp => .rtcp
  | .rtcp => .rtp

theorem Half.eq_other_of_ne {half half' : Half} (different : half' ≠ half) : half' = half.other := by
  cases half <;> cases half' <;> first | rfl | exact absurd rfl different

/-- A frame is told by its channel number and its payload. -/
theorem Frame.channel_eq_of_head {channel other : UInt8} {payload : Bytes}
    (same : (Frame.mk channel payload).head ++ payload = (Frame.mk other payload).head ++ payload) :
    channel = other := by
  simp only [head, List.cons_append, List.cons.injEq] at same
  exact same.2.1

namespace Negotiation

/-- A channel number is negotiated for a half of the medium with an ordinal. -/
def Has (negotiation : Negotiation) (ordinal : Ordinal) (half : Half) (number : UInt8) : Prop :=
  ∃ media ∈ negotiation.media.values, media.ordinal = ordinal ∧
    media.route.number? half = some number

instance (negotiation : Negotiation) (ordinal : Ordinal) (half : Half) (number : UInt8) :
    Decidable (negotiation.Has ordinal half number) :=
  inferInstanceAs (Decidable (∃ media ∈ negotiation.media.values, media.ordinal = ordinal ∧
    media.route.number? half = some number))

/-- How a frame that is sent on one channel number arrives on another one, which the viewer has
negotiated for a half of a medium. -/
inductive Arrival (producer viewer : Negotiation) (sent arrived : UInt8) (ordinal : Ordinal)
    (half : Half) : Prop where
  /-- The producer has negotiated the number for that half of its medium with the ordinal. -/
  | matched (own : producer.Has ordinal half sent)
  /-- The producer has not negotiated the number, which stands for the ordinal and the half. -/
  | unclaimed (free : ∀ media ∈ producer.media.values, media.usesChannel sent = false)
      (stands : Ordinal.split sent = (ordinal, half))
  /-- The producer has negotiated the number for the other half, but its parity is that of the
  half. -/
  | turned (own : producer.Has ordinal half.other sent) (parity : Half.ofParity sent = half)
  /-- The viewer has no medium with the ordinal, so the number stays as it is. -/
  | kept (missing : ∀ media ∈ viewer.media.values, media.ordinal ≠ producer.ordinalForChannel sent)
      (same : arrived = sent)
  /-- The viewer has negotiated the number for something else, too. -/
  | shared (also : viewer.Has (producer.ordinalForChannel sent) (Half.ofParity sent) arrived)
      (different : (producer.ordinalForChannel sent, Half.ofParity sent) ≠ (ordinal, half))

variable {negotiation producer viewer : Negotiation} {package : Package} {sent arrived : UInt8}
  {ordinal : Ordinal} {half : Half}

/-- A package leaves in a frame on the session's own medium, or without one on its own number. -/
theorem outlet?_frame_cases (alike : negotiation.Alike)
    (own : negotiation.Has ordinal half arrived) (framed : package.interleaved = true)
    {number : UInt8} (outlet : negotiation.outlet? package = some (.frame number)) :
    negotiation.Has package.order (Half.ofParity package.channel) number ∨
      ((∀ media ∈ negotiation.media.values, media.ordinal ≠ package.order) ∧
        number = package.channel) := by
  unfold outlet? Outlet.of? at outlet
  cases found : Media.withOrdinal? negotiation.media.values package.order with
  | none =>
      simp only [found, framed, Option.map_none, ↓reduceIte] at outlet
      split at outlet
      · refine .inr ⟨fun media listed same => ?_, (Outlet.frame.inj (Option.some.inj outlet)).symm⟩
        exact List.find?_eq_none.mp found media listed (decide_eq_true same)
      · cases outlet
  | some media =>
      have listed := List.mem_of_find?_eq_some found
      have ordered : media.ordinal = package.order := by simpa using List.find?_some found
      simp only [found, framed, Option.map_some, ↓reduceIte] at outlet
      cases route : media.route with
      | interleaved rtp rtcp =>
          simp only [route] at outlet
          split at outlet
          · have same := Outlet.frame.inj (Option.some.inj outlet)
            exact .inl ⟨media, listed, ordered,
              Route.number?_eq_some_iff.mpr ⟨rtp, rtcp, route, same⟩⟩
          · cases outlet
      | udp rtp rtcp =>
          -- Media travel alike, and the viewer has one that travels in frames.
          obtain ⟨framing, listed', _, numbered⟩ := own
          obtain ⟨_, _, route', _⟩ := Route.number?_eq_some_iff.mp numbered
          obtain ⟨control, held⟩ := (Table.mem_values_iff _ _).mp listed
          obtain ⟨other, held'⟩ := (Table.mem_values_iff _ _).mp listed'
          have same := alike control media other framing held held'
          simp only [Media.isInterleaved, route, route'] at same
          cases same

/-- The half that a frame arrives on is that of its number, and so is the ordinal. -/
theorem arrival_of_has (own : viewer.Has (producer.ordinalForChannel sent) (Half.ofParity sent)
    arrived) : Arrival producer viewer sent arrived ordinal half := by
  by_cases same : (producer.ordinalForChannel sent, Half.ofParity sent) = (ordinal, half)
  · obtain ⟨ordered, parity⟩ := Prod.mk.inj same
    rcases producer.ordinalForChannel_cases sent with ⟨media, listed, uses, known⟩ | ⟨free, known⟩
    · obtain ⟨half', numbered⟩ := Media.usesChannel_iff.mp uses
      by_cases agree : half' = half
      · exact .matched ⟨media, listed, known.symm.trans ordered, agree ▸ numbered⟩
      · rw [Half.eq_other_of_ne agree] at numbered
        exact .turned ⟨media, listed, known.symm.trans ordered, numbered⟩ parity
    · refine .unclaimed free ?_
      rw [← ordered, known, ← parity]
      rfl
  · exact .shared own same

/-- Nothing crosses if the producer sends on a number that it has negotiated, in pairs that do not
overlap and begin with an even number, and the viewer has a medium with the ordinal and has
negotiated its number only once. -/
theorem Arrival.has_of_once (arrival : Arrival producer viewer sent arrived ordinal half)
    (sending : producer.Sending)
    (claimed : ∃ media ∈ producer.media.values, media.usesChannel sent = true)
    (served : ∃ media ∈ viewer.media.values, media.ordinal = producer.ordinalForChannel sent)
    (once : ∀ other half', viewer.Has other half' arrived → (other, half') = (ordinal, half)) :
    producer.Has ordinal half sent := by
  cases arrival with
  | matched own => exact own
  | unclaimed free _ =>
      obtain ⟨media, listed, uses⟩ := claimed
      exact nomatch uses.symm.trans (free media listed)
  | turned own parity =>
      obtain ⟨media, listed, _, numbered⟩ := own
      obtain ⟨rtp, rtcp, route, picked⟩ := Route.number?_eq_some_iff.mp numbered
      obtain ⟨even, odd⟩ := sending.even media listed rtp rtcp route
      have same := Half.ofParity_pick even odd half.other
      rw [picked, parity] at same
      cases half <;> exact nomatch same
  | kept missing _ =>
      obtain ⟨media, listed, ordered⟩ := served
      exact (missing media listed ordered).elim
  | shared also different => exact (different (once _ _ also)).elim

end Negotiation

namespace Session

variable {session : Session} {package : Package} {message : Bytes}

/-- A message that a package comes to is a frame of its payload. -/
theorem outlet?_of_written (written : session.forward package = .ok (some (.written message))) :
    ∃ channel, session.negotiation.outlet? package = some (.frame channel) ∧
      message = (Frame.mk channel package.payload).head ++ package.payload := by
  unfold forward at written
  cases outlet : session.negotiation.outlet? package with
  | none => simp [outlet] at written
  | some place =>
      cases place with
      | datagram half port =>
          simp only [outlet] at written
          split at written <;> simp at written
      | frame channel =>
          simp only [outlet, Frame.encode, send] at written
          by_cases large : maxPayload < package.payload.length
          · simp [large] at written
          · cases open' : session.linkOpen with
            | false => simp [large, open'] at written
            | true =>
                simp only [large, open', ↓reduceIte, Except.ok.injEq, Option.some.injEq,
                  Parcel.written.injEq] at written
                exact ⟨channel, rfl, written.symm⟩

end Session

namespace Relay

variable {relay : Relay} {session viewer : Session} {channel : Channel} {package : Package}
  {id : SessionId} {parcel : Parcel}

/-- What is delivered to a session is what the package comes to. -/
theorem forward_of_mem_deliveries (found : relay.session? id = some session)
    (delivered : ⟨id, parcel⟩ ∈ relay.deliveries channel package) :
    session.forward package = .ok (some parcel) := by
  obtain ⟨subscriber, _, sent⟩ := List.mem_filterMap.mp delivered
  obtain rfl : id = subscriber := recipient_of_deliver? sent
  simp only [deliver?, found] at sent
  split at sent
  · split at sent
    · rename_i forwarded
      rw [forwarded, ← (Delivery.mk.inj (Option.some.inj sent)).2]
    · cases sent
  · cases sent

/-- **Where frames on a negotiated channel come from.** Whenever a frame that a producer sends is
delivered to a viewer on a channel number that the viewer has negotiated for a half of a medium, the
producer has negotiated the number that it sent the frame on for the same half of its medium with
that ordinal, or else the frame arrived in one of the other ways. -/
theorem arrival_of_frame {config : RelayConfig} {events : List Event} {producer : Negotiation}
    {sent arrived : UInt8} {ordinal : Ordinal} {half : Half} {payload : Bytes}
    (found : (reached config events).session? id = some viewer)
    (tagged : package.trimmed =
      ⟨payload, payload.length, true, sent, producer.ordinalForChannel sent⟩)
    (delivered : ⟨id, .written ((Frame.mk arrived payload).head ++ payload)⟩ ∈
      (reached config events).deliveries channel package)
    (own : viewer.negotiation.Has ordinal half arrived) :
    Negotiation.Arrival producer viewer.negotiation sent arrived ordinal half := by
  have whole : package.payload = payload := congrArg Package.buffer tagged
  have framed : package.interleaved = true := congrArg Package.interleaved tagged
  have number : package.channel = sent := congrArg Package.channel tagged
  have ordered : package.order = producer.ordinalForChannel sent := congrArg Package.order tagged
  obtain ⟨channel, outlet, message⟩ :=
    Session.outlet?_of_written (forward_of_mem_deliveries found delivered)
  rw [whole] at message
  obtain rfl := Frame.channel_eq_of_head message
  rcases Negotiation.outlet?_frame_cases (alike_reached found) own framed outlet with
    also | ⟨missing, same⟩
  · rw [ordered, number] at also
    exact Negotiation.arrival_of_has also
  · exact .kept (ordered ▸ missing) (same.trans number)

end Relay

namespace Sample

/-- A recorder sends its first medium on a pair of numbers in reverse, and a viewer receives two
media on pairs that overlap. -/
def crossing : List Event :=
  [.opened recorder address, .requested recorder announce,
    .requested recorder
      (setUp "/cam/t1".toList "RTP/AVP/TCP;unicast;interleaved=1-0;mode=record".toList),
    .requested recorder
      (setUp "/cam/t2".toList "RTP/AVP/TCP;unicast;interleaved=4-5;mode=record".toList),
    .requested recorder (plain .record), .opened viewer distant,
    .requested viewer (setUp "/cam/t1".toList "RTP/AVP/TCP;unicast;interleaved=10-11".toList),
    .requested viewer (setUp "/cam/t2".toList "RTP/AVP/TCP;unicast;interleaved=12-10".toList),
    .requested viewer (plain .play)]

/-- What comes in as a session sends a payload in a frame. -/
def tagged (session : Session) (number : UInt8) : Package :=
  ⟨[7], 1, true, number, session.negotiation.ordinalForChannel number⟩

/-- What the viewer is sent in a frame. -/
def shown (number : UInt8) : Delivery :=
  ⟨viewer, .written ((Frame.mk number [7]).head ++ [7])⟩

end Sample

namespace Relay

set_option maxRecDepth 100000 in
theorem arrival_of_frame_matched :
    ∃ recorder ∈ (reached Sample.config Sample.crossing).session? Sample.recorder,
    ∃ viewer ∈ (reached Sample.config Sample.crossing).session? Sample.viewer,
    ∃ channel ∈ (reached Sample.config Sample.crossing).registry.get? "cam".toList,
      Sample.shown 12 ∈ (reached Sample.config Sample.crossing).deliveries channel
        (Sample.tagged recorder 4) ∧
      viewer.negotiation.Has 1 .rtp 12 ∧ recorder.negotiation.Has 1 .rtp 4 ∧
      Negotiation.Arrival recorder.negotiation viewer.negotiation 4 12 1 .rtp := by
  have arrives : ∃ recorder ∈ (reached Sample.config Sample.crossing).session? Sample.recorder,
      ∃ viewer ∈ (reached Sample.config Sample.crossing).session? Sample.viewer,
      ∃ channel ∈ (reached Sample.config Sample.crossing).registry.get? "cam".toList,
        Sample.shown 12 ∈ (reached Sample.config Sample.crossing).deliveries channel
          (Sample.tagged recorder 4) ∧
        viewer.negotiation.Has 1 .rtp 12 ∧ recorder.negotiation.Has 1 .rtp 4 := by
    decide +kernel
  obtain ⟨recorder, present, viewer, found, channel, registered, delivered, own, theirs⟩ := arrives
  exact ⟨recorder, present, viewer, found, channel, registered, delivered, own, theirs,
    arrival_of_frame found rfl delivered own⟩

set_option maxRecDepth 100000 in
/-- Frames arrive on numbers of the viewer that they were not sent for: with a number that is turned,
that is not negotiated, that no medium of the viewer is meant by, and that the viewer shares. -/
theorem frames_cross :
    ∃ recorder ∈ (reached Sample.config Sample.crossing).session? Sample.recorder,
    ∃ viewer ∈ (reached Sample.config Sample.crossing).session? Sample.viewer,
    ∃ channel ∈ (reached Sample.config Sample.crossing).registry.get? "cam".toList,
      recorder.negotiation.isRecording = true ∧ viewer.negotiation.isPlaying = true ∧
      channel.producer = some Sample.recorder ∧
      (Sample.shown 11 ∈ (reached Sample.config Sample.crossing).deliveries channel
          (Sample.tagged recorder 1) ∧
        viewer.negotiation.Has 0 .rtcp 11 ∧ ¬ recorder.negotiation.Has 0 .rtcp 1) ∧
      (Sample.shown 12 ∈ (reached Sample.config Sample.crossing).deliveries channel
          (Sample.tagged recorder 2) ∧
        viewer.negotiation.Has 1 .rtp 12 ∧ ¬ recorder.negotiation.Has 1 .rtp 2) ∧
      (Sample.shown 10 ∈ (reached Sample.config Sample.crossing).deliveries channel
          (Sample.tagged recorder 10) ∧
        viewer.negotiation.Has 0 .rtp 10 ∧ ¬ recorder.negotiation.Has 0 .rtp 10) ∧
      Sample.shown 10 ∈ (reached Sample.config Sample.crossing).deliveries channel
          (Sample.tagged recorder 5) ∧
        viewer.negotiation.Has 0 .rtp 10 ∧ ¬ recorder.negotiation.Has 0 .rtp 5 := by
  decide +kernel

end Relay

end MediaRelay
