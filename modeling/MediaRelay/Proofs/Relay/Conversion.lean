import Mathlib.Data.List.Nodup
import Mathlib.Data.List.Pairwise
import MediaRelay.Proofs.Media.Numbers
import MediaRelay.Proofs.Relay.Origins
import MediaRelay.Proofs.Relay.Packages

/-! # From one framing to another

What a producer sends on a half of a medium is taken in as a package, in a frame or in a datagram,
and leaves a viewer on the same half of the viewer's own medium with that ordinal, whatever pairs
the two have negotiated and however their media travel (`Session.forward_converts`). This takes pairs
that do not overlap, with the even channel number first: the half of a frame is read off the parity
of its channel number, and the ordinal is that of the first medium that uses the number.
-/

namespace MediaRelay

namespace Half

theorem ofParity_pick {rtp rtcp : UInt8} (even : rtp % 2 = 0) (odd : rtcp % 2 = 1) (half : Half) :
    ofParity (half.pick (rtp, rtcp)) = half := by
  cases half with
  | rtp => exact if_pos even
  | rtcp =>
      refine if_neg ?_
      rw [pick, odd]
      decide

end Half

/-- Two pairs have no channel number and no port in common. -/
def Route.Disjoint : Route → Route → Prop
  | .interleaved rtp rtcp, .interleaved rtp' rtcp' =>
    ∀ half half' : Half, half.pick (rtp, rtcp) ≠ half'.pick (rtp', rtcp')
  | .udp rtp rtcp, .udp rtp' rtcp' =>
    ∀ half half' : Half, half.pick (rtp, rtcp) ≠ half'.pick (rtp', rtcp')
  | _, _ => True

theorem Route.Disjoint.symm {first second : Route} (disjoint : first.Disjoint second) :
    second.Disjoint first := by
  cases first <;> cases second
  · exact fun half half' => (disjoint half' half).symm
  · trivial
  · trivial
  · exact fun half half' => (disjoint half' half).symm

/-- The channel number of a half. -/
def Route.number? (route : Route) (half : Half) : Option UInt8 :=
  match route with
  | .interleaved rtp rtcp => some (half.pick (rtp, rtcp))
  | .udp _ _ => none

theorem Route.number?_eq_some_iff {route : Route} {half : Half} {number : UInt8} :
    route.number? half = some number ↔
      ∃ rtp rtcp, route = .interleaved rtp rtcp ∧ half.pick (rtp, rtcp) = number := by
  constructor
  · intro numbered
    cases route with
    | interleaved rtp rtcp => exact ⟨rtp, rtcp, rfl, Option.some.inj numbered⟩
    | udp rtp rtcp => exact nomatch numbered
  · rintro ⟨rtp, rtcp, rfl, rfl⟩
    rfl

/-- A medium in frames uses the channel numbers of its halves. -/
theorem Media.usesChannel_iff {media : Media} {channel : UInt8} :
    media.usesChannel channel = true ↔ ∃ half, media.route.number? half = some channel := by
  unfold usesChannel
  cases media.route with
  | udp rtp rtcp => simp [Route.number?]
  | interleaved rtp rtcp =>
      simp only [Bool.or_eq_true, decide_eq_true_eq]
      constructor
      · rintro (rfl | rfl)
        · exact ⟨.rtp, rfl⟩
        · exact ⟨.rtcp, rfl⟩
      · rintro ⟨half, numbered⟩
        cases half with
        | rtp => exact .inl (Option.some.inj numbered).symm
        | rtcp => exact .inr (Option.some.inj numbered).symm

namespace Negotiation

/-- Media to be sent, on pairs that do not overlap. -/
structure Sending (negotiation : Negotiation) : Prop where
  records : ∀ media ∈ negotiation.media.values, media.record = true
  disjoint : negotiation.media.values.Pairwise fun media other => media.route.Disjoint other.route
  even : ∀ media ∈ negotiation.media.values, ∀ rtp rtcp, media.route = .interleaved rtp rtcp →
    rtp % 2 = 0 ∧ rtcp % 2 = 1

/-- Media told apart by their ordinals that travel as the session does. -/
structure Receiving (negotiation : Negotiation) : Prop where
  ordinals : (negotiation.media.values.map Media.ordinal).Nodup
  framed : ∀ media ∈ negotiation.media.values, media.isInterleaved = negotiation.interleaved

/-- What comes in as a payload is sent on a half of a medium: in a frame, or in a datagram on the
socket of the half. -/
def taken? (negotiation : Negotiation) (media : Media) (half : Half) (payload : Bytes) :
    Option Package :=
  match media.route with
  | .interleaved rtp rtcp =>
    let channel := half.pick (rtp, rtcp)
    some ⟨payload, payload.length, true, channel, negotiation.ordinalForChannel channel⟩
  | .udp rtp rtcp =>
    (negotiation.ordinalForPort? (half.pick (rtp, rtcp))).map fun ordinal =>
      ⟨payload, payload.length, false, half.index, ordinal⟩

variable {negotiation : Negotiation} {media other : Media} {half : Half}

/-! ## What comes in -/

theorem Sending.disjoint_of_ne (sending : negotiation.Sending)
    (owned : media ∈ negotiation.media.values) (listed : other ∈ negotiation.media.values)
    (different : media ≠ other) : media.route.Disjoint other.route :=
  have _symmetric : Std.Symm fun media other : Media => media.route.Disjoint other.route :=
    ⟨fun _ _ disjoint => disjoint.symm⟩
  sending.disjoint.forall owned listed different

/-- The ordinal of a channel number is that of a medium that uses it, or else the one that the number
stands for. -/
theorem ordinalForChannel_cases (negotiation : Negotiation) (channel : UInt8) :
    (∃ media ∈ negotiation.media.values, media.usesChannel channel = true ∧
      negotiation.ordinalForChannel channel = media.ordinal) ∨
    ((∀ media ∈ negotiation.media.values, media.usesChannel channel = false) ∧
      negotiation.ordinalForChannel channel = (Ordinal.split channel).1) := by
  unfold ordinalForChannel Media.ordinalForChannel
  cases found : negotiation.media.values.find? fun media => media.usesChannel channel with
  | none =>
      refine .inr ⟨fun media listed => ?_, rfl⟩
      exact Bool.eq_false_iff.mpr (List.find?_eq_none.mp found media listed)
  | some media =>
      have fits := List.find?_some found
      exact .inl ⟨media, List.mem_of_find?_eq_some found, fits, rfl⟩

theorem Sending.ordinalForChannel_eq (sending : negotiation.Sending) {rtp rtcp : UInt8}
    (owned : media ∈ negotiation.media.values) (route : media.route = .interleaved rtp rtcp)
    (half : Half) : negotiation.ordinalForChannel (half.pick (rtp, rtcp)) = media.ordinal := by
  have uses : media.usesChannel (half.pick (rtp, rtcp)) = true :=
    Media.usesChannel_iff.mpr ⟨half, Route.number?_eq_some_iff.mpr ⟨rtp, rtcp, route, rfl⟩⟩
  rcases negotiation.ordinalForChannel_cases (half.pick (rtp, rtcp)) with
    ⟨other, listed, fits, known⟩ | ⟨free, _⟩
  · obtain ⟨half', numbered⟩ := Media.usesChannel_iff.mp fits
    obtain ⟨rtp', rtcp', route', same⟩ := Route.number?_eq_some_iff.mp numbered
    by_cases own : media = other
    · rw [known, own]
    · have disjoint := sending.disjoint_of_ne owned listed own
      rw [route, route'] at disjoint
      exact (disjoint half half' same.symm).elim
  · exact nomatch uses.symm.trans (free media owned)

theorem Sending.ordinalForPort?_eq (sending : negotiation.Sending) {rtp rtcp : UInt16}
    (owned : media ∈ negotiation.media.values) (route : media.route = .udp rtp rtcp)
    (half : Half) :
    negotiation.ordinalForPort? (half.pick (rtp, rtcp)) = some media.ordinal := by
  have port {rtp rtcp port : UInt16} (sent : port = rtp ∨ port = rtcp) :
      ∃ half : Half, half.pick (rtp, rtcp) = port := by
    rcases sent with rfl | rfl
    · exact ⟨.rtp, rfl⟩
    · exact ⟨.rtcp, rfl⟩
  have sends : media.recordsFrom (half.pick (rtp, rtcp)) = true := by
    refine Media.recordsFrom_iff.mpr ⟨sending.records media owned, rtp, rtcp, route, ?_⟩
    cases half with
    | rtp => exact .inl rfl
    | rtcp => exact .inr rfl
  obtain ⟨ordinal, found⟩ := Option.isSome_iff_exists.mp
    (Media.isSome_ordinalForPort?_iff.mpr ⟨media, owned, sends⟩)
  obtain ⟨other, listed, _, rfl, rtp', rtcp', route', sent⟩ :=
    Media.exists_of_ordinalForPort? found
  obtain ⟨half', same⟩ := port sent
  by_cases own : media = other
  · rw [own, ordinalForPort?, found]
  · have disjoint := sending.disjoint_of_ne owned listed own
    rw [route, route'] at disjoint
    exact (disjoint half half' same.symm).elim

end Negotiation

/-- A package carries a payload of a half of a medium. -/
structure Package.Carries (package : Package) (media : Media) (half : Half) (payload : Bytes) :
    Prop where
  whole : package.payload = payload
  ordered : package.order = media.ordinal
  parity : Half.ofParity package.channel = half
  framed : package.interleaved = media.isInterleaved
  number : ∀ rtp rtcp, media.route = .interleaved rtp rtcp →
    package.channel = half.pick (rtp, rtcp)

namespace Negotiation

variable {negotiation : Negotiation} {media : Media} {half : Half} {payload : Bytes}

/-- **What is sent on a half of a medium is taken in as that.** -/
theorem Sending.carries (sending : negotiation.Sending)
    (owned : media ∈ negotiation.media.values) (half : Half) (payload : Bytes) :
    ∃ sent, negotiation.taken? media half payload = some sent ∧
      sent.Carries media half payload := by
  unfold taken?
  cases route : media.route with
  | interleaved rtp rtcp =>
      obtain ⟨even, odd⟩ := sending.even media owned rtp rtcp route
      refine ⟨_, rfl, List.take_length, sending.ordinalForChannel_eq owned route half,
        Half.ofParity_pick even odd half, ?_, ?_⟩
      · rw [Media.isInterleaved, route]
      · intro rtp' rtcp' same
        obtain ⟨rfl, rfl⟩ := Route.interleaved.inj (route.symm.trans same)
        rfl
  | udp rtp rtcp =>
      simp only [sending.ordinalForPort?_eq owned route half, Option.map_some]
      refine ⟨_, rfl, List.take_length, rfl, Half.ofParity_index half, ?_, ?_⟩
      · rw [Media.isInterleaved, route]
      · intro rtp' rtcp' same
        exact nomatch route.symm.trans same

end Negotiation

theorem Package.Carries.of_trimmed {package : Package} {media : Media} {half : Half}
    {payload : Bytes} (carries : package.trimmed.Carries media half payload) :
    package.Carries media half payload where
  whole := (payload_trimmed package).symm.trans carries.whole
  ordered := carries.ordered
  parity := carries.parity
  framed := carries.framed
  number := carries.number

namespace Session

/-- Sends a payload in a frame. -/
def sendFrame (session : Session) (channel : UInt8) (payload : Bytes) :
    Except SendError (Option Parcel) :=
  (session.send ((Frame.mk channel payload).head ++ payload)).map some

/-- What a viewer is to be sent of a payload that comes on a half of a producer's medium. -/
structure Receives (viewer : Session) (media : Media) (half : Half) (payload : Bytes)
    (result : Except SendError (Option Parcel)) : Prop where
  /-- A frame with the channel number of the half of its own medium. -/
  frame : ∀ own ∈ viewer.negotiation.media.values, own.ordinal = media.ordinal →
    ∀ rtp rtcp, own.route = .interleaved rtp rtcp →
      result = viewer.sendFrame (half.pick (rtp, rtcp)) payload
  /-- A datagram to the port of the half of its own medium. -/
  datagram : ∀ own ∈ viewer.negotiation.media.values, own.ordinal = media.ordinal →
    ∀ rtp rtcp, own.route = .udp rtp rtcp →
      result = .ok (some (.datagram half ⟨viewer.peer.host, half.pick (rtp, rtcp)⟩ payload))
  /-- Nothing without such a medium, if its media travel in datagrams. -/
  nothing : viewer.negotiation.interleaved = false →
    (∀ own ∈ viewer.negotiation.media.values, own.ordinal ≠ media.ordinal) → result = .ok none
  /-- Without such a medium a frame keeps its channel number. -/
  raw : viewer.negotiation.interleaved = true →
    (∀ own ∈ viewer.negotiation.media.values, own.ordinal ≠ media.ordinal) →
      ∀ rtp rtcp, media.route = .interleaved rtp rtcp →
        result = viewer.sendFrame (half.pick (rtp, rtcp)) payload
  /-- Without such a medium a datagram gets the channel number of its ordinal. -/
  numbered : viewer.negotiation.interleaved = true →
    (∀ own ∈ viewer.negotiation.media.values, own.ordinal ≠ media.ordinal) →
      media.isInterleaved = false →
        2 * media.ordinal.toNat + half.index.toNat ≤ 255 →
          result =
            viewer.sendFrame (.ofNat (2 * media.ordinal.toNat + half.index.toNat)) payload
  /-- There is no such channel number. -/
  unnumbered : viewer.negotiation.interleaved = true →
    (∀ own ∈ viewer.negotiation.media.values, own.ordinal ≠ media.ordinal) →
      media.isInterleaved = false →
        255 < 2 * media.ordinal.toNat + half.index.toNat → result = .ok none

variable {session viewer : Session} {package : Package}

theorem forward_of_frame {channel : UInt8} (short : package.payload.length ≤ maxPayload)
    (outlet : session.negotiation.outlet? package = some (.frame channel)) :
    session.forward package = session.sendFrame channel package.payload := by
  have whole := @Frame.encode_of_short ⟨channel, package.payload⟩ short
  simp only [forward, outlet, whole, sendFrame]
  cases session.send ((Frame.mk channel package.payload).head ++ package.payload) <;> rfl

theorem forward_of_datagram {half : Half} {port : UInt16}
    (relayed : session.relayPorts.isSome = true)
    (outlet : session.negotiation.outlet? package = some (.datagram half port)) :
    session.forward package =
      .ok (some (.datagram half ⟨session.peer.host, port⟩ package.payload)) := by
  obtain ⟨ports, given⟩ := Option.isSome_iff_exists.mp relayed
  simp only [forward, outlet, given]

theorem forward_of_none (outlet : session.negotiation.outlet? package = none) :
    session.forward package = .ok none := by
  simp only [forward, outlet]

end Session

namespace Negotiation

variable {negotiation : Negotiation} {media own : Media} {half : Half} {payload : Bytes}
  {package : Package}

/-! ## What goes out -/

theorem Receiving.withOrdinal?_eq (receiving : negotiation.Receiving)
    (owned : own ∈ negotiation.media.values) :
    Media.withOrdinal? negotiation.media.values own.ordinal = some own := by
  cases found : Media.withOrdinal? negotiation.media.values own.ordinal with
  | none => exact absurd (decide_eq_true rfl) (List.find?_eq_none.mp found own owned)
  | some other =>
      have same : other.ordinal = own.ordinal := by simpa using List.find?_some found
      rw [List.inj_on_of_nodup_map receiving.ordinals (List.mem_of_find?_eq_some found) owned same]

theorem withOrdinal?_eq_none {ordinal : Ordinal}
    (missing : ∀ own ∈ negotiation.media.values, own.ordinal ≠ ordinal) :
    Media.withOrdinal? negotiation.media.values ordinal = none := by
  apply List.find?_eq_none.mpr
  intro own owned same
  exact missing own owned (of_decide_eq_true same)

/-- A package leaves on the half of the session's own medium. -/
theorem Receiving.outlet?_own (receiving : negotiation.Receiving)
    (carries : package.Carries media half payload) (owned : own ∈ negotiation.media.values)
    (same : own.ordinal = media.ordinal) :
    negotiation.outlet? package = some (match own.route with
      | .interleaved rtp rtcp => .frame (half.pick (rtp, rtcp))
      | .udp rtp rtcp => .datagram half (half.pick (rtp, rtcp))) := by
  have found := receiving.withOrdinal?_eq owned
  have framed := receiving.framed own owned
  rw [outlet?, Outlet.of?, carries.ordered, ← same, found, carries.parity, ← framed,
    Option.map_some, Media.isInterleaved]
  cases own.route <;> rfl

/-- Without a medium of the session's own, frames keep their number and datagrams get one. -/
theorem outlet?_missing (carries : package.Carries media half payload)
    (missing : ∀ own ∈ negotiation.media.values, own.ordinal ≠ media.ordinal) :
    negotiation.outlet? package =
      if negotiation.interleaved then
        if media.isInterleaved then some (.frame package.channel)
        else (Ordinal.join? media.ordinal half).map .frame
      else
        none := by
  have found := withOrdinal?_eq_none missing
  rw [outlet?, Outlet.of?, carries.ordered, found, carries.parity, carries.framed]
  rfl

end Negotiation

namespace Session

variable {recorder viewer : Session} {media : Media} {half : Half} {payload : Bytes}
  {package : Package}

theorem receives_of_carries (receiving : viewer.negotiation.Receiving)
    (relayed : viewer.relayPorts.isSome = true) (carries : package.Carries media half payload)
    (short : payload.length ≤ maxPayload) :
    viewer.Receives media half payload (viewer.forward package) := by
  have whole := carries.whole
  have fits : package.payload.length ≤ maxPayload := by rwa [whole]
  have missing (lacks : ∀ own ∈ viewer.negotiation.media.values, own.ordinal ≠ media.ordinal) :=
    Negotiation.outlet?_missing carries lacks
  refine ⟨?_, ?_, ?_, ?_, ?_, ?_⟩
  · intro own owned same rtp rtcp route
    have outlet := receiving.outlet?_own carries owned same
    rw [route] at outlet
    rw [forward_of_frame fits outlet, whole]
  · intro own owned same rtp rtcp route
    have outlet := receiving.outlet?_own carries owned same
    rw [route] at outlet
    rw [forward_of_datagram relayed outlet, whole]
  · intro elsewhere lacks
    apply forward_of_none
    rw [missing lacks, elsewhere]
    rfl
  · intro framed lacks rtp rtcp route
    have outlet := missing lacks
    have sent : media.isInterleaved = true := by rw [Media.isInterleaved, route]
    rw [framed, sent, carries.number rtp rtcp route] at outlet
    rw [forward_of_frame fits outlet, whole]
  · intro framed lacks sent small
    have outlet := missing lacks
    rw [framed, sent, Ordinal.join?_eq, if_pos small] at outlet
    rw [forward_of_frame fits outlet, whole]
  · intro framed lacks sent large
    apply forward_of_none
    rw [missing lacks, framed, sent, Ordinal.join?_eq, if_neg (Nat.not_le.mpr large)]
    rfl

/-- **Framings are converted end to end.** What a producer sends on a half of a medium, in a frame or
in a datagram, is forwarded to a viewer on the same half of the viewer's own medium, in the way in
which the viewer's media travel. -/
theorem forward_converts (sending : recorder.negotiation.Sending)
    (receiving : viewer.negotiation.Receiving) (relayed : viewer.relayPorts.isSome = true)
    (owned : media ∈ recorder.negotiation.media.values) (short : payload.length ≤ maxPayload)
    (half : Half) :
    ∃ sent, recorder.negotiation.taken? media half payload = some sent ∧
      ∀ package, package.trimmed = sent →
        viewer.Receives media half payload (viewer.forward package) := by
  obtain ⟨sent, taken, carries⟩ := sending.carries owned half payload
  refine ⟨sent, taken, ?_⟩
  rintro package rfl
  exact receives_of_carries receiving relayed carries.of_trimmed short

end Session

namespace Sample

/-- A recorder sends two media in frames, the second on the smaller pair, and a viewer receives them
in datagrams. -/
def converting : List Event :=
  [.opened recorder address, .requested recorder announce,
    .requested recorder
      (setUp "/cam/t1".toList "RTP/AVP/TCP;unicast;interleaved=4-5;mode=record".toList),
    .requested recorder
      (setUp "/cam/t2".toList "RTP/AVP/TCP;unicast;interleaved=0-1;mode=record".toList),
    .requested recorder (plain .record), .opened viewer distant,
    .requested viewer (setUp "/cam/t1".toList "RTP/AVP;unicast;client_port=7000-7001".toList),
    .requested viewer (setUp "/cam/t2".toList "RTP/AVP;unicast;client_port=7002-7003".toList),
    .requested viewer (plain .play)]

/-- The second medium of the recorder. -/
def second : Media := ⟨true, 1, .interleaved 0 1⟩

end Sample

namespace Session

set_option maxRecDepth 100000 in
theorem forward_converts_datagrams : ∃ recorder viewer : Session,
    (Relay.reached Sample.config Sample.converting).session? Sample.recorder = some recorder ∧
    (Relay.reached Sample.config Sample.converting).session? Sample.viewer = some viewer ∧
    recorder.negotiation.isRecording = true ∧ viewer.negotiation.isPlaying = true ∧
    recorder.negotiation.Sending ∧ viewer.negotiation.Receiving ∧
    ∃ sent, recorder.negotiation.taken? Sample.second .rtcp [7] = some sent ∧
      viewer.forward sent = .ok (some (.datagram .rtcp ⟨2, 7003⟩ [7])) := by
  have sends : ((Relay.reached Sample.config Sample.converting).session? Sample.recorder).map
      (fun session => (session.negotiation.state, session.negotiation.media.values)) =
        some (.recording, [⟨true, 0, .interleaved 4 5⟩, Sample.second]) := by decide +kernel
  have receives : ((Relay.reached Sample.config Sample.converting).session? Sample.viewer).map
      (fun session => (session.relayPorts, session.peer.host, session.negotiation.state,
        session.negotiation.interleaved, session.negotiation.media.values)) =
        some (some (6000, 6001), 2, .playing, false,
          [⟨false, 0, .udp 7000 7001⟩, ⟨false, 1, .udp 7002 7003⟩]) := by decide +kernel
  obtain ⟨recorder, found, shown⟩ := Option.map_eq_some_iff.mp sends
  obtain ⟨viewer, found', shown'⟩ := Option.map_eq_some_iff.mp receives
  simp only [Prod.mk.injEq] at shown shown'
  obtain ⟨recording, media⟩ := shown
  obtain ⟨ports, host, playing, framing, media'⟩ := shown'
  have sending : recorder.negotiation.Sending := by
    refine ⟨?_, ?_, ?_⟩ <;> rw [media]
    · decide
    · refine List.pairwise_pair.mpr fun half half' => ?_
      cases half <;> cases half' <;> decide
    · simp [Sample.second]
  have receiving : viewer.negotiation.Receiving := by
    refine ⟨?_, ?_⟩ <;> rw [media']
    · decide
    · rw [framing]
      decide
  refine ⟨recorder, viewer, found, found', decide_eq_true recording, decide_eq_true playing, sending,
    receiving, ?_⟩
  have owned : Sample.second ∈ recorder.negotiation.media.values := by
    rw [media]
    exact List.mem_cons_of_mem _ List.mem_cons_self
  have short : ([7] : Bytes).length ≤ maxPayload := by decide
  obtain ⟨sent, taken, received⟩ :=
    forward_converts sending receiving (by rw [ports]; rfl) owned short .rtcp
  refine ⟨sent, taken, ?_⟩
  have whole : sent.trimmed = sent := by
    obtain rfl := Option.some.inj taken
    rfl
  have forwarded := (received sent whole).datagram ⟨false, 1, .udp 7002 7003⟩
    (by rw [media']; exact List.mem_cons_of_mem _ List.mem_cons_self) rfl 7002 7003 rfl
  rwa [host] at forwarded

end Session

end MediaRelay
