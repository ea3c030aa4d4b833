import MediaRelay.Proofs.Connection.Station

/-! # What feeds channels

Packages come into channels on connections and in datagrams. Both ways look for the channel and the
session on their own, the one by a name and the other by an identity that may have been remembered,
and both end at the same place: a package is pushed for a session that produces the channel and is
recording when the package comes in (`pushed_for_recording_producer`).
-/

namespace MediaRelay

namespace Connection

variable {connection : Connection} {relay : Relay} {session : Session} {name : Text}
  {channel : Channel}

theorem session?_eq_some (own : connection.session? relay = some session) :
    relay.session? connection.id = some session := by
  unfold Connection.session? at own
  split at own
  · exact own
  · exact nomatch own

theorem feeding?_eq_some (feeding : connection.feeding? relay = some (session, name, channel)) :
    connection.session? relay = some session ∧ session.negotiation.state = .recording ∧
      session.negotiation.channel = some name ∧ relay.registry.get? name = some channel := by
  obtain ⟨speaker, records, rest⟩ := Option.bind_eq_some_iff.mp feeding
  obtain ⟨target, bound, rest⟩ := Option.bind_eq_some_iff.mp rest
  obtain ⟨held, registered, same⟩ := Option.map_eq_some_iff.mp rest
  obtain ⟨own, recording⟩ := Option.filter_eq_some_iff.mp records
  simp only [Prod.mk.injEq] at same
  obtain ⟨rfl, rfl, rfl⟩ := same
  exact ⟨own, of_decide_eq_true (Bool.and_eq_true_iff.mp recording).1, bound, registered⟩

end Connection

namespace Act

/-- The package that was pushed, with the name of the channel. -/
def fed? : Act → Option (Text × Package)
  | fed name package => some (name, package)
  | _ => none

end Act

/-- Whether a package is pushed by neither a connection nor a datagram. -/
def Occurrence.isPush : Occurrence → Bool
  | .direct (.pushed ..) => true
  | _ => false

namespace Station

/-- The packages that an occurrence pushes, each with the name its channel is registered under. -/
def pushes (station : Station) : Occurrence → List (Option Text × Package)
  | .direct (.pushed name payload interleaved channel order) =>
    if station.relay.registry.slots.contains name then
      [(some name, { (station.relay.packed payload).1 with interleaved, channel, order })]
    else
      []
  | .direct (.received source half payload) =>
    match (station.relay.takeDatagram source half payload).2.1 with
    | .pushed id package => [(station.relay.registry.nameOf? id, package)]
    | .dropped => []
  | .turned id running =>
    match station.turn? id running with
    | some done => (done.acts.filterMap Act.fed?).map fun fed => (some fed.1, fed.2)
    | none => []
  | _ => []

/-- How a package comes in for a session. -/
inductive Ingress (station : Station) (session : Session) (package : Package) : Occurrence → Prop where
  /-- In a frame that is next in the input of the session's connection. -/
  | frame {id : SessionId} {running : Bool} {connection : Connection} {frame : Frame} {rest : Bytes}
      (connected : station.connections.get? id = some connection)
      (own : connection.session? station.relay = some session)
      (next : connection.input = frame.head ++ frame.payload ++ rest)
      (carried : package.trimmed = ⟨frame.payload, frame.payload.length, true, frame.channel,
        session.negotiation.ordinalForChannel frame.channel⟩) :
      Ingress station session package (.turned id running)
  /-- In a datagram from the session's host and a port that the session sends a medium from. -/
  | datagram {source : Address} {half : Half} {payload : Bytes} {media : Media} {rtp rtcp : UInt16}
      (near : source.host = session.peer.host) (listed : media ∈ session.negotiation.media.values)
      (sends : media.record = true) (route : media.route = .udp rtp rtcp)
      (port : source.port = rtp ∨ source.port = rtcp)
      (carried : package.trimmed = ⟨payload.take maxPayload, (payload.take maxPayload).length,
        false, half.index, media.ordinal⟩) :
      Ingress station session package (.direct (.received source half payload))

/-- A package is pushed for a session that produces the channel and is recording. -/
structure Authorised (station : Station) (occurrence : Occurrence) (name : Text)
    (package : Package) (session : Session) : Prop where
  present : station.relay.session? session.id = some session
  recording : session.negotiation.state = .recording
  produces : ∃ channel, station.relay.registry.get? name = some channel ∧
    channel.producer = some session.id
  ingress : station.Ingress session package occurrence

variable {station : Station} {name : Text} {package : Package}

/-- A connection feeds a session that records, and that has the place of the channel's producer. -/
theorem Sound.authorised_fed (sound : station.Sound) {id : SessionId} {running : Bool}
    {done : Progress} (took : station.turn? id running = some done)
    (fed : .fed name package ∈ done.acts) :
    ∃ session, station.Authorised (.turned id running) name package session := by
  obtain ⟨connection, found, acted⟩ := Option.bind_eq_some_iff.mp took
  obtain ⟨rfl, known⟩ := sound.serves id connection found
  cases Connection.turn_cases sound.relay.full known acted with
  | still _ _ silent _ => exact absurd fed (silent name package)
  | answered _ _ silent _ => exact absurd fed (silent name package)
  | @fed session target channel pushed frame rest _ _ _ feeding read acts filled _ =>
      rw [acts, List.mem_singleton, Act.fed.injEq] at fed
      obtain ⟨rfl, rfl⟩ := fed
      obtain ⟨own, recording, bound, registered⟩ := Connection.feeding?_eq_some feeding
      have present := Connection.session?_eq_some own
      obtain ⟨current, named, produces⟩ :=
        (sound.relay.coherent.agrees _ session present).producing recording
      obtain rfl := Option.some.inj (bound.symm.trans named)
      rw [Relay.channelAt_of_found registered] at produces
      have identified := sound.relay.identified _ session present
      rw [← identified] at present produces
      exact ⟨session, present, recording, ⟨channel, registered, produces⟩,
        .frame found own (Frame.eq_append_of_read read).1 filled⟩

/-- A datagram is pushed for the session that it fits. -/
theorem Sound.authorised_datagram (sound : station.Sound) {source : Address} {half : Half}
    {payload : Bytes} {id : ChannelId}
    (pushed : (station.relay.takeDatagram source half payload).2.1 = .pushed id package) :
    ∃ name session, station.relay.registry.nameOf? id = some name ∧
      station.Authorised (.direct (.received source half payload)) name package session := by
  obtain ⟨origin, fits, rfl, recording, rfl⟩ := Relay.takeDatagram_pushed pushed
  obtain ⟨name, registered⟩ := fits.registered
  obtain ⟨holder, holds, present⟩ := fits.holds
  obtain rfl := sound.relay.identified holder origin.producer present
  obtain ⟨media, listed, sends, ordinal, rtp, rtcp, route, port⟩ :=
    Media.exists_of_ordinalForPort? fits.sends
  have whole := sound.relay.full.acquire.1
  refine ⟨name, origin.producer, sound.relay.distinct.nameOf?_eq registered, present,
    of_decide_eq_true recording, ⟨origin.channel, ?_, holds⟩,
    .datagram fits.near.symm listed sends route port ?_⟩
  · rw [Registry.get?, registered, Option.map_some]
  · rw [ordinal, ← whole]
    exact Package.trimmed_fill_take _ payload _ _ _

theorem Sound.authorised (sound : station.Sound) {occurrence : Occurrence} {target : Option Text}
    (natural : occurrence.isPush = false) (pushed : (target, package) ∈ station.pushes occurrence) :
    ∃ name session, target = some name ∧ station.Authorised occurrence name package session := by
  cases occurrence with
  | direct event =>
      cases event with
      | pushed _ _ _ _ _ => exact nomatch natural
      | received source half payload =>
          simp only [pushes] at pushed
          split at pushed
          · rename_i id sent taken
            rw [List.mem_singleton, Prod.mk.injEq] at pushed
            obtain ⟨rfl, rfl⟩ := pushed
            exact sound.authorised_datagram taken
          · exact nomatch pushed
      | _ => exact nomatch pushed
  | turned id running =>
      simp only [pushes] at pushed
      split at pushed
      · rename_i done took
        obtain ⟨⟨name, sent⟩, fed, same⟩ := List.mem_map.mp pushed
        obtain ⟨act, member, fed⟩ := List.mem_filterMap.mp fed
        cases act with
        | fed _ _ =>
            obtain ⟨rfl, rfl⟩ := Prod.mk.inj (Option.some.inj fed)
            obtain ⟨rfl, rfl⟩ := Prod.mk.inj same
            obtain ⟨session, authorised⟩ := sound.authorised_fed took member
            exact ⟨_, session, rfl, authorised⟩
        | _ => exact nomatch fed
      · exact nomatch pushed
  | _ => exact nomatch pushed

/-- What a connection pushes as it acts on all of its input is pushed in one of its turns. -/
theorem pushed_of_advanceBy {id : SessionId} {connection : Connection} {running : Bool}
    {turns : Nat} (found : station.connections.get? id = some connection)
    (fed : .fed name package ∈ (connection.advanceBy running turns station.relay).acts) :
    ∃ earlier < turns, (some name, package) ∈
      (station.afterAll (List.replicate earlier (.turned id running))).pushes
        (.turned id running) := by
  induction turns generalizing station connection with
  | zero => exact nomatch fed
  | succ turns ih =>
      have turned : station.turn? id running = connection.turn running station.relay := by
        rw [turn?, found, Option.bind_some]
      rw [Connection.advanceBy] at fed
      cases took : connection.turn running station.relay with
      | none => simp [took] at fed
      | some done =>
          have now (first : .fed name package ∈ done.acts) : ∃ earlier < turns + 1,
              (some name, package) ∈ (station.afterAll
                (List.replicate earlier (.turned id running))).pushes (.turned id running) := by
            refine ⟨0, Nat.succ_pos turns, ?_⟩
            change (some name, package) ∈ station.pushes (.turned id running)
            simp only [pushes, turned, took]
            exact List.mem_map.mpr ⟨(name, package), List.mem_filterMap.mpr ⟨_, first, rfl⟩, rfl⟩
          by_cases ended : done.ending.isSome = true
          · simp only [took, ended, ↓reduceIte] at fed
            exact now fed
          · simp only [took, ended, Bool.false_eq_true, ↓reduceIte, List.mem_append] at fed
            rcases fed with first | later
            · exact now first
            · have onwards : (station.settle id done).relay = done.relay := by
                rw [settle_of_not_ended ended]
              obtain ⟨earlier, less, pushed⟩ := ih (get?_settle ended) (onwards ▸ later)
              refine ⟨earlier + 1, Nat.succ_lt_succ less, ?_⟩
              rw [List.replicate_succ, afterAll, List.foldl_cons,
                after_turned_of_some (turned.trans took)]
              exact pushed

/-- However much a connection acts on at once, each package that it pushes is pushed for a session
that records and produces the channel at that moment. -/
theorem authorised_of_advanceBy {config : RelayConfig} {occurrences : List Occurrence}
    {id : SessionId} {connection : Connection} {running : Bool} {turns : Nat}
    (found : (reached config occurrences).connections.get? id = some connection)
    (fed : .fed name package ∈
      (connection.advanceBy running turns (reached config occurrences).relay).acts) :
    ∃ earlier < turns, ∃ session, ((reached config occurrences).afterAll
      (List.replicate earlier (.turned id running))).Authorised (.turned id running) name package
        session := by
  obtain ⟨earlier, less, pushed⟩ := pushed_of_advanceBy found fed
  refine ⟨earlier, less, ?_⟩
  rw [← reached_append] at pushed ⊢
  obtain ⟨_, session, named, authorised⟩ := (sound_reached config _).authorised rfl pushed
  obtain rfl := Option.some.inj named
  exact ⟨session, authorised⟩

/-- What comes in on a connection comes in for the session of the connection. -/
theorem Sound.id_of_turned (sound : station.Sound) {id : SessionId} {running : Bool}
    {session : Session} (authorised : station.Authorised (.turned id running) name package session) :
    session.id = id := by
  cases authorised.ingress with
  | frame connected own _ _ =>
      have present := Connection.session?_eq_some own
      rw [(sound.serves id _ connected).named] at present
      exact sound.relay.identified id session present

/-- **Only the producer that records feeds a channel.** In every run, a package that comes in on a
connection or in a datagram is pushed into a registered channel, for a session that is open, records
and has the place of the channel's producer. It came in a frame on the connection of that session,
or in a datagram from its host and a port of a medium that it sends. Nothing that comes on the
connection of another session is pushed. -/
theorem pushed_for_recording_producer {config : RelayConfig} {occurrences : List Occurrence}
    {occurrence : Occurrence} (natural : occurrence.isPush = false) :
    (∀ target package, (target, package) ∈ (reached config occurrences).pushes occurrence →
      ∃ name session, target = some name ∧
        (reached config occurrences).Authorised occurrence name package session) ∧
    ∀ id running, occurrence = .turned id running →
      (∀ session, (reached config occurrences).relay.session? id = some session →
        session.negotiation.state ≠ .recording ∨
          ∀ name channel, (reached config occurrences).relay.registry.get? name = some channel →
            channel.producer ≠ some id) →
      (reached config occurrences).pushes occurrence = [] := by
  have sound := sound_reached config occurrences
  refine ⟨fun target package pushed => sound.authorised natural pushed, ?_⟩
  rintro id running rfl other
  rw [List.eq_nil_iff_forall_not_mem]
  rintro ⟨target, package⟩ pushed
  obtain ⟨name, session, rfl, authorised⟩ := sound.authorised natural pushed
  obtain rfl := sound.id_of_turned authorised
  obtain ⟨channel, registered, produces⟩ := authorised.produces
  rcases other session authorised.present with idle | without
  · exact idle authorised.recording
  · exact without name channel registered produces

end Station

namespace Sample

/-- A medium that is recorded in datagrams, for another channel. -/
def elsewhere : List Request :=
  [{ announceOne with uri := "/door".toList },
    setUp "/door/t1".toList "RTP/AVP;unicast;client_port=5000-5001;mode=record".toList,
    { plain .record with uri := "/door".toList }]

/-- One session records in frames on its connection, another one in datagrams. -/
def recorders : List Occurrence :=
  [.accepted recorder address,
    .arrived recorder (announceOne.encode ++ framed.encode ++ (plain .record).encode ++
      [Frame.marker, 0, 0, 1, 7]),
    .turned recorder true, .turned recorder true, .turned recorder true,
    .direct (.opened viewer distant)] ++
    elsewhere.map fun request => .direct (.requested viewer request)

end Sample

namespace Station

set_option maxRecDepth 100000 in
/-- The frame goes into the channel of the connection, the datagram into the other one. -/
theorem pushed_for_recording_producer_both :
    (∃ package session, package.trimmed = ⟨[7], 1, true, 0, 0⟩ ∧
      (reached Sample.config Sample.recorders).Authorised (.turned Sample.recorder true)
        "cam".toList package session) ∧
    ∃ package session, package.trimmed = ⟨[9], 1, false, 1, 0⟩ ∧
      (reached Sample.config Sample.recorders).Authorised
        (.direct (.received ⟨Sample.distant.host, 5001⟩ .rtcp [9])) "door".toList package
        session := by
  have shown {occurrence : Occurrence} {name : Text} {said : Package}
      (natural : occurrence.isPush = false)
      (pushes : ((reached Sample.config Sample.recorders).pushes occurrence).map
        (fun pushed => (pushed.1, pushed.2.trimmed)) = [(some name, said)]) :
      ∃ package session, package.trimmed = said ∧
        (reached Sample.config Sample.recorders).Authorised occurrence name package session := by
    obtain ⟨⟨target, package⟩, pushed, same⟩ :=
      List.mem_map.mp (pushes ▸ List.mem_singleton_self _)
    obtain ⟨rfl, rfl⟩ := Prod.mk.inj same
    obtain ⟨_, session, named, authorised⟩ :=
      (pushed_for_recording_producer natural).1 _ package pushed
    obtain rfl := Option.some.inj named
    exact ⟨package, session, rfl, authorised⟩
  exact ⟨shown rfl (by decide +kernel), shown rfl (by decide +kernel)⟩

end Station

end MediaRelay
