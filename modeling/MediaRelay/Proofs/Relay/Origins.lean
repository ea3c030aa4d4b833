import MediaRelay.Proofs.Relay.Runs

/-! # Origins of datagrams

A datagram is pushed only where it may come from: its channel is registered, the channel's producer
is on its host and sends a medium from its port (`Origin.Fits`), whether the channel was remembered
or looked for (`resolve?_fits`). Channels have identities of their own in all that is reached
(`Change.distinct`), so what is known of a channel by its identity is known by its name.
-/

namespace MediaRelay

namespace Media

variable {media : Media} {port : UInt16}

/-- A medium is sent from the ports that its peer is to send it from. -/
theorem recordsFrom_iff :
    media.recordsFrom port = true ↔
      media.record = true ∧ ∃ rtp rtcp, media.route = .udp rtp rtcp ∧ (port = rtp ∨ port = rtcp) := by
  unfold recordsFrom
  cases media.route with
  | interleaved rtp rtcp => simp
  | udp first second =>
      simp only [Bool.and_eq_true, Bool.or_eq_true, decide_eq_true_eq, Route.udp.injEq]
      constructor
      · rintro ⟨recorded, sent⟩
        exact ⟨recorded, first, second, ⟨rfl, rfl⟩, sent⟩
      · rintro ⟨recorded, _, _, ⟨rfl, rfl⟩, sent⟩
        exact ⟨recorded, sent⟩

theorem isSome_ordinalForPort?_iff {listed : List Media} :
    (ordinalForPort? listed port).isSome = true ↔
      ∃ media ∈ listed, media.recordsFrom port = true := by
  rw [ordinalForPort?, Option.isSome_map, List.find?_isSome]

/-- The ordinal for a port is that of a medium that is sent from the port. -/
theorem exists_of_ordinalForPort? {listed : List Media} {ordinal : Ordinal}
    (found : ordinalForPort? listed port = some ordinal) :
    ∃ media ∈ listed, media.record = true ∧ media.ordinal = ordinal ∧
      ∃ rtp rtcp, media.route = .udp rtp rtcp ∧ (port = rtp ∨ port = rtcp) := by
  obtain ⟨media, sends, rfl⟩ := Option.map_eq_some_iff.mp found
  have fits := List.find?_some sends
  obtain ⟨recorded, sent⟩ := recordsFrom_iff.mp fits
  exact ⟨media, List.mem_of_find?_eq_some sends, recorded, rfl, sent⟩

end Media

namespace Registry

/-- Every channel is registered under an identity of its own, and later ones get new identities. -/
structure Distinct (registry : Registry) : Prop where
  issued : ∀ name slot, registry.slots.get? name = some slot → slot.id < registry.nextId
  apart : ∀ name other slot same, registry.slots.get? name = some slot →
    registry.slots.get? other = some same → slot.id = same.id → name = other

variable {registry after : Registry} {name : Text} {slot : Slot}

/-- Channels may change and be retired; names keep their identities. -/
theorem Distinct.mono (distinct : registry.Distinct) (next : after.nextId = registry.nextId)
    (earlier : ∀ name slot, after.slots.get? name = some slot →
      ∃ before, registry.slots.get? name = some before ∧ before.id = slot.id) : after.Distinct where
  issued := by
    intro name slot found
    obtain ⟨before, held, same⟩ := earlier name slot found
    rw [next, ← same]
    exact distinct.issued name before held
  apart := by
    intro name other slot twin found listed equal
    obtain ⟨before, held, same⟩ := earlier name slot found
    obtain ⟨second, kept, alike⟩ := earlier other twin listed
    exact distinct.apart name other before second held kept (same.trans (equal.trans alike.symm))

theorem Distinct.modify (distinct : registry.Distinct) (name : Text) (change : Channel → Channel) :
    (registry.modify name change).Distinct := by
  refine distinct.mono rfl ?_
  intro key slot found
  rw [Registry.modify, Table.get?_modify] at found
  split at found
  · obtain ⟨before, held, rfl⟩ := Option.map_eq_some_iff.mp found
    exact ⟨before, held, rfl⟩
  · exact ⟨slot, found, rfl⟩

theorem Distinct.teardown (distinct : registry.Distinct) (held : List ChannelId) (id : SessionId) :
    (registry.teardown held id).Distinct := by
  refine distinct.mono rfl ?_
  intro key slot found
  obtain ⟨before, present, rfl, _⟩ := slots_teardown_eq_some_iff.mp found
  exact ⟨before, present, rfl⟩

theorem Distinct.ensure (distinct : registry.Distinct) (name : Text) :
    (registry.ensure name).Distinct := by
  unfold Registry.ensure
  split
  · exact distinct
  · constructor
    · intro key slot found
      rw [Table.get?_set] at found
      split at found
      · obtain rfl := Option.some.inj found
        exact Nat.lt_succ_self _
      · exact Nat.lt_succ_of_lt (distinct.issued key slot found)
    · intro key other slot twin found listed equal
      rw [Table.get?_set] at found listed
      split at found <;> split at listed
      · rename_i first second
        rw [first, second]
      · obtain rfl := Option.some.inj found
        exact absurd equal (Nat.ne_of_gt (distinct.issued other twin listed))
      · obtain rfl := Option.some.inj listed
        exact absurd equal (Nat.ne_of_lt (distinct.issued key slot found))
      · exact distinct.apart key other slot twin found listed equal

theorem distinct_new (standing : Option Text) : (Registry.new standing).Distinct := by
  have empty (standing : Option Text) : Distinct { defaultChannel := standing } :=
    ⟨fun _ _ found => (nomatch found), fun _ _ _ _ found => (nomatch found)⟩
  cases standing with
  | none => exact empty none
  | some name => exact (empty (some name)).ensure name

/-- The name of an identity is one that a channel with the identity is registered under. -/
theorem get?_of_nameOf? {id : ChannelId} (named : registry.nameOf? id = some name) :
    ∃ slot, registry.slots.get? name = some slot ∧ slot.id = id := by
  obtain ⟨entry, found, rfl⟩ := Option.map_eq_some_iff.mp named
  have listed := (Table.mem_entries_iff _ entry.1 entry.2).mp (List.mem_of_find?_eq_some found)
  exact ⟨entry.2, listed, by simpa using List.find?_some found⟩

theorem Distinct.nameOf?_eq (distinct : registry.Distinct)
    (found : registry.slots.get? name = some slot) : registry.nameOf? slot.id = some name := by
  have listed := (Table.mem_entries_iff registry.slots name slot).mpr found
  cases named : registry.nameOf? slot.id with
  | some other =>
      obtain ⟨twin, held, same⟩ := get?_of_nameOf? named
      rw [distinct.apart other name twin slot held found same]
  | none =>
      have missing := List.find?_eq_none.mp (Option.map_eq_none_iff.mp named) _ listed
      simp at missing

end Registry

/-- A datagram of a source fits: its channel is registered, and the channel's producer is a session
on the source's host that sends a medium from the source's port. -/
structure Origin.Fits (origin : Origin) (relay : Relay) (source : Address) : Prop where
  registered : ∃ name, relay.registry.slots.get? name = some ⟨origin.channelId, origin.channel⟩
  holds : ∃ id, origin.channel.producer = some id ∧ relay.session? id = some origin.producer
  near : origin.producer.peer.host = source.host
  sends : origin.producer.negotiation.ordinalForPort? source.port = some origin.ordinal

namespace Relay

variable {relay after : Relay} {event : Event} {session : Session} {request : Request}

/-! ## Identities -/

theorem Outcome.distinct {result : Except Refusal Reply}
    (outcome : relay.Outcome session request after result)
    (distinct : relay.registry.Distinct) : after.registry.Distinct := by
  cases outcome with
  | refused _ => exact distinct
  | informed _ _ _ _ => exact distinct
  | announced _ _ _ =>
      simp only [negotiate, modifyChannel, ensureChannel]
      exact (distinct.ensure _).modify _ _
  | boundOnly _ _ _ _ => exact distinct
  | ungranted _ _ _ _ _ => exact distinct
  | setUp _ _ _ _ _ => exact distinct
  | recorded _ _ _ =>
      simp only [negotiate, modifyChannel]
      exact distinct.modify _ _
  | played _ _ =>
      simp only [negotiate, modifyChannel]
      exact distinct.modify _ _
  | paused _ => exact distinct
  | tornDown _ => exact distinct.teardown _ _

/-- Every event keeps the identities of channels apart. -/
theorem Change.distinct (change : relay.Change event after) (distinct : relay.registry.Distinct) :
    after.registry.Distinct := by
  cases change with
  | idle same => rwa [same.registry]
  | ensured same =>
      rw [same.registry]
      exact distinct.ensure _
  | opened _ => exact distinct
  | @requested _ session request _ =>
      rw [route_eq]
      exact (outcome_dispatch relay session request).distinct distinct
  | @closed id session found =>
      simp only [closeSession, found]
      exact distinct.teardown _ _
  | linkFailed => exact distinct

/-! ## Datagrams -/

variable {source : Address} {origin : Origin}

theorem producerOn?_eq_some_iff {channel : Channel} {host : Nat} {producer : Session} :
    relay.producerOn? channel host = some producer ↔
      (∃ id, channel.producer = some id ∧ relay.session? id = some producer) ∧
        producer.peer.host = host := by
  rw [producerOn?, Option.filter_eq_some_iff, Option.bind_eq_some_iff, decide_eq_true_iff]

theorem fits_of_originIn? {name : Text} {slot : Slot}
    (found : relay.registry.slots.get? name = some slot)
    (sent : relay.originIn? source slot = some origin) : origin.Fits relay source := by
  obtain ⟨producer, on, rest⟩ := Option.bind_eq_some_iff.mp sent
  obtain ⟨ordinal, sends, rfl⟩ := Option.map_eq_some_iff.mp rest
  obtain ⟨holds, near⟩ := producerOn?_eq_some_iff.mp on
  exact ⟨⟨name, found⟩, holds, near, sends⟩

/-- What a datagram belongs to fits it, also when the channel is remembered from before. -/
theorem resolve?_fits (resolved : relay.resolve? source = some origin) :
    origin.Fits relay source := by
  rcases Option.or_eq_some_iff.mp resolved with recalled | ⟨_, scanned⟩
  · obtain ⟨remembered, known, sent⟩ := Option.bind_eq_some_iff.mp recalled
    obtain ⟨id, _, recalled⟩ := Option.bind_eq_some_iff.mp known
    obtain ⟨channel, identified, rfl⟩ := Option.map_eq_some_iff.mp recalled
    obtain ⟨name, named, found⟩ := Option.bind_eq_some_iff.mp identified
    obtain ⟨slot, held, rfl⟩ := Registry.get?_of_nameOf? named
    obtain ⟨same, again, rfl⟩ := Option.map_eq_some_iff.mp found
    obtain rfl := Option.some.inj (held.symm.trans again)
    exact fits_of_originIn? held sent
  · obtain ⟨slot, listed, sent⟩ := List.exists_of_findSome?_eq_some scanned
    obtain ⟨entry, member, rfl⟩ := List.mem_map.mp listed
    exact fits_of_originIn? ((Table.mem_entries_iff _ entry.1 entry.2).mp member) sent

/-- The package that carries a datagram. -/
def datagramPackage (relay : Relay) (half : Half) (payload : Bytes) (ordinal : Ordinal) : Package :=
  { (relay.packed payload).1 with interleaved := false, channel := half.index, order := ordinal }

/-- A datagram leaves behind what is remembered of its source, and its package is idle again. -/
theorem takeDatagram_fst (relay : Relay) (source : Address) (half : Half) (payload : Bytes) :
    (relay.takeDatagram source half payload).1 =
      { relay with
        sources := relay.sources.set source ((relay.resolve? source).map Origin.channelId)
        packagePool :=
          relay.packagePool.acquire.2.release (relay.packagePool.acquire.1.fill payload) } := by
  unfold takeDatagram
  cases relay.resolve? source with
  | none => rfl
  | some origin =>
      by_cases recording : origin.producer.negotiation.isRecording = true
      · simp only [recording, ↓reduceIte]
        rfl
      · simp only [recording, Bool.false_eq_true, ↓reduceIte]
        rfl

/-- What becomes of a datagram: it is pushed if it belongs to a producer that is recording. -/
theorem takeDatagram_snd (relay : Relay) (source : Address) (half : Half) (payload : Bytes) :
    (relay.takeDatagram source half payload).2 =
      match (relay.resolve? source).filter fun origin =>
        origin.producer.negotiation.isRecording with
      | none => (.dropped, [])
      | some origin =>
        (.pushed origin.channelId (relay.datagramPackage half payload origin.ordinal),
          relay.deliveries origin.channel (relay.datagramPackage half payload origin.ordinal)) := by
  unfold takeDatagram
  cases relay.resolve? source with
  | none => rfl
  | some origin =>
      by_cases recording : origin.producer.negotiation.isRecording = true
      · simp only [recording, ↓reduceIte, Option.filter_some]
        rfl
      · simp only [recording, Bool.false_eq_true, ↓reduceIte, Option.filter_some]

/-- A datagram is pushed for a producer that it fits and that is recording. -/
theorem takeDatagram_pushed {half : Half} {payload : Bytes} {id : ChannelId} {package : Package}
    (pushed : (relay.takeDatagram source half payload).2.1 = .pushed id package) :
    ∃ origin : Origin, origin.Fits relay source ∧ origin.channelId = id ∧
      origin.producer.negotiation.isRecording = true ∧
      package = { (relay.packed payload).1 with
        interleaved := false, channel := half.index, order := origin.ordinal } := by
  rw [takeDatagram_snd] at pushed
  cases resolved : (relay.resolve? source).filter fun origin =>
      origin.producer.negotiation.isRecording with
  | none =>
      rw [resolved] at pushed
      exact nomatch pushed
  | some origin =>
      rw [resolved] at pushed
      obtain ⟨found, recording⟩ := Option.filter_eq_some_iff.mp resolved
      obtain ⟨same, carried⟩ := Routing.pushed.inj pushed
      exact ⟨origin, resolve?_fits found, same, recording, carried.symm⟩

end Relay

end MediaRelay
