import MediaRelay.Proofs.Relay.FanOut
import MediaRelay.Proofs.Relay.Retention

/-! # What is remembered of sources

A source of datagrams may have a channel remembered from before, which the relay asks first. It makes
no difference as long as the source is that of one medium at most (`Relay.Feed`): the outcome is that
of looking at all registered channels. And what is remembered is never out of date as a channel: it
is registered, under the name that it has always had (`Relay.remembrance_reached`).
-/

namespace MediaRelay

namespace Relay

/-- A medium that datagrams of a source may belong to, with the producer that owns it and the channel
that the producer has. -/
structure Feed where
  name : Text
  slot : Slot
  producer : Session
  control : Text
  media : Media
  deriving DecidableEq

/-- A registered channel has a producer on the host of the source, and the producer sends the medium
in datagrams from the port of the source. -/
structure Feeds (relay : Relay) (source : Address) (feed : Feed) : Prop where
  registered : relay.registry.slots.get? feed.name = some feed.slot
  holds : ∃ id, feed.slot.channel.producer = some id ∧ relay.session? id = some feed.producer
  near : feed.producer.peer.host = source.host
  owns : feed.producer.negotiation.media.get? feed.control = some feed.media
  recorded : feed.media.record = true
  sends : ∃ rtp rtcp, feed.media.route = .udp rtp rtcp ∧ (source.port = rtp ∨ source.port = rtcp)

/-- What a datagram of a feed belongs to. -/
def Feed.origin (feed : Feed) : Origin :=
  ⟨feed.slot.id, feed.slot.channel, feed.producer, feed.media.ordinal⟩

/-- Datagrams of a source belong to one medium of one channel at most. -/
def OneFeed (relay : Relay) (source : Address) : Prop :=
  ∀ feed other, relay.Feeds source feed → relay.Feeds source other → feed = other

/-- The media that datagrams of a source may belong to. -/
def feedsOf (relay : Relay) (source : Address) : List Feed :=
  relay.registry.slots.entries.flatMap fun entry =>
    (relay.producerOn? entry.2.channel source.host).toList.flatMap fun producer =>
      (producer.negotiation.media.entries.filter fun held => held.2.recordsFrom source.port).map
        fun held => ⟨entry.1, entry.2, producer, held.1, held.2⟩

variable {relay : Relay} {source : Address} {feed : Feed} {origin : Origin} {event : Event}

theorem mem_feedsOf_iff : feed ∈ relay.feedsOf source ↔ relay.Feeds source feed := by
  simp only [feedsOf, List.mem_flatMap, List.mem_map, List.mem_filter, Option.mem_toList]
  constructor
  · rintro ⟨⟨name, slot⟩, registered, producer, found, ⟨control, media⟩, ⟨owns, fits⟩, rfl⟩
    obtain ⟨holds, near⟩ := producerOn?_eq_some_iff.mp found
    obtain ⟨recorded, sends⟩ := Media.recordsFrom_iff.mp fits
    exact ⟨(Table.mem_entries_iff _ _ _).mp registered, holds, near,
      (Table.mem_entries_iff _ _ _).mp owns, recorded, sends⟩
  · rintro ⟨registered, holds, near, owns, recorded, sends⟩
    exact ⟨(feed.name, feed.slot), (Table.mem_entries_iff _ _ _).mpr registered, feed.producer,
      producerOn?_eq_some_iff.mpr ⟨holds, near⟩, (feed.control, feed.media),
      ⟨(Table.mem_entries_iff _ _ _).mpr owns, Media.recordsFrom_iff.mpr ⟨recorded, sends⟩⟩, rfl⟩

instance (relay : Relay) (source : Address) : Decidable (relay.OneFeed source) :=
  decidable_of_iff
    (∀ feed ∈ relay.feedsOf source, ∀ other ∈ relay.feedsOf source, feed = other) <| by
      simp only [mem_feedsOf_iff]
      exact ⟨fun only feed other feeds same => only feed feeds other same,
        fun only feed feeds other same => only feed other feeds same⟩

/-! ## Looking for a source -/

theorem exists_feeds (fits : origin.Fits relay source) :
    ∃ feed, relay.Feeds source feed ∧ feed.origin = origin := by
  obtain ⟨name, registered⟩ := fits.registered
  obtain ⟨media, listed, recorded, ordered, sent⟩ := Media.exists_of_ordinalForPort? fits.sends
  obtain ⟨control, owns⟩ := (Table.mem_values_iff _ media).mp listed
  refine ⟨⟨name, ⟨origin.channelId, origin.channel⟩, origin.producer, control, media⟩,
    ⟨registered, fits.holds, fits.near, owns, recorded, sent⟩, ?_⟩
  rw [Feed.origin, ordered]

theorem Feeds.isSome_originIn? (feeds : relay.Feeds source feed) :
    (relay.originIn? source feed.slot).isSome = true := by
  have near : relay.producerOn? feed.slot.channel source.host = some feed.producer :=
    producerOn?_eq_some_iff.mpr ⟨feeds.holds, feeds.near⟩
  have sends : (feed.producer.negotiation.ordinalForPort? source.port).isSome = true :=
    Media.isSome_ordinalForPort?_iff.mpr
      ⟨feed.media, (Table.mem_values_iff _ _).mpr ⟨feed.control, feeds.owns⟩,
        Media.recordsFrom_iff.mpr ⟨feeds.recorded, feeds.sends⟩⟩
  rw [originIn?, near, Option.bind_some, Option.isSome_map]
  exact sends

theorem Feeds.isSome_scan? (feeds : relay.Feeds source feed) :
    (relay.scan? source).isSome = true := by
  rw [scan?, List.findSome?_isSome_iff]
  exact ⟨feed.slot, (Table.mem_values_iff _ _).mpr ⟨feed.name, feeds.registered⟩,
    feeds.isSome_originIn?⟩

theorem Feeds.isSome_resolve? (feeds : relay.Feeds source feed) :
    (relay.resolve? source).isSome = true := by
  rw [resolve?, Option.isSome_or, feeds.isSome_scan?, Bool.or_true]

/-- Without what is remembered, all registered channels are looked at. -/
theorem resolve?_forgetSource (relay : Relay) (source : Address) :
    (relay.forgetSource source).resolve? source = relay.scan? source := by
  have forgotten : (relay.forgetSource source).sources.get? source = none := by
    rw [forgetSource, Table.get?_erase, if_pos rfl]
  rw [resolve?, remembered?, forgotten]
  rfl

/-- One feed at most, whether or not a channel is remembered. -/
theorem OneFeed.resolve?_eq (only : relay.OneFeed source) (feeds : relay.Feeds source feed) :
    relay.resolve? source = some feed.origin := by
  obtain ⟨origin, resolved⟩ := Option.isSome_iff_exists.mp feeds.isSome_resolve?
  obtain ⟨found, same, rfl⟩ := exists_feeds (resolve?_fits resolved)
  rw [resolved, only found feed same feeds]

theorem Feeds.forgetSource_iff {forgotten : Address} :
    (relay.forgetSource forgotten).Feeds source feed ↔ relay.Feeds source feed :=
  ⟨fun ⟨registered, holds, near, owns, recorded, sends⟩ =>
    ⟨registered, holds, near, owns, recorded, sends⟩,
   fun ⟨registered, holds, near, owns, recorded, sends⟩ =>
    ⟨registered, holds, near, owns, recorded, sends⟩⟩

theorem resolve?_eq_none (unfed : ∀ feed, ¬ relay.Feeds source feed) :
    relay.resolve? source = none := by
  cases resolved : relay.resolve? source with
  | none => rfl
  | some origin =>
      obtain ⟨feed, feeds, _⟩ := exists_feeds (resolve?_fits resolved)
      exact (unfed feed feeds).elim

/-- **What is remembered makes no difference** to what a datagram of one feed belongs to. -/
theorem OneFeed.resolve?_eq_scan? (only : relay.OneFeed source) :
    relay.resolve? source = relay.scan? source := by
  rw [← resolve?_forgetSource]
  by_cases fed : ∃ feed, relay.Feeds source feed
  · obtain ⟨feed, feeds⟩ := fed
    have still : (relay.forgetSource source).OneFeed source := fun first second one two =>
      only first second (Feeds.forgetSource_iff.mp one) (Feeds.forgetSource_iff.mp two)
    rw [only.resolve?_eq feeds, still.resolve?_eq (Feeds.forgetSource_iff.mpr feeds)]
  · have unfed (feed : Feed) : ¬ relay.Feeds source feed := fun feeds => fed ⟨feed, feeds⟩
    rw [resolve?_eq_none unfed,
      resolve?_eq_none fun feed feeds => unfed feed (Feeds.forgetSource_iff.mp feeds)]

/-! ## What becomes of a datagram -/

/-- What is promised about a datagram from a source that datagrams of one medium at most come from. -/
structure Forwards (relay : Relay) (source : Address) (half : Half) (payload : Bytes) : Prop where
  /-- The channel that is remembered makes no difference. -/
  resolved : relay.resolve? source = relay.scan? source
  same : (relay.takeDatagram source half payload).2 =
    ((relay.forgetSource source).takeDatagram source half payload).2
  unfed : (∀ feed, ¬ relay.Feeds source feed) →
    (relay.takeDatagram source half payload).2 = (.dropped, [])
  silent : ∀ feed, relay.Feeds source feed → feed.producer.negotiation.isRecording = false →
    (relay.takeDatagram source half payload).2 = (.dropped, [])
  /-- It is pushed once, into the channel of its producer. -/
  pushed : ∀ feed, relay.Feeds source feed → feed.producer.negotiation.isRecording = true →
    ∃ package, (relay.takeDatagram source half payload).2 =
        (.pushed feed.slot.id package, relay.deliveries feed.slot.channel package) ∧
      package.trimmed = ⟨payload.take maxPayload, (payload.take maxPayload).length, false,
        half.index, feed.media.ordinal⟩
  /-- The package that it came in is idle again. -/
  released : (relay.takeDatagram source half payload).1.packagePool =
    relay.packagePool.acquire.2.release (relay.packagePool.acquire.1.fill payload)

theorem OneFeed.forwards (only : relay.OneFeed source) (full : relay.packagePool.Full)
    (half : Half) (payload : Bytes) : relay.Forwards source half payload where
  resolved := only.resolve?_eq_scan?
  same := by
    rw [takeDatagram_snd, takeDatagram_snd, resolve?_forgetSource, only.resolve?_eq_scan?]
    rfl
  unfed := by
    intro unfed
    rw [takeDatagram_snd, resolve?_eq_none unfed]
    rfl
  silent := by
    intro feed feeds silent
    have skipped : (some feed.origin).filter (fun origin =>
        origin.producer.negotiation.isRecording) = none := by
      rw [Option.filter_some, Feed.origin, silent]
      rfl
    rw [takeDatagram_snd, only.resolve?_eq feeds, skipped]
  pushed := by
    intro feed feeds recording
    have taken : (some feed.origin).filter (fun origin =>
        origin.producer.negotiation.isRecording) = some feed.origin := by
      rw [Option.filter_some, Feed.origin, recording]
      rfl
    refine ⟨relay.datagramPackage half payload feed.media.ordinal, ?_,
      trimmed_datagramPackage full half payload feed.media.ordinal⟩
    rw [takeDatagram_snd, only.resolve?_eq feeds, taken]
    rfl
  released := by rw [takeDatagram_fst]

/-! ## What is kept in use is registered -/

variable {id : ChannelId}

theorem mem_held_iff :
    id ∈ relay.held ↔ id ∈ relay.handles ∨ ∃ source, relay.sources.get? source = some (some id) := by
  simp only [held, List.mem_append, List.mem_filterMap, Table.mem_values_iff, id_eq,
    exists_eq_right]

/-- A datagram adds the channel that it belongs to. -/
theorem mem_held_takeDatagram {half : Half} {payload : Bytes}
    (kept : id ∈ (relay.takeDatagram source half payload).1.held) :
    id ∈ relay.held ∨ ∃ name, relay.registry.idOf? name = some id := by
  simp only [takeDatagram_fst, mem_held_iff] at kept
  rcases kept with held | ⟨other, remembered⟩
  · exact .inl (mem_held_iff.mpr (.inl held))
  · rw [Table.get?_set] at remembered
    split at remembered
    · obtain ⟨origin, resolved, rfl⟩ := Option.map_eq_some_iff.mp (Option.some.inj remembered)
      obtain ⟨name, registered⟩ := (resolve?_fits resolved).registered
      exact .inr ⟨name, by rw [Registry.idOf?, registered, Option.map_some]⟩
    · exact .inl (mem_held_iff.mpr (.inr ⟨other, remembered⟩))

/-- What an event adds to the channels that are kept in use is registered. -/
theorem mem_held_after (event : Event) (kept : id ∈ (relay.after event).held) :
    id ∈ relay.held ∨ ∃ name, (relay.after event).registry.idOf? name = some id := by
  cases event with
  | opened opening peer =>
      rw [after_opened] at kept
      split at kept <;> exact .inl kept
  | requested asking request =>
      cases found : relay.session? asking with
      | none =>
          simp only [after, found] at kept
          exact .inl kept
      | some session =>
          rw [after_requested found, route_eq,
            (outcome_dispatch relay session request).held] at kept
          exact .inl kept
  | closed closing =>
      cases found : relay.session? closing with
      | none =>
          simp only [after, closeSession, found] at kept
          exact .inl kept
      | some session =>
          simp only [after, closeSession, found] at kept
          exact .inl kept
  | linkFailed failing => exact .inl kept
  | pushed name payload interleaved channel order =>
      simp only [after] at kept
      split at kept <;> exact .inl kept
  | received source half payload =>
      have same := (sameSessions_takeDatagram relay source half payload).registry
      simp only [after, same]
      exact mem_held_takeDatagram kept
  | held name =>
      rcases mem_held_iff.mp kept with held | remembered
      · rcases List.mem_append.mp held with added | earlier
        · exact .inr ⟨name, Option.mem_toList.mp added⟩
        · exact .inl (mem_held_iff.mpr (.inl earlier))
      · exact .inl (mem_held_iff.mpr (.inr remembered))
  | letGo released =>
      rcases mem_held_iff.mp kept with held | remembered
      · exact .inl (mem_held_iff.mpr (.inl (List.mem_of_mem_erase held)))
      · exact .inl (mem_held_iff.mpr (.inr remembered))
  | sourceForgotten source =>
      rcases mem_held_iff.mp kept with held | ⟨other, remembered⟩
      · exact .inl (mem_held_iff.mpr (.inl held))
      · change (relay.sources.erase source).get? other = some (some id) at remembered
        rw [Table.get?_erase] at remembered
        split at remembered
        · cases remembered
        · exact .inl (mem_held_iff.mpr (.inr ⟨other, remembered⟩))
  | sourcesForgotten =>
      rcases mem_held_iff.mp kept with held | ⟨other, remembered⟩
      · exact .inl (mem_held_iff.mpr (.inl held))
      · cases remembered

/-- **What is kept in use from outside is registered.** -/
theorem registered_of_mem_held {config : RelayConfig} {events : List Event}
    (kept : id ∈ (reached config events).held) :
    ∃ name, (reached config events).registry.idOf? name = some id := by
  induction events using List.reverseRecOn with
  | nil => exact nomatch kept
  | append_singleton events event ih =>
      rw [reached_concat] at kept ⊢
      rcases mem_held_after event kept with earlier | added
      · obtain ⟨name, means⟩ := ih earlier
        obtain ⟨slot, found, rfl⟩ := Option.map_eq_some_iff.mp means
        refine ⟨name, (idOf?_after_iff (identified_reached config events) event found).mpr ?_⟩
        intro _ _
        exact .inr (.inl earlier)
      · exact added

/-- **What is remembered of sources is transparent.** A datagram from a source that datagrams of one
medium at most come from goes where it would if nothing were remembered. And what is remembered, of
whatever source, is a channel that is registered, under the only name that it ever had. -/
theorem remembrance_reached (config : RelayConfig) (events : List Event) :
    (∀ source half payload, (reached config events).OneFeed source →
      (reached config events).Forwards source half payload) ∧
    ∀ source id, (reached config events).sources.get? source = some (some id) →
      ∃ name, (reached config events).registry.idOf? name = some id ∧
        ∀ earlier key, earlier <+: events →
          (reached config earlier).registry.idOf? key = some id → key = name := by
  constructor
  · intro source half payload only
    exact only.forwards (full_reached config events) half payload
  · intro source id remembered
    obtain ⟨name, means⟩ := registered_of_mem_held (mem_held_iff.mpr (.inr ⟨source, remembered⟩))
    refine ⟨name, means, ?_⟩
    rintro earlier key ⟨later, rfl⟩ meant
    exact ((reserved_later meant later).only name means).symm

end Relay

namespace Sample

/-- Where the recorder sends a medium from. -/
def sending : Address := ⟨1, 5000⟩

/-- The medium in datagrams, to be sent from two ports. -/
def sendDatagrams : Request :=
  setUp "/cam/t1".toList "RTP/AVP;unicast;client_port=5000-5001;mode=record".toList

/-- A recorder sends a first datagram. -/
def sent : List Event :=
  [.opened recorder address, .requested recorder announceOne, .requested recorder sendDatagrams,
    .requested recorder (plain .record), .received sending .rtp [7]]

end Sample

namespace Relay

set_option maxRecDepth 100000 in
/-- The channel is remembered when the next datagram comes, which goes where it would anyway. -/
theorem remembrance_reached_recorder :
    (reached Sample.config Sample.sent).sources.get? Sample.sending = some (some 1) ∧
    (reached Sample.config Sample.sent).registry.nameOf? 1 = some "cam".toList ∧
    (reached Sample.config Sample.sent).OneFeed Sample.sending ∧
    (reached Sample.config Sample.sent).Forwards Sample.sending .rtcp [8] ∧
    ((reached Sample.config Sample.sent).takeDatagram Sample.sending .rtcp [8]).2.1 =
      .pushed 1 ((reached Sample.config Sample.sent).datagramPackage .rtcp [8] 0) := by
  have only : (reached Sample.config Sample.sent).OneFeed Sample.sending := by decide +kernel
  refine ⟨by decide +kernel, by decide +kernel, only, ?_, by decide +kernel⟩
  exact (remembrance_reached Sample.config Sample.sent).1 Sample.sending .rtcp [8] only

end Relay

end MediaRelay
