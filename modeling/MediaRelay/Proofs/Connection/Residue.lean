import MediaRelay.Proofs.Connection.Looking
import MediaRelay.Proofs.Connection.Station
import MediaRelay.Proofs.Relay.Crosstalk
import MediaRelay.Proofs.Relay.FanOut

/-! # What is left in idle packages

An idle package keeps the bytes of its last payload, or of a frame that broke off as it was read.
None of them is ever sent (`Station.residue_never_sent`): whatever stands in the idle packages
before each occurrence of a run, every peer is sent the same, and a payload that is sent is that of
the frame or the datagram which has just come in.

The one fact behind it is that a package is filled before it is used. So nothing but the relay's own
idle packages depends on which packages are idle, as long as their buffers are whole
(`Station.sent_withPackages`, `Station.exists_after_withPackages`).
-/

namespace MediaRelay

/-- What may be left in idle packages: for each of them, the one returned last first, the byte at
each place of its buffer. -/
abbrev Residue := Nat → Nat → UInt8

/-- The same idle packages with other bytes in them. -/
def PackagePool.overwritten (pool : PackagePool) (residue : Residue) : PackagePool :=
  { pool with
    free := pool.free.mapIdx fun index package =>
      { package with buffer := (List.range package.buffer.length).map (residue index) } }

theorem PackagePool.Full.overwritten {pool : PackagePool} (full : pool.Full) (residue : Residue) :
    (pool.overwritten residue).Full := by
  intro package member
  obtain ⟨index, bound, rfl⟩ := List.mem_mapIdx.mp member
  rw [List.length_map, List.length_range]
  exact full _ (List.getElem_mem bound)

/-- What leaves for a peer is a frame or a datagram with a payload. -/
inductive Parcel.Carries (payload : Bytes) : Parcel → Prop where
  | frame (channel : UInt8) :
      Carries payload (.written ((Frame.mk channel payload).head ++ payload))
  | datagram (half : Half) (destination : Address) :
      Carries payload (.datagram half destination payload)

theorem Session.carries_of_forward {session : Session} {package : Package} {parcel : Parcel}
    (forwarded : session.forward package = .ok (some parcel)) : parcel.Carries package.payload := by
  cases parcel with
  | written message =>
      obtain ⟨channel, _, rfl⟩ := outlet?_of_written forwarded
      exact .frame channel
  | datagram half destination payload =>
      have same : payload = package.payload := by
        unfold forward at forwarded
        split at forwarded
        · cases forwarded
        · split at forwarded
          · cases forwarded
          · split at forwarded
            · cases forwarded
            · rename_i sent
              cases forwarded
              unfold send at sent
              split at sent <;> cases sent
        · split at forwarded <;> cases forwarded
          rfl
      exact same ▸ .datagram half destination

/-- The payload that comes in. -/
def Event.payload? : Event → Option Bytes
  | .pushed _ payload _ _ _ | .received _ _ payload => some payload
  | _ => none

/-! ## The relay -/

namespace Relay

variable {relay : Relay} {pool : PackagePool}

theorem session?_withPackages (relay : Relay) (pool : PackagePool) (id : SessionId) :
    (relay.withPackages pool).session? id = relay.session? id := rfl

theorem registry_withPackages (relay : Relay) (pool : PackagePool) :
    (relay.withPackages pool).registry = relay.registry := rfl

theorem resolve?_withPackages (relay : Relay) (pool : PackagePool) (source : Address) :
    (relay.withPackages pool).resolve? source = relay.resolve? source := rfl

/-- An event leaves two relays that differ in idle packages alike, but for idle packages. -/
theorem exists_after_withPackages (relay : Relay) (pool : PackagePool) (event : Event) :
    ∃ left, (relay.withPackages pool).after event = (relay.after event).withPackages left := by
  cases event with
  | opened id peer =>
      refine ⟨pool, ?_⟩
      rw [after_opened, after_opened, session?_withPackages]
      split <;> rfl
  | requested id request =>
      refine ⟨pool, ?_⟩
      cases found : relay.session? id with
      | none => simp only [after, session?_withPackages, found]
      | some session =>
          rw [after_requested found, after_requested ((session?_withPackages ..).trans found),
            route_withPackages]
  | closed id =>
      refine ⟨pool, ?_⟩
      simp only [after, closeSession, session?_withPackages]
      split <;> rfl
  | pushed name payload interleaved channel order =>
      simp only [after, packed, registry_withPackages]
      split <;> exact ⟨_, rfl⟩
  | received source half payload =>
      simp only [after, takeDatagram, resolve?_withPackages]
      split
      · exact ⟨_, rfl⟩
      · split <;> exact ⟨_, rfl⟩
  | linkFailed _ => exact ⟨pool, rfl⟩
  | held _ => exact ⟨pool, rfl⟩
  | letGo _ => exact ⟨pool, rfl⟩
  | sourceForgotten _ => exact ⟨pool, rfl⟩
  | sourcesForgotten => exact ⟨pool, rfl⟩

theorem sends_withPackages (full : relay.packagePool.Full) (whole : pool.Full) (event : Event) :
    (relay.withPackages pool).sends event = relay.sends event := by
  have same : (relay.withPackages pool).pushOf? event = relay.pushOf? event := by
    cases event <;> rfl
  rw [sends_eq whole, sends_eq full, same]
  rfl

theorem reply?_withPackages (relay : Relay) (pool : PackagePool) (event : Event) :
    (relay.withPackages pool).reply? event = relay.reply? event := by
  cases event with
  | requested id request =>
      change (relay.session? id).map _ = (relay.session? id).map _
      simp only [route_withPackages]
  | _ => rfl

/-- What a session is replied. -/
def replies (relay : Relay) (event : Event) : List Delivery :=
  match event.actor?, relay.reply? event with
  | some id, some reply => [⟨id, .written reply.response.encode⟩]
  | _, _ => []

theorem replies_withPackages (relay : Relay) (pool : PackagePool) (event : Event) :
    (relay.withPackages pool).replies event = relay.replies event := by
  rw [replies, reply?_withPackages, replies]

theorem eq_of_mem_replies {event : Event} {delivery : Delivery}
    (replied : delivery ∈ relay.replies event) :
    ∃ id request reply, event = .requested id request ∧ relay.reply? event = some reply ∧
      delivery = ⟨id, .written reply.response.encode⟩ := by
  cases event with
  | requested id request =>
      unfold replies at replied
      split at replied
      · rename_i reply same given
        obtain rfl := Option.some.inj same
        exact ⟨_, request, reply, rfl, given, List.mem_singleton.mp replied⟩
      · cases replied
  | _ => cases replied

/-- Two packages that say the same are delivered alike. -/
theorem deliveries_congr {first second : Package} (same : first.trimmed = second.trimmed)
    (relay : Relay) (channel : Channel) :
    relay.deliveries channel first = relay.deliveries channel second := by
  rw [← deliveries_trimmed, same, deliveries_trimmed]

/-- What is delivered of a package is its payload. -/
theorem carries_of_mem_deliveries {channel : Channel} {package : Package} {delivery : Delivery}
    (delivered : delivery ∈ relay.deliveries channel package) :
    delivery.parcel.Carries package.payload := by
  obtain ⟨subscriber, _, sent⟩ := List.mem_filterMap.mp delivered
  unfold deliver? at sent
  split at sent
  · cases sent
  · split at sent
    · split at sent
      · rename_i forwarded
        cases sent
        exact Session.carries_of_forward forwarded
      · cases sent
    · cases sent

/-- A package that is pushed holds the payload that has come in. -/
theorem payload_of_pushOf? {event : Event} {channel : Channel} {package : Package}
    (pushed : relay.pushOf? event = some (channel, package)) :
    ∃ payload, event.payload? = some payload ∧ package.payload = payload.take maxPayload := by
  cases event with
  | pushed name payload interleaved number order =>
      obtain ⟨target, _, same⟩ := Option.map_eq_some_iff.mp pushed
      obtain ⟨rfl, rfl⟩ := Prod.mk.inj same
      exact ⟨payload, rfl, List.take_length⟩
  | received source half payload =>
      obtain ⟨origin, _, same⟩ := Option.map_eq_some_iff.mp pushed
      obtain ⟨rfl, rfl⟩ := Prod.mk.inj same
      exact ⟨payload, rfl, List.take_length⟩
  | _ => cases pushed

theorem carries_of_mem_sends {event : Event} {delivery : Delivery}
    (full : relay.packagePool.Full) (sent : delivery ∈ relay.sends event) :
    ∃ payload, event.payload? = some payload ∧
      delivery.parcel.Carries (payload.take maxPayload) := by
  rw [sends_eq full] at sent
  cases pushed : relay.pushOf? event with
  | none =>
      rw [pushed] at sent
      cases sent
  | some push =>
      rw [pushed] at sent
      obtain ⟨payload, brought, held⟩ := payload_of_pushOf? pushed
      exact ⟨payload, brought, held ▸ carries_of_mem_deliveries sent⟩

end Relay

/-! ## Turns -/

/-- Two connections have done the same, but for what was in the packages and which are idle now. -/
structure Progress.Matches (first second : Progress) : Prop where
  relay : ∃ left, second.relay = first.relay.withPackages left
  connection : second.connection = first.connection
  deliveries : second.deliveries = first.deliveries
  ending : second.ending = first.ending

namespace Connection

variable {connection : Connection} {relay : Relay} {pool : PackagePool} {running : Bool}

theorem matches_takeFrame {frame : Frame} (full : relay.packagePool.Full) (whole : pool.Full)
    (short : frame.payload.length ≤ maxPayload) (rest : Bytes) :
    (connection.takeFrame relay frame rest).Matches
      (connection.takeFrame (relay.withPackages pool) frame rest) := by
  have same : connection.feeding? (relay.withPackages pool) = connection.feeding? relay := rfl
  unfold takeFrame
  rw [same]
  cases connection.feeding? relay with
  | none => exact ⟨⟨pool, rfl⟩, rfl, rfl, rfl⟩
  | some target =>
      obtain ⟨session, name, channel⟩ := target
      refine ⟨⟨_, rfl⟩, rfl, ?_, rfl⟩
      apply Relay.deliveries_congr
      rw [Package.trimmed_fill (whole.acquire.1 ▸ short),
        Package.trimmed_fill (full.acquire.1 ▸ short)]

theorem matches_answer (request : Request) (rest : Bytes) :
    (connection.answer running relay request rest).Matches
      (connection.answer running (relay.withPackages pool) request rest) := by
  have opening : connection.openedOn (relay.withPackages pool) =
      (connection.openedOn relay).withPackages pool := by
    unfold openedOn
    split <;> rfl
  unfold answer
  dsimp only
  rw [opening]
  generalize connection.openedOn relay = opened
  simp only [Relay.session?_withPackages]
  split
  · exact ⟨⟨pool, rfl⟩, rfl, rfl, rfl⟩
  · rw [Relay.route_withPackages]
    exact ⟨⟨pool, rfl⟩, rfl, rfl, rfl⟩

theorem matches_stop (connection : Connection) (relay : Relay) (pool : PackagePool)
    (found : Found) :
    Option.Rel Progress.Matches (connection.stop relay found)
      (connection.stop (relay.withPackages pool) found) := by
  unfold stop
  cases found.ending? with
  | none => exact .none
  | some ending =>
      simp only [Option.bind_some]
      split
      · exact .none
      · cases found.refusal? with
        | none => exact .some ⟨⟨pool, rfl⟩, rfl, rfl, rfl⟩
        | some status => exact .some ⟨⟨pool, rfl⟩, rfl, rfl, rfl⟩

theorem matches_respond (connection : Connection) (relay : Relay) (pool : PackagePool)
    (found : Found) :
    Option.Rel Progress.Matches (connection.respond running relay found)
      (connection.respond running (relay.withPackages pool) found) := by
  cases found with
  | request request rest => exact .some (matches_answer request rest)
  | _ => exact matches_stop connection relay pool _

/-- Other idle packages do not make a difference to a turn. -/
theorem matches_turn (full : relay.packagePool.Full) (whole : pool.Full) :
    Option.Rel Progress.Matches (connection.turn running relay)
      (connection.turn running (relay.withPackages pool)) := by
  cases found : look (connection.feeding? relay).isSome connection.input with
  | frame frame rest =>
      obtain ⟨_, _, short⟩ := Frame.eq_append_of_read (read_of_look found).1
      rw [turn_of_frame full found, @turn_of_frame connection (relay.withPackages pool) running _ _
        whole found]
      exact .some (matches_takeFrame full whole short rest)
  | _ =>
      rw [turn_of_no_frame full found nofun, @turn_of_no_frame connection
        (relay.withPackages pool) running _ whole found nofun]
      exact matches_respond connection _ _ _

/-- A connection writes to its own peer. -/
theorem eq_of_write {message : Bytes} {delivery : Delivery}
    (written : connection.write relay message = some delivery) :
    delivery = ⟨connection.id, .written message⟩ := by
  unfold write at written
  split at written
  · exact (Option.some.inj written).symm
  · split at written
    · rename_i sent
      unfold Session.send at sent
      split at sent
      · cases sent
        exact (Option.some.inj written).symm
      · cases sent
    · cases written

/-- What a connection sends on its own is a response to what it has found. -/
theorem exists_act_of_mem_respond {found : Found} {done : Progress} {delivery : Delivery}
    (responded : connection.respond running relay found = some done)
    (sent : delivery ∈ done.deliveries) :
    ∃ act ∈ done.acts, ∃ parcel, act.response? = some parcel ∧
      delivery = ⟨connection.id, parcel⟩ := by
  have stopped (took : connection.stop relay found = some done) : ∃ act ∈ done.acts,
      ∃ parcel, act.response? = some parcel ∧ delivery = ⟨connection.id, parcel⟩ := by
    obtain ⟨ending, _, took⟩ := Option.bind_eq_some_iff.mp took
    split at took
    · cases took
    · split at took
      · obtain rfl := Option.some.inj took
        exact ⟨_, List.mem_singleton_self _, _, rfl, eq_of_write (Option.mem_toList.mp sent)⟩
      · obtain rfl := Option.some.inj took
        cases sent
  cases found with
  | request request rest =>
      obtain rfl := Option.some.inj responded
      unfold answer at sent ⊢
      dsimp only at sent ⊢
      split at sent
      · cases sent
      · have written := eq_of_write (Option.mem_toList.mp sent)
        exact ⟨_, List.mem_singleton_self _, _, rfl, written⟩
  | _ => exact stopped responded

theorem carries_of_mem_takeFrame {frame : Frame} {rest : Bytes} {delivery : Delivery}
    (full : relay.packagePool.Full) (short : frame.payload.length ≤ maxPayload)
    (sent : delivery ∈ (connection.takeFrame relay frame rest).deliveries) :
    delivery.parcel.Carries frame.payload := by
  unfold takeFrame at sent
  split at sent
  · cases sent
  · rename_i session name channel _
    have filled : ({ relay.packagePool.acquire.1.fill frame.payload with
        interleaved := true
        channel := frame.channel
        order := session.negotiation.ordinalForChannel frame.channel } : Package).payload =
          frame.payload := Package.payload_fill (full.acquire.1 ▸ short)
    exact filled ▸ Relay.carries_of_mem_deliveries sent

end Connection

/-! ## Stations -/

/-- A payload that comes in past the connections is no longer than a frame's may be. -/
def Occurrence.Short : Occurrence → Prop
  | .direct event => ∀ payload ∈ event.payload?, payload.length ≤ maxPayload
  | _ => True

namespace Station

/-- The station with other idle packages. -/
def withPackages (station : Station) (pool : PackagePool) : Station :=
  { station with relay := station.relay.withPackages pool }

/-- The station with other bytes in its idle packages. -/
def overwritten (station : Station) (residue : Residue) : Station :=
  station.withPackages (station.relay.packagePool.overwritten residue)

/-- What leaves for the peers of sessions in an occurrence. A session without a connection is sent
its replies too. -/
def sent (station : Station) : Occurrence → List Delivery
  | .direct event =>
    if station.admits event then station.relay.replies event ++ station.relay.sends event else []
  | .turned id running => ((station.turn? id running).map Progress.deliveries).getD []
  | _ => []

/-- What is sent in each occurrence of a run. -/
def sentAll (station : Station) : List Occurrence → List (List Delivery)
  | [] => []
  | occurrence :: run => station.sent occurrence :: (station.after occurrence).sentAll run

/-- What a run leaves behind if something else is left in the idle packages before each
occurrence. -/
def reachedAmid (station : Station) (run : List (Residue × Occurrence)) : Station :=
  run.foldl (fun station entry => (station.overwritten entry.1).after entry.2) station

/-- What is sent in each occurrence of such a run. -/
def sentAmid (station : Station) : List (Residue × Occurrence) → List (List Delivery)
  | [] => []
  | (residue, occurrence) :: run =>
    (station.overwritten residue).sent occurrence ::
      ((station.overwritten residue).after occurrence).sentAmid run

/-- What a delivery has come of: it answers a request, or it carries what has just come in. -/
inductive Stems (station : Station) : Occurrence → Delivery → Prop where
  | replied {id : SessionId} {request : Request} {reply : Reply}
      (replied : station.relay.reply? (.requested id request) = some reply) :
      Stems station (.direct (.requested id request)) ⟨id, .written reply.response.encode⟩
  | answered {id : SessionId} {running : Bool} {done : Progress} {act : Act} {parcel : Parcel}
      (took : station.turn? id running = some done) (did : act ∈ done.acts)
      (own : act.response? = some parcel) : Stems station (.turned id running) ⟨id, parcel⟩
  | payload {event : Event} {payload : Bytes} {delivery : Delivery}
      (brought : event.payload? = some payload) (carries : delivery.parcel.Carries payload) :
      Stems station (.direct event) delivery
  /-- The frame is next in the input of a connection. -/
  | frame {id : SessionId} {running : Bool} {connection : Connection} {frame : Frame}
      {rest : Bytes} {delivery : Delivery}
      (connected : station.connections.get? id = some connection)
      (next : connection.input = frame.head ++ frame.payload ++ rest)
      (carries : delivery.parcel.Carries frame.payload) :
      Stems station (.turned id running) delivery

variable {station : Station} {pool : PackagePool}

theorem Sound.withPackages (sound : station.Sound) (full : pool.Full) :
    (station.withPackages pool).Sound where
  relay := sound.relay.withPackages full
  serves := fun id connection found => (sound.serves id connection found).congr rfl

theorem Sound.overwritten (sound : station.Sound) (residue : Residue) :
    (station.overwritten residue).Sound :=
  sound.withPackages (sound.relay.full.overwritten residue)

theorem Sound.reachedAmid (sound : station.Sound) (run : List (Residue × Occurrence)) :
    (station.reachedAmid run).Sound := by
  unfold Station.reachedAmid
  induction run generalizing station with
  | nil => exact sound
  | cons entry run ih => exact ih ((sound.overwritten entry.1).after entry.2)

theorem rel_turn?_withPackages (sound : station.Sound) (full : pool.Full) (id : SessionId)
    (running : Bool) :
    Option.Rel Progress.Matches (station.turn? id running)
      ((station.withPackages pool).turn? id running) := by
  have same : (station.withPackages pool).turn? id running =
      (station.connections.get? id).bind fun connection =>
        connection.turn running (station.relay.withPackages pool) := rfl
  rw [same, turn?]
  cases station.connections.get? id with
  | none => exact .none
  | some connection => exact Connection.matches_turn sound.relay.full full

theorem exists_settle_withPackages {first second : Progress} (id : SessionId)
    (alike : first.Matches second) :
    ∃ left, (station.withPackages pool).settle id second =
      (station.settle id first).withPackages left := by
  obtain ⟨⟨idle, relay⟩, connection, _, ending⟩ := alike
  unfold settle Connection.cleanUp
  rw [relay, connection, ending]
  split
  · split
    · obtain ⟨left, closed⟩ :=
        first.relay.exists_after_withPackages idle (.closed first.connection.id)
      exact ⟨left, congrArg (Station.mk · _) closed⟩
    · exact ⟨idle, rfl⟩
  · exact ⟨idle, rfl⟩

/-- What other idle packages leave behind differs in idle packages only. -/
theorem exists_after_withPackages (sound : station.Sound) (full : pool.Full)
    (occurrence : Occurrence) :
    ∃ left, (station.withPackages pool).after occurrence =
      (station.after occurrence).withPackages left := by
  cases occurrence with
  | direct event =>
      have same : (station.withPackages pool).admits event = station.admits event := by
        cases event <;> rfl
      unfold Station.after
      simp only [same]
      split
      · obtain ⟨left, after⟩ := station.relay.exists_after_withPackages pool event
        exact ⟨left, congrArg (Station.mk · station.connections) after⟩
      · exact ⟨pool, rfl⟩
  | accepted id peer =>
      refine ⟨pool, ?_⟩
      by_cases taken : (station.connections.contains id || (station.relay.session? id).isSome) = true
      · simp only [Station.after, withPackages, Relay.session?_withPackages, taken, ↓reduceIte]
      · simp only [Station.after, withPackages, Relay.session?_withPackages, taken, ↓reduceIte,
          Bool.false_eq_true]
  | arrived id bytes => exact ⟨pool, rfl⟩
  | finished id => exact ⟨pool, rfl⟩
  | turned id running =>
      have alike := rel_turn?_withPackages sound full id running
      unfold Station.after
      dsimp only
      generalize station.turn? id running = first at alike ⊢
      generalize (station.withPackages pool).turn? id running = second at alike ⊢
      cases alike with
      | none => exact ⟨pool, rfl⟩
      | some alike => exact exists_settle_withPackages id alike
  | expired id =>
      have same : (station.withPackages pool).expiry? id =
          (station.expiry? id).map fun done =>
            { done with relay := done.relay.withPackages pool } := by
        rw [expiry?, expiry?, Option.map_map]
        rfl
      unfold Station.after
      simp only [same]
      cases station.expiry? id with
      | none => exact ⟨pool, rfl⟩
      | some done => exact exists_settle_withPackages id ⟨⟨pool, rfl⟩, rfl, rfl, rfl⟩

/-- What is sent does not depend on which packages are idle. -/
theorem sent_withPackages (sound : station.Sound) (full : pool.Full) (occurrence : Occurrence) :
    (station.withPackages pool).sent occurrence = station.sent occurrence := by
  cases occurrence with
  | direct event =>
      have same : (station.withPackages pool).admits event = station.admits event := by
        cases event <;> rfl
      unfold sent
      dsimp only
      rw [same]
      split
      · exact congrArg₂ _ (station.relay.replies_withPackages pool event)
          (Relay.sends_withPackages sound.relay.full full event)
      · rfl
  | turned id running =>
      have alike := rel_turn?_withPackages sound full id running
      unfold sent
      dsimp only
      generalize station.turn? id running = first at alike ⊢
      generalize (station.withPackages pool).turn? id running = second at alike ⊢
      cases alike with
      | none => rfl
      | some alike => exact alike.deliveries
  | _ => rfl

/-- Whatever is left in the idle packages before each occurrence, the same is sent as if the relay
alone left something there. -/
theorem sentAmid_withPackages (sound : station.Sound) (full : pool.Full)
    (run : List (Residue × Occurrence)) :
    (station.withPackages pool).sentAmid run = station.sentAll (run.map Prod.snd) := by
  induction run generalizing station pool with
  | nil => rfl
  | cons entry run ih =>
      obtain ⟨residue, occurrence⟩ := entry
      have whole : (pool.overwritten residue).Full := full.overwritten residue
      obtain ⟨left, after⟩ := exists_after_withPackages sound whole occurrence
      have idle : left.Full := by
        have onwards := ((sound.withPackages whole).after occurrence).relay.full
        rw [after] at onwards
        exact onwards
      have sends := sent_withPackages sound whole occurrence
      change (station.withPackages (pool.overwritten residue)).sent occurrence ::
        ((station.withPackages (pool.overwritten residue)).after occurrence).sentAmid run = _
      rw [sends, after, ih (sound.after occurrence) idle]
      rfl

/-! ## Payloads -/

theorem stems_of_mem_turned {id : SessionId} {running : Bool} {done : Progress}
    {delivery : Delivery} (sound : station.Sound) (took : station.turn? id running = some done)
    (sent : delivery ∈ done.deliveries) : station.Stems (.turned id running) delivery := by
  obtain ⟨connection, connected, acted⟩ := Option.bind_eq_some_iff.mp took
  have full := sound.relay.full
  obtain rfl := (sound.serves id connection connected).named
  cases found : Connection.look (connection.feeding? station.relay).isSome connection.input with
  | frame frame rest =>
      rw [Connection.turn_of_frame full found] at acted
      obtain rfl := Option.some.inj acted
      obtain ⟨next, _, short⟩ := Frame.eq_append_of_read (Connection.read_of_look found).1
      exact .frame connected next (Connection.carries_of_mem_takeFrame full short sent)
  | _ =>
      rw [Connection.turn_of_no_frame full found nofun] at acted
      obtain ⟨act, did, parcel, own, rfl⟩ := Connection.exists_act_of_mem_respond acted sent
      exact .answered took did own

/-- Everything that is sent has come of what happens. -/
theorem stems_of_mem_sent {occurrence : Occurrence} {delivery : Delivery} (sound : station.Sound)
    (short : occurrence.Short) (sent : delivery ∈ station.sent occurrence) :
    station.Stems occurrence delivery := by
  cases occurrence with
  | direct event =>
      unfold Station.sent at sent
      dsimp only at sent
      split at sent
      · rcases List.mem_append.mp sent with replied | sent
        · obtain ⟨id, request, reply, rfl, given, rfl⟩ := Relay.eq_of_mem_replies replied
          exact .replied given
        · obtain ⟨payload, brought, carries⟩ := Relay.carries_of_mem_sends sound.relay.full sent
          rw [List.take_of_length_le (short payload brought)] at carries
          exact .payload brought carries
      · cases sent
  | turned id running =>
      unfold Station.sent at sent
      dsimp only at sent
      cases took : station.turn? id running with
      | none => rw [took] at sent; cases sent
      | some done =>
          rw [took] at sent
          exact stems_of_mem_turned sound took sent
  | _ => cases sent

/-- **What is left in idle packages is never sent.** In any two runs that differ only in what stands
in the idle packages before each occurrence, every peer is sent the same in every occurrence, and it
is what the relay sends if nothing but its own payloads is left there. Each delivery answers a
request or carries the payload, neither more nor less, of the frame or the datagram that comes in. -/
theorem residue_never_sent {config : RelayConfig} {first second : List (Residue × Occurrence)}
    (same : first.map Prod.snd = second.map Prod.snd) :
    (new config).sentAmid first = (new config).sentAmid second ∧
    (new config).sentAmid first = (new config).sentAll (first.map Prod.snd) ∧
    ∀ before residue occurrence later, first = before ++ (residue, occurrence) :: later →
      occurrence.Short →
      ∀ delivery ∈ (((new config).reachedAmid before).overwritten residue).sent occurrence,
        (((new config).reachedAmid before).overwritten residue).Stems occurrence delivery := by
  have sound := sound_new config
  have alone (run : List (Residue × Occurrence)) :
      (new config).sentAmid run = (new config).sentAll (run.map Prod.snd) :=
    sentAmid_withPackages sound sound.relay.full run
  refine ⟨?_, alone first, ?_⟩
  · rw [alone, same, alone]
  · rintro before residue occurrence later - short delivery sent
    exact stems_of_mem_sent ((sound.reachedAmid before).overwritten residue) short sent

end Station

namespace Sample

/-- A viewer plays what a recorder sends in frames: a frame that breaks off at first, a longer one
and a shorter one. -/
def relayed : List Occurrence :=
  [.accepted recorder address,
    .arrived recorder (announceOne.encode ++ framed.encode ++ (plain .record).encode),
    .turned recorder true, .turned recorder true, .turned recorder true,
    .direct (.opened viewer distant), .direct (.requested viewer viewFrames),
    .direct (.requested viewer (plain .play)),
    .arrived recorder [Frame.marker, 0, 0, 3, 1], .turned recorder true,
    .arrived recorder [2, 3, Frame.marker, 1, 0, 1, 4], .turned recorder true,
    .turned recorder true]

/-- The run in which every idle package is full of one byte when the next thing happens. -/
def soiled (byte : UInt8) : List (Residue × Occurrence) :=
  relayed.map fun occurrence => (fun _ _ => byte, occurrence)

end Sample

namespace Station

set_option maxRecDepth 100000 in
/-- The shorter frame comes in a package that is full of other bytes, and arrives as it was sent. -/
theorem residue_never_sent_viewer :
    (Sample.soiled 0xAA).map Prod.snd = (Sample.soiled 0xBB).map Prod.snd ∧
    (new {}).sentAmid (Sample.soiled 0xAA) = (new {}).sentAmid (Sample.soiled 0xBB) ∧
    ((new {}).sentAmid (Sample.soiled 0xAA)).drop 11 =
      [[⟨Sample.viewer, .written [Frame.marker, 2, 0, 3, 1, 2, 3]⟩],
        [⟨Sample.viewer, .written [Frame.marker, 3, 0, 1, 4]⟩]] ∧
    (((new {}).reachedAmid (Sample.soiled 0xAA)).relay.packagePool.free.map fun package =>
      package.buffer.take 3) = [[4, 0xAA, 0xAA]] := by
  have same : (Sample.soiled 0xAA).map Prod.snd = (Sample.soiled 0xBB).map Prod.snd := by
    simp only [Sample.soiled, List.map_map, Function.comp_def]
  refine ⟨same, (residue_never_sent same).1, ?_, ?_⟩
  · decide +kernel
  · decide +kernel

end Station

end MediaRelay
