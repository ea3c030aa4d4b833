import MediaRelay.Proofs.Relay.ChannelSteps
import MediaRelay.Proofs.Relay.Coherence
import MediaRelay.Proofs.Relay.Origins
import MediaRelay.Proofs.Relay.Packages

/-! # Fan-out

What a session is sent in the course of a run is told twice: by what leaves the relay (`sentTo`),
and by the packages that are pushed into a channel while the session subscribes to it and plays
(`due`). The second takes no account of other subscribers. Both come to the same (`sentTo_eq_due`),
since nobody is listed twice among the subscribers of a channel.
-/

namespace MediaRelay

namespace Session

/-- What a package comes to at the peer of a session: nothing without an outlet, nor in a frame
without a link or in a datagram without ports to send it from. -/
def parcel? (session : Session) (package : Package) : Option Parcel :=
  match session.negotiation.outlet? package with
  | none => none
  | some (.frame channel) =>
    let frame : Frame := ⟨channel, package.payload⟩
    if session.linkOpen then some (.written (frame.head ++ frame.payload)) else none
  | some (.datagram half port) =>
    if session.relayPorts.isSome then
      some (.datagram half ⟨session.peer.host, port⟩ package.payload)
    else
      none

/-- A package that fits in a frame is forwarded as the parcel that it comes to. -/
theorem forward_eq {session : Session} {package : Package}
    (short : package.payload.length ≤ maxPayload) :
    (session.forward package).toOption.join = session.parcel? package := by
  unfold forward parcel?
  cases session.negotiation.outlet? package with
  | none => rfl
  | some outlet =>
      cases outlet with
      | frame channel =>
          have whole := @Frame.encode_of_short ⟨channel, package.payload⟩ short
          simp only [whole, send]
          cases session.linkOpen <;> rfl
      | datagram half port =>
          dsimp only
          cases session.relayPorts <;> rfl

end Session

namespace Channel

/-- An event lists nobody twice among the subscribers of a channel. -/
theorem Step.nodup {actor? : Option SessionId} {announced? : SessionId → Option Bytes}
    {before after : Channel} (step : before.Step actor? announced? after)
    (nodup : before.subscribers.Nodup) : after.subscribers.Nodup := by
  cases step with
  | same _ => exact nodup
  | described _ _ _ _ _ => exact nodup
  | claimed _ _ _ _ => exact nodup
  | @subscribed id _ _ =>
      unfold Channel.subscribe
      split
      · exact nodup
      · rename_i absent
        refine List.nodup_append.mpr ⟨nodup, by simp, ?_⟩
        rintro member listed other single rfl
        exact absent (List.mem_singleton.mp single ▸ listed)
  | left _ _ =>
      unfold Channel.remove
      split <;> exact nodup.filter _
  | retired _ _ _ => exact List.nodup_nil

end Channel

namespace Relay

/-! ## What is sent -/

/-- What leaves the relay for the peers of sessions as packages and datagrams come in. -/
def sends (relay : Relay) : Event → List Delivery
  | .pushed name payload interleaved channel order =>
    let (package, relay) := relay.packed payload
    match relay.registry.get? name with
    | none => []
    | some target => (relay.push target { package with interleaved, channel, order }).2
  | .received source half payload => (relay.takeDatagram source half payload).2.2
  | _ => []

/-- What is for a session among deliveries. -/
def parcelsFor (id : SessionId) (deliveries : List Delivery) : List Parcel :=
  deliveries.filterMap fun delivery =>
    if delivery.recipient = id then some delivery.parcel else none

/-- What a session is sent in the course of a run, in order. -/
def sentTo (relay : Relay) (id : SessionId) : List Event → List Parcel
  | [] => []
  | event :: events => parcelsFor id (relay.sends event) ++ (relay.after event).sentTo id events

/-! ## What is due -/

/-- The package that an event pushes into a channel. -/
def pushOf? (relay : Relay) : Event → Option (Channel × Package)
  | .pushed name payload interleaved channel order =>
    let payload := payload.take maxPayload
    (relay.registry.get? name).map fun target =>
      (target, ⟨payload, payload.length, interleaved, channel, order⟩)
  | .received source half payload =>
    let payload := payload.take maxPayload
    ((relay.resolve? source).filter fun origin => origin.producer.negotiation.isRecording).map
      fun origin => (origin.channel, ⟨payload, payload.length, false, half.index, origin.ordinal⟩)
  | _ => none

/-- A package that is pushed into a channel while a session subscribes to it and plays, with the
session as it is then. -/
def dueOf? (relay : Relay) (id : SessionId) (event : Event) : Option (Session × Package) :=
  ((relay.pushOf? event).filter fun push => push.1.subscribers.contains id).bind fun push =>
    ((relay.session? id).filter fun session => session.negotiation.isPlaying).map
      fun session => (session, push.2)

/-- All that is due to a session in the course of a run, in order. -/
def due (relay : Relay) (id : SessionId) : List Event → List (Session × Package)
  | [] => []
  | event :: events => (relay.dueOf? id event).toList ++ (relay.after event).due id events

variable {relay after : Relay} {id : SessionId} {channel : Channel} {package : Package}
  {event : Event}

theorem recipient_of_deliver? {delivery : Delivery}
    (delivered : relay.deliver? package id = some delivery) : delivery.recipient = id := by
  unfold deliver? at delivered
  split at delivered
  · exact nomatch delivered
  · split at delivered
    · split at delivered
      · obtain rfl := Option.some.inj delivered
        rfl
      · exact nomatch delivered
    · exact nomatch delivered

/-- A subscriber that is listed once is sent what it alone would be. -/
theorem parcelsFor_filterMap {subscribers : List SessionId} (nodup : subscribers.Nodup)
    (relay : Relay) (package : Package) (id : SessionId) :
    parcelsFor id (subscribers.filterMap (relay.deliver? package)) =
      if id ∈ subscribers then ((relay.deliver? package id).map Delivery.parcel).toList else [] := by
  induction subscribers with
  | nil => rfl
  | cons first others ih =>
      obtain ⟨absent, nodup⟩ := List.nodup_cons.mp nodup
      have later := ih nodup
      unfold parcelsFor at later ⊢
      cases delivered : relay.deliver? package first with
      | none =>
          rw [List.filterMap_cons_none delivered, later]
          by_cases own : id = first
          · subst own
            simp [delivered, absent]
          · simp [own]
      | some delivery =>
          have recipient := recipient_of_deliver? delivered
          rw [List.filterMap_cons_some delivered, List.filterMap_cons, later]
          by_cases own : id = first
          · subst own
            simp [delivered, absent, recipient]
          · have foreign : ¬ delivery.recipient = id := fun same => own (same.symm.trans recipient)
            simp [own, foreign]

/-- What a session is sent of a package that is pushed, if it subscribes to the channel and plays. -/
theorem parcelsFor_deliveries (nodup : channel.subscribers.Nodup)
    (short : package.payload.length ≤ maxPayload) (id : SessionId) :
    parcelsFor id (relay.deliveries channel package) =
      if id ∈ channel.subscribers then
        (((relay.session? id).filter fun session => session.negotiation.isPlaying).bind
          fun session => session.parcel? package).toList
      else
        [] := by
  have told : (relay.deliver? package id).map Delivery.parcel =
      ((relay.session? id).filter fun session => session.negotiation.isPlaying).bind
        fun session => session.parcel? package := by
    unfold deliver?
    cases relay.session? id with
    | none => rfl
    | some session =>
        cases playing : session.negotiation.isPlaying with
        | false => simp [Option.filter, playing]
        | true =>
            simp only [Option.filter, playing, ↓reduceIte, Option.bind_some]
            rw [← Session.forward_eq short]
            rcases session.forward package with _ | (_ | parcel) <;> rfl
  rw [Relay.deliveries, parcelsFor_filterMap nodup, told]

/-- Every event keeps subscribers from being listed twice. -/
theorem nodup_reached (config : RelayConfig) (events : List Event) (name : Text) :
    ((reached config events).channelAt name).subscribers.Nodup := by
  induction events using List.reverseRecOn with
  | nil =>
      have vacant := channelAt_new config name
      exact vacant.symm ▸ List.nodup_nil
  | append_singleton events event ih =>
      rw [reached_concat]
      exact (step_after (identified_reached config events) event name).nodup ih

theorem parcelsFor_push (pushed : relay.pushOf? event = some (channel, package))
    (nodup : channel.subscribers.Nodup) (short : package.payload.length ≤ maxPayload)
    (id : SessionId) :
    parcelsFor id (relay.deliveries channel package) =
      ((relay.dueOf? id event).bind fun due => due.1.parcel? due.2).toList := by
  rw [parcelsFor_deliveries nodup short, dueOf?, pushed]
  by_cases subscribed : id ∈ channel.subscribers
  · simp only [Option.filter, List.contains_iff_mem, subscribed, ↓reduceIte, Option.bind_some,
      Option.bind_map, Function.comp_def]
  · simp only [Option.filter, List.contains_iff_mem, subscribed, ↓reduceIte, Option.bind_none,
      Option.toList_none]

/-- A package is pushed into a registered channel, and it fits in a frame. -/
theorem pushOf?_eq_some (pushed : relay.pushOf? event = some (channel, package)) :
    (∃ name, relay.channelAt name = channel) ∧ package.payload.length ≤ maxPayload := by
  have short (payload : Bytes) (interleaved : Bool) (number : UInt8) (order : Ordinal) :
      (Package.mk (payload.take maxPayload) (payload.take maxPayload).length interleaved number
        order).payload.length ≤ maxPayload :=
    Nat.le_trans (Package.length_payload_le _) (List.length_take_le _ _)
  cases event with
  | pushed name payload interleaved number order =>
      obtain ⟨target, found, same⟩ := Option.map_eq_some_iff.mp pushed
      obtain ⟨rfl, rfl⟩ := Prod.mk.inj same
      exact ⟨⟨name, channelAt_of_found found⟩, short ..⟩
  | received source half payload =>
      obtain ⟨origin, resolved, same⟩ := Option.map_eq_some_iff.mp pushed
      obtain ⟨rfl, rfl⟩ := Prod.mk.inj same
      obtain ⟨name, registered⟩ := (resolve?_fits (Option.filter_eq_some_iff.mp resolved).1).registered
      refine ⟨⟨name, channelAt_of_found ?_⟩, short ..⟩
      rw [Registry.get?, registered, Option.map_some]
  | _ => cases pushed

/-- A datagram is carried as it is, as far as it fits. -/
theorem trimmed_datagramPackage (full : relay.packagePool.Full) (half : Half) (payload : Bytes)
    (ordinal : Ordinal) :
    (relay.datagramPackage half payload ordinal).trimmed =
      ⟨payload.take maxPayload, (payload.take maxPayload).length, false, half.index, ordinal⟩ := by
  rw [← full.acquire.1]
  exact Package.trimmed_fill_take _ payload false half.index ordinal

/-- What leaves the relay is what the subscribers of the channel are sent of the package. -/
theorem sends_eq (full : relay.packagePool.Full) (event : Event) :
    relay.sends event =
      ((relay.pushOf? event).map fun push => relay.deliveries push.1 push.2).getD [] := by
  cases event with
  | pushed name payload interleaved channel order =>
      have whole := full.acquire.1
      have packed := Package.trimmed_fill_take relay.packagePool.acquire.1 payload interleaved
        channel order
      rw [whole] at packed
      simp only [sends, Relay.packed, pushOf?]
      cases relay.registry.get? name with
      | none => rfl
      | some target =>
          simp only [Option.map_some, Option.getD_some]
          rw [← packed, deliveries_trimmed]
          rfl
  | received source half payload =>
      simp only [sends, takeDatagram_snd, pushOf?]
      cases (relay.resolve? source).filter fun origin => origin.producer.negotiation.isRecording with
      | none => rfl
      | some origin =>
          simp only [Option.map_some, Option.getD_some]
          rw [← trimmed_datagramPackage full, deliveries_trimmed]
  | _ => rfl

/-- What is sent to a session as an event happens is what is due to it. -/
theorem parcelsFor_sends (full : relay.packagePool.Full)
    (nodup : ∀ name, (relay.channelAt name).subscribers.Nodup) (id : SessionId) (event : Event) :
    parcelsFor id (relay.sends event) =
      ((relay.dueOf? id event).bind fun due => due.1.parcel? due.2).toList := by
  rw [sends_eq full]
  cases pushed : relay.pushOf? event with
  | none =>
      rw [dueOf?, pushed]
      rfl
  | some push =>
      obtain ⟨⟨name, same⟩, short⟩ := pushOf?_eq_some pushed
      rw [← parcelsFor_push pushed (same ▸ nodup name) short, Option.map_some, Option.getD_some]

/-- **A session is sent what is due to it**, in order and each package once. -/
theorem sentTo_eq_due (config : RelayConfig) (earlier events : List Event) (id : SessionId) :
    (reached config earlier).sentTo id events =
      ((reached config earlier).due id events).filterMap fun due => due.1.parcel? due.2 := by
  induction events generalizing earlier with
  | nil => rfl
  | cons event events ih =>
      have now := parcelsFor_sends (full_reached config earlier) (nodup_reached config earlier) id
        event
      have later := ih (earlier ++ [event])
      rw [reached_concat] at later
      rw [sentTo, due, List.filterMap_append, now, later]
      cases (reached config earlier).dueOf? id event <;> rfl

/-! ## Links -/

/-- The link of a session is open, if the session is. -/
def Linked (relay : Relay) (id : SessionId) : Prop :=
  ∀ session, relay.session? id = some session → session.linkOpen = true

/-- A link fails only when it is said to. -/
theorem Change.linked (change : relay.Change event after) (linked : relay.Linked id)
    (unfailed : event ≠ .linkFailed id) : after.Linked id := by
  intro session found
  cases change with
  | idle same =>
      rw [same.session?] at found
      exact linked session found
  | ensured same =>
      rw [same.session?] at found
      exact linked session found
  | @opened opening peer fresh =>
      rw [session?_openSession] at found
      split at found
      · obtain rfl := Option.some.inj found
        unfold SessionPool.acquire
        split <;> rfl
      · exact linked session found
  | @requested _ actor request _ =>
      obtain ⟨change, same⟩ := session?_route relay actor request id
      rw [same] at found
      obtain ⟨earlier, held, rfl⟩ := Option.map_eq_some_iff.mp found
      exact linked earlier held
  | @closed closing _ _ =>
      rw [session?_closeSession] at found
      split at found
      · exact nomatch found
      · exact linked session found
  | @linkFailed failing =>
      rw [session?_closeLink] at found
      split at found
      · rename_i same
        exact (unfailed (same ▸ rfl)).elim
      · exact linked session found

theorem session?_of_dueOf? {due : Session × Package} (owed : relay.dueOf? id event = some due) :
    relay.session? id = some due.1 := by
  obtain ⟨push, _, owed⟩ := Option.bind_eq_some_iff.mp owed
  obtain ⟨session, found, rfl⟩ := Option.map_eq_some_iff.mp owed
  exact (Option.filter_eq_some_iff.mp found).1

/-- While the link does not fail, all that is due to a session is due while its link is open. -/
theorem linkOpen_of_mem_due {events : List Event} (linked : relay.Linked id)
    (unfailed : .linkFailed id ∉ events) {due : Session × Package}
    (owed : due ∈ relay.due id events) : due.1.linkOpen = true := by
  induction events generalizing relay with
  | nil => exact nomatch owed
  | cons event events ih =>
      rcases List.mem_append.mp owed with now | later
      · exact linked due.1 (session?_of_dueOf? (Option.mem_toList.mp now))
      · have works := (change_after relay event).linked linked fun same =>
          unfailed (same ▸ List.mem_cons_self)
        exact ih works (fun member => unfailed (List.mem_cons_of_mem _ member)) later

end Relay

end MediaRelay
