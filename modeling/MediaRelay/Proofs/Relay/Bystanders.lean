import MediaRelay.Proofs.Relay.Alike
import MediaRelay.Proofs.Relay.Atomicity
import MediaRelay.Proofs.Relay.FanOut

/-! # Bystanders

Sessions that never announce are bystanders to a viewer: what the viewer is sent is the same without
them, and the same if no other link had failed (`fan_out`). Leaving out the events that do not matter
to the viewer leaves relays that are alike.
-/

namespace MediaRelay

namespace Relay

variable {id : SessionId} {apart : SessionId → Bool} {left right : Relay} {session : Session}

/-! ## What happens on both sides -/

theorem Alike.idle {left' right' : Relay} (alike : Alike id apart left right)
    (first : SameSessions left left') (second : SameSessions right right') :
    Alike id apart left' right' := by
  refine alike.withChannels ⟨first.ports, second.ports⟩ ⟨?_, ?_⟩ ⟨first.sessions, second.sessions⟩ ?_
  · rw [first.registry]
  · rw [second.registry]
  · intro name
    rw [first.channelAt, second.channelAt]
    exact alike.channels name

theorem Alike.isSome_eq (alike : Alike id apart left right) {other : SessionId}
    (stays : apart other = false) :
    (left.session? other).isSome = (right.session? other).isSome := by
  have same := congrArg Option.isSome (alike.sessions other stays)
  rwa [Option.isSome_map, Option.isSome_map] at same

/-- A session that is open in one relay is open in the other, but for its link. -/
theorem Alike.exists_twin (alike : Alike id apart left right) {other : SessionId}
    (stays : apart other = false) (found : left.session? other = some session) :
    ∃ twin, right.session? other = some twin ∧ session.id = twin.id ∧
      session.negotiation = twin.negotiation := by
  have same := alike.sessions other stays
  rw [found, Option.map_some] at same
  obtain ⟨twin, listed, linked⟩ := Option.map_eq_some_iff.mp same.symm
  have named : twin.linked.id = session.linked.id := congrArg Session.id linked
  have negotiated : twin.linked.negotiation = session.linked.negotiation :=
    congrArg Session.negotiation linked
  exact ⟨twin, listed, named.symm, negotiated.symm⟩

theorem acquire_eq {pool : SessionPool}
    (cleared : ∀ negotiation ∈ pool.free, negotiation = .initial) (id : SessionId) (peer : Address)
    (relayPorts : Option (UInt16 × UInt16)) :
    (pool.acquire id peer relayPorts).1 = { id, peer, relayPorts } := by
  unfold SessionPool.acquire
  cases idle : pool.free with
  | nil => rfl
  | cons first free =>
      rw [idle] at cleared
      rw [cleared first List.mem_cons_self]

theorem Alike.opened (alike : Alike id apart left right) (first : left.Coherent)
    (second : right.Coherent) (opening : SessionId) (peer : Address) :
    Alike id apart (left.openSession opening peer) (right.openSession opening peer) where
  ports := alike.ports
  standing := alike.standing
  watched := by
    rw [session?_openSession, session?_openSession, acquire_eq first.cleared,
      acquire_eq second.cleared, alike.ports, alike.watched]
  sessions := by
    intro other stays
    rw [session?_openSession, session?_openSession, acquire_eq first.cleared,
      acquire_eq second.cleared, alike.ports]
    split
    · rfl
    · exact alike.sessions other stays
  channels := alike.channels

theorem Alike.closed (alike : Alike id apart left right) (first : left.Telling)
    (second : right.Telling) {closing : SessionId} (stays : apart closing = false) :
    Alike id apart (left.closeSession closing) (right.closeSession closing) := by
  cases found : left.session? closing with
  | none =>
      have missing := alike.isSome_eq stays
      rw [found] at missing
      have absent : right.session? closing = none := by simpa using missing.symm
      simpa only [closeSession, found, absent] using alike
  | some session =>
      obtain ⟨twin, listed, _, _⟩ := alike.exists_twin stays found
      have torn := alike.torn first second closing
      have channels (relay : Relay) (session : Session)
          (present : relay.session? closing = some session) (name : Text) : (relay.closeSession closing).channelAt name =
            (relay.teardown closing).channelAt name := by
        simp only [closeSession, present]
        rfl
      refine ⟨?_, ?_, ?_, ?_, fun name => ?_⟩
      · simpa only [closeSession, found, listed] using torn.ports
      · simpa only [closeSession, found, listed] using torn.standing
      · rw [session?_closeSession, session?_closeSession, alike.watched]
      · intro other remains
        rw [session?_closeSession, session?_closeSession]
        split
        · rfl
        · exact alike.sessions other remains
      · rw [channels left session found, channels right twin listed]
        exact torn.channels name

theorem Alike.unlinked (alike : Alike id apart left right) (failing : SessionId) :
    Alike id apart (left.closeLink failing) (right.closeLink failing) where
  ports := alike.ports
  standing := alike.standing
  watched := by rw [session?_closeLink, session?_closeLink, alike.watched]
  sessions := by
    intro other stays
    have unseen (session : Option Session) : (session.map fun session =>
        { session with linkOpen := false }).map Session.linked = session.map Session.linked := by
      cases session <;> rfl
    rw [session?_closeLink, session?_closeLink]
    split
    · rw [unseen, unseen]
      exact alike.sessions other stays
    · exact alike.sessions other stays
  channels := alike.channels

theorem sameSessions_pushed (relay : Relay) (name : Text) (payload : Bytes) (interleaved : Bool)
    (channel : UInt8) (order : Ordinal) :
    SameSessions relay (relay.after (.pushed name payload interleaved channel order)) := by
  simp only [Relay.after]
  split <;> exact ⟨rfl, rfl, rfl, rfl⟩

theorem telling_reached (config : RelayConfig) (events : List Event) :
    (reached config events).Telling :=
  fun name => ⟨_, tells_reached config events name⟩

end Relay

/-- Whether an event matters to a session: it is about no bystander and fails no other link. -/
def Event.matters (id : SessionId) (apart : SessionId → Bool) : Event → Bool
  | .linkFailed failing => failing = id
  | event => event.actor?.all fun actor => !apart actor

namespace Relay

variable {id : SessionId} {apart : SessionId → Bool} {config : RelayConfig}
  {kept earlier events : List Event} {event : Event}

theorem Alike.after_matters
    (alike : Alike id apart (reached config kept) (reached config events))
    (matters : event.matters id apart = true)
    (dry : ∀ source half payload, event ≠ .received source half payload) :
    Alike id apart ((reached config kept).after event) ((reached config events).after event) := by
  have first := telling_reached config kept
  have second := telling_reached config events
  cases event with
  | opened opening peer =>
      have stays : apart opening = false := by simpa [Event.matters, Event.actor?] using matters
      rw [after_opened, after_opened, alike.isSome_eq stays]
      split
      · exact alike
      · exact alike.opened (coherent_reached config kept) (coherent_reached config events) opening
          peer
  | requested asking request =>
      have stays : apart asking = false := by simpa [Event.matters, Event.actor?] using matters
      cases found : (reached config kept).session? asking with
      | none =>
          have missing := alike.isSome_eq stays
          rw [found] at missing
          have absent : (reached config events).session? asking = none := by
            simpa using missing.symm
          simpa only [Relay.after, found, absent] using alike
      | some session =>
          obtain ⟨twin, listed, named, same⟩ := alike.exists_twin stays found
          rw [after_requested found, after_requested listed, route_eq, route_eq]
          exact alike.dispatch first second named same request
  | closed closing =>
      have stays : apart closing = false := by simpa [Event.matters, Event.actor?] using matters
      exact alike.closed first second stays
  | linkFailed failing => exact alike.unlinked failing
  | pushed name payload interleaved channel order =>
      exact alike.idle (sameSessions_pushed ..) (sameSessions_pushed ..)
  | received source half payload => exact (dry source half payload rfl).elim
  | held name =>
      refine alike.withChannels ⟨rfl, rfl⟩
        ⟨defaultChannel_ensure _ name, defaultChannel_ensure _ name⟩ ⟨rfl, rfl⟩ ?_
      intro key
      change Channel.Alike apart (((reached config kept).ensureChannel name).channelAt key)
        (((reached config events).ensureChannel name).channelAt key)
      rw [channelAt_ensureChannel, channelAt_ensureChannel]
      exact alike.channels key
  | letGo _ => exact alike.idle ⟨rfl, rfl, rfl, rfl⟩ ⟨rfl, rfl, rfl, rfl⟩
  | sourceForgotten _ => exact alike.idle ⟨rfl, rfl, rfl, rfl⟩ ⟨rfl, rfl, rfl, rfl⟩
  | sourcesForgotten => exact alike.idle ⟨rfl, rfl, rfl, rfl⟩ ⟨rfl, rfl, rfl, rfl⟩

/-! ## What does not matter -/

theorem Outcome.standing {relay after : Relay} {result : Except Refusal Reply} {request : Request}
    (outcome : relay.Outcome session request after result) :
    after.registry.defaultChannel = relay.registry.defaultChannel := by
  cases outcome with
  | announced _ _ _ => exact defaultChannel_ensure relay.registry _
  | _ => rfl

/-- The default channel stays the default one. -/
theorem Change.standing {relay after : Relay} (change : relay.Change event after) :
    after.registry.defaultChannel = relay.registry.defaultChannel := by
  cases change with
  | idle same => rw [same.registry]
  | ensured same =>
      rw [same.registry]
      exact defaultChannel_ensure relay.registry _
  | opened _ => rfl
  | @requested _ session request _ =>
      rw [route_eq]
      exact (outcome_dispatch relay session request).standing
  | @closed id session found =>
      simp only [closeSession, found]
      rfl
  | linkFailed => rfl

/-- Who never announces has nothing that was said last. -/
theorem latest?_eq_none {relay : Relay} {speaker : SessionId} (name : Text)
    (quiet : ∀ request, .requested speaker request ∈ events → request.known? ≠ some .announce) :
    relay.latest? name speaker events = none := by
  induction events generalizing relay with
  | nil => rfl
  | cons event events ih =>
      have later : (relay.after event).latest? name speaker events = none :=
        ih fun request member => quiet request (List.mem_cons_of_mem _ member)
      rw [latest?, later, Option.none_or]
      refine announced?_eq_none ?_
      rintro request rfl known
      exact (quiet request List.mem_cons_self known).elim

/-- Who never announces produces nothing. -/
theorem producer_ne_of_quiet {speaker : SessionId} (name : Text)
    (quiet : ∀ request, .requested speaker request ∈ events → request.known? ≠ some .announce) :
    ((reached config events).channelAt name).producer ≠ some speaker := by
  intro produces
  cases tells_reached config events name with
  | nothing free _ _ => exact nomatch free.symm.trans produces
  | latest held _ _ _ last =>
      obtain rfl := Option.some.inj (held.symm.trans produces)
      exact nomatch (latest?_eq_none name quiet).symm.trans last

theorem Alike.failed (alike : Alike id apart left right) {failing : SessionId}
    (other : failing ≠ id) : Alike id apart left (right.closeLink failing) where
  ports := alike.ports
  standing := alike.standing
  watched := by rw [session?_closeLink, if_neg (Ne.symm other), alike.watched]
  sessions := by
    intro key stays
    rw [alike.sessions key stays, session?_closeLink]
    split
    · cases right.session? key <;> rfl
    · rfl
  channels := alike.channels

/-- What a bystander does makes no difference. -/
theorem Alike.bystander (alike : Alike id apart left (reached config events))
    (own : apart id = false) {actor : SessionId} (acting : event.actor? = some actor)
    (aside : apart actor = true)
    (quiet : ∀ request, .requested actor request ∈ events ++ [event] →
      request.known? ≠ some .announce) :
    Alike id apart left ((reached config events).after event) := by
  have change := change_after (reached config events) event
  have identified := identified_reached config events
  have kept (other : SessionId) (stays : apart other = false) :
      Keeps other (reached config events) ((reached config events).after event) := by
    refine change.keeps identified ?_
    rw [acting]
    rintro ⟨⟩
    exact nomatch stays.symm.trans aside
  have silent (name : Text) (speaker : SessionId) :
      (reached config events).announced? name speaker event = none := by
    refine announced?_eq_none ?_
    rintro request rfl known
    obtain rfl := Option.some.inj acting
    exact (quiet request (List.mem_append_right _ List.mem_cons_self) known).elim
  refine ⟨alike.ports.trans change.ports.symm, alike.standing.trans change.standing.symm,
    alike.watched.trans (kept id own).session.symm, fun other stays => ?_, fun name => ?_⟩
  · rw [alike.sessions other stays, (kept other stays).session]
  · refine (alike.channels name).trans ?_
    refine (step_after identified event name).alike (tells_reached config events name) ?_
      (silent name)
    rintro other same
    obtain rfl := Option.some.inj (acting.symm.trans same)
    exact ⟨aside, producer_ne_of_quiet name fun request member =>
      quiet request (List.mem_append_left _ member)⟩

/-- An event that does not matter fails another link or is about a bystander. -/
theorem linkFailed_or_apart (aside : event.matters id apart = false) :
    (∃ failing, event = .linkFailed failing ∧ failing ≠ id) ∨
      ∃ actor, event.actor? = some actor ∧ apart actor = true := by
  cases event with
  | linkFailed failing => exact .inl ⟨failing, rfl, of_decide_eq_false aside⟩
  | opened actor _ => exact .inr ⟨actor, rfl, by simpa [Event.matters, Event.actor?] using aside⟩
  | requested actor _ => exact .inr ⟨actor, rfl, by simpa [Event.matters, Event.actor?] using aside⟩
  | closed actor => exact .inr ⟨actor, rfl, by simpa [Event.matters, Event.actor?] using aside⟩
  | _ => exact nomatch aside

theorem Alike.without (alike : Alike id apart left (reached config events))
    (own : apart id = false) (aside : event.matters id apart = false)
    (quiet : ∀ other request, apart other = true → .requested other request ∈ events ++ [event] →
      request.known? ≠ some .announce) :
    Alike id apart left ((reached config events).after event) := by
  rcases linkFailed_or_apart aside with ⟨failing, rfl, other⟩ | ⟨actor, acting, bystander⟩
  · exact alike.failed other
  · exact alike.bystander own acting bystander fun request => quiet actor request bystander

/-! ## What is due does not change -/

theorem dueOf?_pushed (relay : Relay) (id : SessionId) (name : Text) (payload : Bytes)
    (interleaved : Bool) (channel : UInt8) (order : Ordinal) :
    relay.dueOf? id (.pushed name payload interleaved channel order) =
      if id ∈ (relay.channelAt name).subscribers then
        ((relay.session? id).filter fun session => session.negotiation.isPlaying).map
          fun session => (session, ⟨payload.take maxPayload, (payload.take maxPayload).length,
            interleaved, channel, order⟩)
      else
        none := by
  cases found : relay.registry.get? name with
  | none => simp [dueOf?, pushOf?, channelAt, found, Channel.vacant]
  | some target =>
      simp only [dueOf?, pushOf?, channelAt, found, Option.map_some, Option.getD_some]
      by_cases member : id ∈ target.subscribers <;> simp [Option.filter, member]

theorem Alike.dueOf?_eq (alike : Alike id apart left right) (own : apart id = false)
    (dry : ∀ source half payload, event ≠ .received source half payload) :
    left.dueOf? id event = right.dueOf? id event := by
  cases event with
  | pushed name payload interleaved channel order =>
      rw [dueOf?_pushed, dueOf?_pushed, alike.watched]
      simp only [(alike.channels name).subscribers id own]
  | received source half payload => exact (dry source half payload rfl).elim
  | _ => rfl

theorem dueOf?_of_not_matters {relay : Relay} (aside : event.matters id apart = false) :
    relay.dueOf? id event = none := by
  cases event with
  | pushed _ _ _ _ _ => exact nomatch aside
  | received _ _ _ => exact nomatch aside
  | _ => rfl

/-- Events that do not matter may be left out. -/
theorem due_without (own : apart id = false)
    (alike : Alike id apart (reached config kept) (reached config earlier))
    (quiet : ∀ other request, apart other = true → .requested other request ∈ earlier ++ events →
      request.known? ≠ some .announce)
    (dry : ∀ source half payload, .received source half payload ∉ events) :
    (reached config kept).due id (events.filter (Event.matters id apart)) =
      (reached config earlier).due id events := by
  induction events generalizing kept earlier with
  | nil => rfl
  | cons event events ih =>
      have calm (source : Address) (half : Half) (payload : Bytes) :
          event ≠ .received source half payload := fun same =>
        dry source half payload (same ▸ List.mem_cons_self)
      have later : ∀ source half payload, .received source half payload ∉ events :=
        fun source half payload member => dry source half payload (List.mem_cons_of_mem _ member)
      have onwards : earlier ++ event :: events = earlier ++ [event] ++ events := by simp
      rw [onwards] at quiet
      rw [due, ← reached_concat]
      cases matters : event.matters id apart with
      | true =>
          have next := alike.after_matters matters calm
          rw [← reached_concat, ← reached_concat] at next
          rw [List.filter_cons_of_pos matters, due, ← reached_concat, alike.dueOf?_eq own calm,
            ih next quiet later]
      | false =>
          have next := alike.without own matters fun other request aside member =>
            quiet other request aside (List.mem_append_left _ member)
          rw [← reached_concat] at next
          rw [List.filter_cons_of_neg (by simp [matters]), dueOf?_of_not_matters matters,
            ih next quiet later]
          rfl

/-- **Fan-out delivers the right history.** In the course of a run a session is sent just what the
packages come to that are pushed into a channel while it subscribes to the channel and plays: in
order, each of them once and with what the session had negotiated then. None of them is lost to a
link that has failed unless the session's own has. Nor does it matter which sessions stand by, or
whose other links fail. -/
theorem fan_out (config : RelayConfig) (events : List Event) (id : SessionId) :
    (new config).sentTo id events =
      ((new config).due id events).filterMap (fun due => due.1.parcel? due.2) ∧
    (.linkFailed id ∉ events → ∀ due ∈ (new config).due id events, due.1.linkOpen = true) ∧
    ∀ apart : SessionId → Bool, apart id = false →
      (∀ other request, apart other = true → .requested other request ∈ events →
        request.known? ≠ some .announce) →
      (∀ source half payload, .received source half payload ∉ events) →
      (new config).sentTo id (events.filter (Event.matters id apart)) =
        (new config).sentTo id events := by
  have told (events : List Event) := sentTo_eq_due config [] events id
  refine ⟨told events, fun unfailed due owed => ?_, fun apart own quiet dry => ?_⟩
  · have linked : (new config).Linked id := fun session found => nomatch found
    exact linkOpen_of_mem_due linked unfailed owed
  · have alike : Alike id apart (reached config []) (reached config []) :=
      ⟨rfl, rfl, rfl, fun _ _ => rfl, fun _ => .refl apart _⟩
    have same := due_without own alike (by simpa using quiet) dry
    have sent := told (events.filter (Event.matters id apart))
    rw [same, ← told events] at sent
    exact sent

end Relay

namespace Sample

def passer : SessionId := "c".toList

/-- A payload is put into the channel that the viewer may watch. -/
def push (payload : Bytes) : Event := .pushed "cam".toList payload true 0 0

/-- A viewer plays, pauses and plays again, while another one plays and loses its link. -/
def watching : List Event :=
  [.opened recorder address, .requested recorder announceOne, .opened viewer distant,
    .opened passer distant, .requested viewer viewFrames, .requested passer viewFrames, push [6],
    .requested passer (plain .play), .requested viewer (plain .play), .linkFailed passer, push [7],
    .requested viewer (plain .pause), push [8], .requested viewer (plain .play), push [9],
    .closed passer]

end Sample

namespace Relay

set_option maxRecDepth 100000 in
/-- The viewer is sent the second and the last package, as it would be without the other one. -/
theorem fan_out_viewer :
    (new {}).sentTo Sample.viewer Sample.watching =
      [.written [Frame.marker, 2, 0, 1, 7], .written [Frame.marker, 2, 0, 1, 9]] ∧
    (new {}).sentTo Sample.viewer
        (Sample.watching.filter (Event.matters Sample.viewer fun other => other = Sample.passer)) =
      (new {}).sentTo Sample.viewer Sample.watching := by
  have calm : (Sample.watching.all fun event => match event with
      | .requested other request => other ≠ Sample.passer || request.known? ≠ some .announce
      | .received .. => false
      | _ => true) = true := by decide +kernel
  refine ⟨by decide +kernel, (fan_out {} Sample.watching Sample.viewer).2.2 _ ?_ ?_ ?_⟩
  · decide
  · intro other request aside member known
    have spared := List.all_eq_true.mp calm _ member
    simp [of_decide_eq_true aside, known] at spared
  · intro source half payload member
    exact nomatch List.all_eq_true.mp calm _ member

end Relay

end MediaRelay
