import MediaRelay.Proofs.Relay.Locality

/-! # Requests in either order

Two sessions that touch no channel in common are nothing to each other. Whichever is served first,
the other one sees what it saw before, so both get the same replies, and in the end the sessions and
the channels are the same (`Relay.requests_commute`). Only the identities of new channels tell who
came first.
-/

namespace MediaRelay

namespace Relay

/-- Two open sessions that touch no channel in common by their requests. -/
structure Apart (relay : Relay) (first second : Session) (asked asking : Request) : Prop where
  found : relay.session? first.id = some first
  listed : relay.session? second.id = some second
  different : first.id ≠ second.id
  disjoint : ∀ name, relay.Touches first asked name → ¬ relay.Touches second asking name

/-- Two relays that hold the same, in whatever order their channels were registered. -/
structure Matches (left right : Relay) : Prop where
  surroundings : left.surroundings = right.surroundings
  sessions : ∀ id, left.session? id = right.session? id
  channels : ∀ name, left.registry.get? name = right.registry.get? name

/-- Two events may come in either order: each is answered as if it came alone, they leave the same
behind, and what was registered before keeps its identity in both or in none. -/
structure EitherOrder (relay : Relay) (first second : Event) : Prop where
  firstReply : (relay.after second).reply? first = relay.reply? first
  secondReply : (relay.after first).reply? second = relay.reply? second
  leaves : ((relay.after first).after second).Matches ((relay.after second).after first)
  identities : ∀ name, (relay.registry.idOf? name).isSome = true →
    ((relay.after first).after second).registry.idOf? name =
      ((relay.after second).after first).registry.idOf? name

variable {config : RelayConfig} {events : List Event} {first second : Session}
  {asked asking : Request} {touched : Text → Prop} {id : SessionId} {name : Text}

theorem Apart.symm {relay : Relay} (apart : relay.Apart first second asked asking) :
    relay.Apart second first asking asked where
  found := apart.listed
  listed := apart.found
  different := apart.different.symm
  disjoint := by
    intro name touches touches'
    exact apart.disjoint name touches' touches

/-! ## One after the other -/

theorem reached_pair (config : RelayConfig) (events : List Event) (former latter : Event) :
    reached config (events ++ [former, latter]) =
      (reached config (events ++ [former])).after latter := by
  rw [← reached_concat, List.append_assoc, List.singleton_append]

/-- Whoever touches none of the channels of the first session sees nothing of its request. -/
theorem Apart.sameView_first (apart : (reached config events).Apart first second asked asking)
    (other : id ≠ first.id)
    (untouched : ∀ name, touched name → ¬ (reached config events).Touches first asked name) :
    SameView touched id (reached config events)
      (reached config (events ++ [.requested first.id asked])) := by
  rw [reached_concat]
  exact sameView_after (telling_reached config events) (coherent_reached config events) apart.found
    other untouched

/-- The same holds of the second session once the first one has been served. -/
theorem Apart.sameView_second (apart : (reached config events).Apart first second asked asking)
    (other : id ≠ second.id)
    (untouched : ∀ name, touched name → ¬ (reached config events).Touches second asking name) :
    SameView touched id (reached config (events ++ [.requested first.id asked]))
      (reached config (events ++ [.requested first.id asked, .requested second.id asking])) := by
  -- It touches then what it would have touched before.
  have seen : SameView (fun _ => False) second.id (reached config events)
      (reached config (events ++ [.requested first.id asked])) :=
    apart.sameView_first apart.different.symm fun _ touches => touches.elim
  have same := defaultChannel_of_surroundings seen.surroundings.symm
  rw [reached_pair]
  apply sameView_after (telling_reached config _) (coherent_reached config _)
    (seen.session.symm.trans apart.listed) other
  intro name touches
  rw [touches_congr same]
  exact untouched name touches

/-- What a channel that the first session does not touch looks like to the second one. -/
theorem Apart.beside_first (apart : (reached config events).Apart first second asked asking)
    (untouched : ¬ (reached config events).Touches first asked name) :
    SameView (fun other => other = name) second.id (reached config events)
      (reached config (events ++ [.requested first.id asked])) := by
  apply apart.sameView_first apart.different.symm
  rintro other rfl
  exact untouched

theorem Apart.beside_second (apart : (reached config events).Apart first second asked asking)
    (untouched : ¬ (reached config events).Touches second asking name) :
    SameView (fun other => other = name) first.id
      (reached config (events ++ [.requested first.id asked]))
      (reached config (events ++ [.requested first.id asked, .requested second.id asking])) := by
  apply apart.sameView_second apart.different
  rintro other rfl
  exact untouched

theorem quiet_concat (free : ∀ event ∈ events, event.keepsChannels = false) (id : SessionId)
    (request : Request) :
    ∀ event ∈ events ++ [.requested id request], event.keepsChannels = false := by
  intro event member
  rcases List.mem_append.mp member with earlier | last
  · exact free event earlier
  · rw [List.mem_singleton.mp last]
    rfl

theorem tidy_requested (free : ∀ event ∈ events, event.keepsChannels = false) (id : SessionId)
    (request : Request) : (reached config (events ++ [.requested id request])).Tidy :=
  tidy_reached config (quiet_concat free id request)

theorem tidy_both (free : ∀ event ∈ events, event.keepsChannels = false) (first second : SessionId)
    (asked asking : Request) :
    (reached config (events ++ [.requested first asked, .requested second asking])).Tidy := by
  rw [List.append_cons]
  exact tidy_requested (quiet_concat free first asked) second asking

/-! ## Either way -/

/-- It makes no difference to a session whether the other one is served before or after it. -/
theorem Apart.either_way (apart : (reached config events).Apart first second asked asking)
    (free : ∀ event ∈ events, event.keepsChannels = false) :
    (reached config (events ++ [.requested second.id asking])).reply? (.requested first.id asked) =
        (reached config events).reply? (.requested first.id asked) ∧
      SameView ((reached config events).Touches first asked) first.id
        (reached config (events ++ [.requested first.id asked, .requested second.id asking]))
        (reached config (events ++ [.requested second.id asking, .requested first.id asked])) := by
  have before := apart.symm.sameView_first apart.different apart.disjoint
  obtain ⟨reply, after⟩ := before.requested (tidy_reached config free) (tidy_requested free _ _)
    (telling_reached config events) (telling_reached config _) apart.found
    fun name touches => touches
  refine ⟨reply, ?_⟩
  rw [← reached_concat, ← reached_pair] at after
  exact (apart.sameView_second apart.different apart.disjoint).symm.trans after

/-- Two requests change no channel that neither of their sessions touches. -/
theorem Apart.channelAt_eq (apart : (reached config events).Apart first second asked asking)
    (untouched : ¬ (reached config events).Touches first asked name)
    (untouched' : ¬ (reached config events).Touches second asking name) :
    (reached config (events ++ [.requested first.id asked, .requested second.id asking])).channelAt
      name = (reached config events).channelAt name := by
  rw [← (apart.beside_second untouched').channels name rfl,
    ← (apart.beside_first untouched).channels name rfl]

/-- Every channel is touched by at most one of two sessions and so left the same either way. -/
theorem Apart.leaves (apart : (reached config events).Apart first second asked asking)
    (free : ∀ event ∈ events, event.keepsChannels = false) :
    (reached config (events ++ [.requested first.id asked, .requested second.id asking])).Matches
      (reached config (events ++ [.requested second.id asking, .requested first.id asked])) where
  surroundings := (apart.either_way free).2.surroundings
  sessions := by
    intro id
    by_cases same : id = first.id
    · rw [same]
      exact (apart.either_way free).2.session
    · by_cases same' : id = second.id
      · rw [same']
        exact (apart.symm.either_way free).2.session.symm
      · have stays (former latter : Event) (other : former.actor? ≠ some id)
            (other' : latter.actor? ≠ some id) :
            (reached config (events ++ [former, latter])).session? id =
              (reached config events).session? id := by
          rw [reached_append]
          apply (keeps_afterAll (identified_reached config events) _).session
          simpa using ⟨other, other'⟩
        have quiet : (Event.requested first.id asked).actor? ≠ some id :=
          fun acting => same (Option.some.inj acting).symm
        have quiet' : (Event.requested second.id asking).actor? ≠ some id :=
          fun acting => same' (Option.some.inj acting).symm
        rw [stays _ _ quiet quiet', stays _ _ quiet' quiet]
  channels := by
    intro name
    apply (tidy_both free _ _ _ _).get?_eq (tidy_both free _ _ _ _)
      (defaultChannel_of_surroundings (apart.either_way free).2.surroundings)
    by_cases touched : (reached config events).Touches first asked name
    · exact (apart.either_way free).2.channels name touched
    · by_cases touched' : (reached config events).Touches second asking name
      · exact ((apart.symm.either_way free).2.channels name touched').symm
      · rw [apart.channelAt_eq touched touched', apart.symm.channelAt_eq touched' touched]

/-- A name that is registered keeps its identity through both requests, or loses its channel. -/
theorem Apart.idOf?_cases (apart : (reached config events).Apart first second asked asking)
    (free : ∀ event ∈ events, event.keepsChannels = false) {channelId : ChannelId}
    (means : (reached config events).registry.idOf? name = some channelId) :
    (reached config (events ++
        [.requested first.id asked, .requested second.id asking])).registry.idOf? name =
          some channelId ∨
      (reached config (events ++
        [.requested first.id asked, .requested second.id asking])).registry.idOf? name = none := by
  rcases idOf?_after_cases (identified_reached config events) (.requested first.id asked) means with
    kept | lost
  · rw [← reached_concat] at kept
    rw [reached_pair]
    exact idOf?_after_cases (identified_reached config _) (.requested second.id asking) kept
  · -- The first request has retired the channel, so it touches it and the second one does not.
    rw [← reached_concat] at lost
    have touched : (reached config events).Touches first asked name := by
      by_contra untouched
      have same := (apart.beside_first untouched).get?_eq (tidy_reached config free)
        (tidy_requested free _ _) rfl
      rw [Registry.get?_eq_none_iff.mpr lost, Registry.get?_eq_none_iff, means] at same
      exact nomatch same
    have same := (apart.beside_second (apart.disjoint name touched)).get?_eq
      (tidy_requested free _ _) (tidy_both free _ _ _ _) rfl
    rw [Registry.get?_eq_none_iff.mpr lost] at same
    exact .inr (Registry.get?_eq_none_iff.mp same.symm)

/-- **Requests about different channels commute**, in all that is reached without keeping channels
from outside. -/
theorem requests_commute (free : ∀ event ∈ events, event.keepsChannels = false)
    (apart : (reached config events).Apart first second asked asking) :
    (reached config events).EitherOrder (.requested first.id asked)
      (.requested second.id asking) where
  firstReply := by
    rw [← reached_concat]
    exact (apart.either_way free).1
  secondReply := by
    rw [← reached_concat]
    exact (apart.symm.either_way free).1
  leaves := by
    rw [← reached_concat, ← reached_pair, ← reached_concat, ← reached_pair]
    exact apart.leaves free
  identities := by
    intro name registered
    obtain ⟨channelId, means⟩ := Option.isSome_iff_exists.mp registered
    have same := (apart.leaves free).channels name
    rw [← reached_concat, ← reached_pair, ← reached_concat, ← reached_pair]
    rcases apart.idOf?_cases free means with kept | lost
    · rcases apart.symm.idOf?_cases free means with kept' | lost
      · exact kept.trans kept'.symm
      · rw [Registry.get?_eq_none_iff.mpr lost, Registry.get?_eq_none_iff, kept] at same
        exact nomatch same
    · rw [Registry.get?_eq_none_iff.mpr lost] at same
      exact lost.trans (Registry.get?_eq_none_iff.mp same.symm).symm

end Relay

namespace Sample

/-- The recorder has a channel of its own, and a viewer has none yet. -/
def neighbours : List Event :=
  [.opened recorder address, .opened viewer distant, .requested recorder announce]

/-- An announcement of another channel. -/
def announceElsewhere : Request := { announce with uri := "/door".toList }

end Sample

namespace Relay

set_option maxRecDepth 100000 in
/-- One session leaves its channel, which is retired, while another one registers a new channel. -/
theorem requests_commute_neighbours :
    ∃ first second, first.id = Sample.recorder ∧ second.id = Sample.viewer ∧
      (∀ event ∈ Sample.neighbours, event.keepsChannels = false) ∧
      (reached Sample.config Sample.neighbours).Apart first second (Sample.plain .teardown)
        Sample.announceElsewhere ∧
      (reached Sample.config Sample.neighbours).EitherOrder
        (.requested first.id (Sample.plain .teardown))
        (.requested second.id Sample.announceElsewhere) := by
  have bound : ((reached Sample.config Sample.neighbours).session? Sample.recorder).map
      (fun session => (session.id, session.negotiation.channel)) =
        some (Sample.recorder, some "cam".toList) := by decide +kernel
  have unbound : ((reached Sample.config Sample.neighbours).session? Sample.viewer).map
      (fun session => (session.id, session.negotiation.channel)) = some (Sample.viewer, none) := by
    decide +kernel
  obtain ⟨first, found, bound⟩ := Option.map_eq_some_iff.mp bound
  obtain ⟨second, listed, unbound⟩ := Option.map_eq_some_iff.mp unbound
  obtain ⟨named, bound⟩ := Prod.mk.inj bound
  obtain ⟨named', unbound⟩ := Prod.mk.inj unbound
  have cam : (reached Sample.config Sample.neighbours).channelName (Sample.plain .teardown).uri =
      .ok "cam".toList := by decide +kernel
  have door : (reached Sample.config Sample.neighbours).channelName Sample.announceElsewhere.uri =
      .ok "door".toList := by decide +kernel
  have free : ∀ event ∈ Sample.neighbours, event.keepsChannels = false := by decide
  have apart : (reached Sample.config Sample.neighbours).Apart first second (Sample.plain .teardown)
      Sample.announceElsewhere := by
    refine ⟨named ▸ found, named' ▸ listed, ?_, ?_⟩
    · rw [named, named']
      decide
    · intro name touches touches'
      simp only [Touches, bound, unbound, cam, door, Option.some.injEq, Except.ok.injEq, or_self,
        reduceCtorEq, false_or] at touches touches'
      rw [← touches] at touches'
      exact absurd touches' (by decide)
  exact ⟨first, second, named, named', free, apart, requests_commute free apart⟩

end Relay

end MediaRelay
