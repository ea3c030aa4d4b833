import MediaRelay.Proofs.Relay.Framing
import MediaRelay.Proofs.Relay.Lookups
import Mathlib.Data.List.Infix
import Mathlib.Data.List.Nodup

/-! # Which media a ready session has set up

A session becomes ready when every control that its channel describes is set up, and a control
stands for the first medium that it names. So a session that became ready has a medium with the
ordinal of a section exactly if no earlier section has the same control, and the media of all
sections exactly if no two of them share a control (`Relay.covers_when_ready`).
-/

namespace MediaRelay

namespace Description

variable {description : Description} {control : Text} {index : Nat}

theorem position?_eq_some_iff : description.position? control = some index ↔
    description.controls[index]? = some control ∧
      ∀ earlier < index, description.controls[earlier]? ≠ some control := by
  unfold position?
  rw [List.findIdx?_eq_some_iff_getElem]
  simp only [decide_eq_true_eq]
  constructor
  · rintro ⟨inside, here, first⟩
    refine ⟨List.getElem?_eq_some_iff.mpr ⟨inside, here⟩, fun earlier before listed => ?_⟩
    exact first earlier before (List.getElem?_eq_some_iff.mp listed).2
  · rintro ⟨listed, first⟩
    obtain ⟨inside, here⟩ := List.getElem?_eq_some_iff.mp listed
    refine ⟨inside, here, fun earlier before same => first earlier before ?_⟩
    exact List.getElem?_eq_some_iff.mpr ⟨Nat.lt_trans before inside, same⟩

/-- Every control that is listed has a first place. -/
theorem exists_position? (listed : description.controls[index]? = some control) :
    ∃ first, description.position? control = some first ∧ first ≤ index := by
  obtain ⟨inside, here⟩ := List.getElem?_eq_some_iff.mp listed
  cases placed : description.position? control with
  | none =>
      have absent := List.findIdx?_eq_none_iff.mp placed control
        (List.mem_of_getElem? listed)
      simp at absent
  | some first =>
      refine ⟨first, rfl, Nat.le_of_not_lt fun later => ?_⟩
      exact (position?_eq_some_iff.mp placed).2 index later listed

/-- A description tells its media apart if every place is the first one of its control. -/
theorem nodup_controls_iff : description.controls.Nodup ↔
    ∀ index control, description.controls[index]? = some control →
      description.position? control = some index := by
  rw [List.nodup_iff_getElem?_ne_getElem?]
  constructor
  · intro distinct index control listed
    refine position?_eq_some_iff.mpr ⟨listed, fun earlier before same => ?_⟩
    have inside := (List.getElem?_eq_some_iff.mp listed).1
    exact distinct earlier index before inside (same.trans listed.symm)
  · intro placed earlier later before inside same
    have listed := List.getElem?_eq_getElem inside
    exact (position?_eq_some_iff.mp (placed later _ listed)).2 earlier before (same.trans listed)

end Description

namespace Negotiation

/-- A medium with an ordinal is set up. -/
def HasOrdinal (negotiation : Negotiation) (index : Nat) : Prop :=
  ∃ media ∈ negotiation.media.values, media.ordinal = .ofNat index

instance (negotiation : Negotiation) (index : Nat) : Decidable (negotiation.HasOrdinal index) :=
  inferInstanceAs (Decidable (∃ media ∈ negotiation.media.values, media.ordinal = .ofNat index))

/-- Every medium has the ordinal of the first section with its control. -/
def Placed (negotiation : Negotiation) (description : Description) : Prop :=
  ∀ control media, negotiation.media.get? control = some media →
    ∃ first, description.position? control = some first ∧ media.ordinal = .ofNat first

variable {negotiation changed : Negotiation} {description : Description} {control : Text}
  {index : Nat}

theorem placed_of_nil (empty : negotiation.media.entries = []) :
    negotiation.Placed description := by
  intro control media listed
  have member := (Table.mem_entries_iff ..).mpr listed
  rw [empty] at member
  exact nomatch member

theorem Placed.congr (placed : negotiation.Placed description)
    (same : changed.media = negotiation.media) : changed.Placed description := by
  rw [Placed, same]
  exact placed

theorem Placed.set {first : Nat} {media : Media} (placed : negotiation.Placed description)
    (place : description.position? control = some first) (ordinal : media.ordinal = .ofNat first)
    (held : changed.media = negotiation.media.set control media) : changed.Placed description := by
  intro other medium listed
  rw [held, Table.get?_set] at listed
  split at listed
  · rename_i same
    obtain rfl := Option.some.inj listed
    exact ⟨first, same ▸ place, ordinal⟩
  · exact placed other medium listed

/-- A control that is set up has the ordinal of its first section. -/
theorem Placed.hasOrdinal (placed : negotiation.Placed description)
    (held : (negotiation.media.get? control).isSome = true)
    (first : description.position? control = some index) : negotiation.HasOrdinal index := by
  obtain ⟨media, present⟩ := Option.isSome_iff_exists.mp held
  obtain ⟨place, positioned, ordinal⟩ := placed control media present
  obtain rfl := Option.some.inj (positioned.symm.trans first)
  exact ⟨media, (Table.mem_values_iff ..).mpr ⟨control, present⟩, ordinal⟩

/-- As long as ordinals suffice, no other section has its ordinal set up. -/
theorem Placed.position?_of_hasOrdinal (placed : negotiation.Placed description)
    (few : description.controls.length ≤ UInt64.size)
    (listed : description.controls[index]? = some control) (has : negotiation.HasOrdinal index) :
    description.position? control = some index := by
  obtain ⟨media, member, ordinal⟩ := has
  obtain ⟨other, present⟩ := (Table.mem_values_iff ..).mp member
  obtain ⟨first, positioned, same⟩ := placed other media present
  have named := (Description.position?_eq_some_iff.mp positioned).1
  have small := (List.getElem?_eq_some_iff.mp listed).1
  have small' := (List.getElem?_eq_some_iff.mp named).1
  have value := congrArg UInt64.toNat (same.symm.trans ordinal)
  rw [UInt64.toNat_ofNat_of_lt' (by omega), UInt64.toNat_ofNat_of_lt' (by omega)] at value
  obtain rfl : first = index := value
  obtain rfl := Option.some.inj (named.symm.trans listed)
  exact positioned

end Negotiation

namespace Relay

variable {config : RelayConfig} {before during : List Event} {event : Event} {id : SessionId}
  {name : Text} {description : Description} {relay : Relay} {request : Request}
  {plan : Handler.SetupPlan} {session later : Session}

/-! ## What is set up -/

/-- A set-up takes its medium from the first section with the control. -/
theorem position?_of_setupPlan (planned : Handler.setupPlan relay request = .ok plan) :
    plan.description.position? plan.control = some plan.ordinal := by
  obtain ⟨_, _, _, placed, listed⟩ := setupPlan_ok planned
  unfold Handler.position? at placed
  rcases Option.or_eq_some_iff.mp placed with found | ⟨_, bare⟩
  · have named := (Description.position?_eq_some_iff.mp found).1
    rwa [Option.some.inj (named.symm.trans listed)] at found
  · split at bare
    · obtain same := Option.some.inj bare
      rw [← same] at listed ⊢
      exact Description.position?_eq_some_iff.mpr ⟨listed, fun _ none => nomatch none⟩
    · exact nomatch bare

theorem exists_request_of_setUp? (told : relay.setUp? id event = some plan) :
    ∃ request, Handler.setupPlan relay request = .ok plan := by
  unfold setUp? at told
  split at told
  · rename_i actor request
    obtain ⟨_, told⟩ := Option.ite_none_right_eq_some.mp told
    obtain ⟨session, _, told⟩ := Option.bind_eq_some_iff.mp told
    obtain ⟨_, told⟩ := Option.ite_none_right_eq_some.mp told
    exact ⟨request, toOption_eq_some_iff.mp (Option.filter_eq_some_iff.mp told).1⟩
  · exact nomatch told

/-- What an event makes of the media under a description that stands: if the session is bound to the
channel afterwards, its media are placed as before. -/
theorem Renegotiates.placed {negotiation changed : Negotiation}
    (step : relay.Renegotiates id event negotiation changed)
    (settled : negotiation.Settled)
    (stands : (relay.channelAt name).description = some description)
    (placed : negotiation.channel = some name → negotiation.Placed description)
    (bound : changed.channel = some name) : changed.Placed description := by
  -- A session that may be bound to the channel is bound to it already or has no media.
  have earlier (free : negotiation.mayBind name = true) : negotiation.Placed description := by
    by_cases equipped : negotiation.media.entries = []
    · exact Negotiation.placed_of_nil equipped
    · obtain ⟨current, named⟩ := Option.isSome_iff_exists.mp (settled.bound equipped)
      exact placed (Negotiation.mayBind_iff.mp free current named ▸ named)
  cases step with
  | same _ => exact placed bound
  | bound _ free =>
      obtain rfl := Option.some.inj bound
      exact (earlier free).congr rfl
  | @setUp plan media told free _ asked _ =>
      obtain ⟨request, planned⟩ := exists_request_of_setUp? told
      obtain ⟨_, _, ⟨channel, registered, described⟩, _⟩ := setupPlan_ok planned
      rw [Negotiation.channel_settle] at bound
      obtain rfl : plan.name = name := Option.some.inj bound
      rw [channelAt_of_found registered, described] at stands
      obtain rfl : plan.description = description := Option.some.inj stands
      have place := position?_of_setupPlan planned
      exact (earlier free).set place (Media.ordinal_of_ofTransport? asked)
        (Negotiation.media_settle _ _)
  | started _ _ _ _ _ => exact (placed bound).congr rfl
  | paused _ =>
      refine (placed ?_).congr (Negotiation.media_pause negotiation)
      unfold Negotiation.pause at bound
      split at bound <;> exact bound
  | cleared _ => exact nomatch bound

/-- The channel describes the same media throughout a part of a run. -/
def Stands (config : RelayConfig) (before during : List Event) (name : Text)
    (description : Description) : Prop :=
  ∀ earlier, earlier <+: during →
    ((reached config (before ++ earlier)).channelAt name).description = some description

/-- By induction on the events under the description. -/
theorem placed_reached (stands : Stands config before during name description)
    (unequipped : ∀ session, (reached config before).session? id = some session →
      session.negotiation.media.entries = [])
    (found : (reached config (before ++ during)).session? id = some session)
    (bound : session.negotiation.channel = some name) :
    session.negotiation.Placed description := by
  induction during using List.reverseRecOn generalizing session with
  | nil =>
      rw [List.append_nil] at found
      exact Negotiation.placed_of_nil (unequipped session found)
  | append_singleton during event ih =>
      have prior : Stands config before during name description :=
        fun earlier first => stands earlier (first.trans (List.prefix_append ..))
      have identified := identified_reached config (before ++ during)
      have coherent := coherent_reached config (before ++ during)
      rw [← List.append_assoc, reached_concat] at found
      cases held : (reached config (before ++ during)).session? id with
      | none =>
          rw [negotiation_of_absent identified coherent held found] at bound
          exact nomatch bound
      | some previous =>
          have step := renegotiates_after identified coherent held found
          exact step.placed (coherent.agrees id previous held).settled
            (stands during (List.prefix_append ..)) (ih prior held) bound

/-- A session becomes ready by a set-up that completes the media of its channel. -/
theorem Renegotiates.covered {negotiation changed : Negotiation}
    (step : relay.Renegotiates id event negotiation changed)
    (stands : (relay.channelAt name).description = some description)
    (fresh : negotiation.state = .init) (ready : changed.state = .ready)
    (bound : changed.channel = some name) :
    ∀ control ∈ description.controls, (changed.media.get? control).isSome = true := by
  have unready : negotiation.state ≠ .ready := by
    rw [fresh]
    decide
  cases step with
  | same _ => exact (unready ready).elim
  | bound _ _ => exact (unready ready).elim
  | @setUp plan media told _ _ _ _ =>
      obtain ⟨request, planned⟩ := exists_request_of_setUp? told
      obtain ⟨_, _, ⟨channel, registered, described⟩, _⟩ := setupPlan_ok planned
      rw [Negotiation.channel_settle] at bound
      obtain rfl : plan.name = name := Option.some.inj bound
      rw [channelAt_of_found registered, described] at stands
      obtain rfl : plan.description = description := Option.some.inj stands
      rw [← Negotiation.covers_iff, Negotiation.covers, Negotiation.media_settle]
      exact Negotiation.covers_of_settle unready ready
  | @started direction _ _ _ _ _ _ _ _ => cases direction <;> cases ready
  | paused _ =>
      rw [Negotiation.pause, if_neg (by rw [fresh]; decide)] at ready
      exact (unready ready).elim
  | cleared _ => cases ready

/-- **The media of a session that becomes ready.** Every control of the description has the medium
of its first section, so the session has a medium with the ordinal of a section if and only if the
section is the first with its control. It has media with the ordinals of all sections if and only if
they have different controls. -/
theorem covers_when_ready (stands : Stands config before during name description)
    (unequipped : ∀ session, (reached config before).session? id = some session →
      session.negotiation.media.entries = [])
    (found : (reached config (before ++ during)).session? id = some session)
    (fresh : session.negotiation.state = .init)
    (left : ((reached config (before ++ during)).after event).session? id = some later)
    (ready : later.negotiation.state = .ready) (bound : later.negotiation.channel = some name) :
    (∀ index control, description.controls[index]? = some control →
      (later.negotiation.media.get? control).isSome = true ∧
        ∃ first ≤ index, description.position? control = some first ∧
          later.negotiation.HasOrdinal first) ∧
    (description.controls.length ≤ UInt64.size →
      ∀ index control, description.controls[index]? = some control →
        (later.negotiation.HasOrdinal index ↔ description.position? control = some index)) ∧
    (description.controls.Nodup →
      ∀ index < description.controls.length, later.negotiation.HasOrdinal index) ∧
    (description.controls.length ≤ UInt64.size →
      (∀ index < description.controls.length, later.negotiation.HasOrdinal index) →
        description.controls.Nodup) := by
  have identified := identified_reached config (before ++ during)
  have coherent := coherent_reached config (before ++ during)
  have standing := stands during List.prefix_rfl
  have step := renegotiates_after identified coherent found left
  have covered := step.covered standing fresh ready bound
  have placed := step.placed (coherent.agrees id session found).settled standing
    (placed_reached stands unequipped found) bound
  have placed_first {control : Text} {index : Nat}
      (place : description.position? control = some index) :
      later.negotiation.HasOrdinal index := by
    have listed := (Description.position?_eq_some_iff.mp place).1
    exact placed.hasOrdinal (covered control (List.mem_of_getElem? listed)) place
  refine ⟨fun index control listed => ?_, fun few index control listed => ?_,
    fun distinct index inside => ?_, fun few all => ?_⟩
  · obtain ⟨first, place, before⟩ := Description.exists_position? listed
    exact ⟨covered control (List.mem_of_getElem? listed), first, before, place, placed_first place⟩
  · exact ⟨placed.position?_of_hasOrdinal few listed, placed_first⟩
  · have listed := List.getElem?_eq_getElem inside
    exact placed_first (Description.nodup_controls_iff.mp distinct index _ listed)
  · refine Description.nodup_controls_iff.mpr fun index control listed => ?_
    have inside := (List.getElem?_eq_some_iff.mp listed).1
    exact placed.position?_of_hasOrdinal few listed (all index inside)

end Relay

namespace Sample

/-- A recorder has described two media. -/
def announced : List Event := [.opened recorder address, .requested recorder announce]

/-- A viewer has set up one of two media. -/
def joined : List Event := [.opened viewer distant, .requested viewer viewFrames]

/-- A description of two media that share the control `t1`. -/
def announceTwins : Request :=
  { announce with
    body := Utf8.encode
      "v=0\nm=video 0 RTP/AVP 96\na=control:t1\nm=audio 0 RTP/AVP 97\na=control:t1\n".toList }

/-- A recorder has described two media that share a control. -/
def announcedTwins : List Event := [.opened recorder address, .requested recorder announceTwins]

end Sample

namespace Relay

set_option maxRecDepth 100000 in
/-- A viewer who has set up both media is ready. -/
theorem covers_when_ready_viewer : ∃ later,
    ((reached Sample.config (Sample.announced ++ Sample.joined)).after
      (.requested Sample.viewer Sample.viewSecond)).session? Sample.viewer = some later ∧
    later.negotiation.state = .ready ∧ ∀ index < 2, later.negotiation.HasOrdinal index := by
  have standing : ∀ earlier ∈ Sample.joined.inits,
      ((reached Sample.config (Sample.announced ++ earlier)).channelAt "cam".toList).description =
        some ⟨[⟨"video".toList, "t1".toList⟩, ⟨"audio".toList, "t2".toList⟩]⟩ := by
    decide +kernel
  have absent : (reached Sample.config Sample.announced).session? Sample.viewer = none := by
    decide +kernel
  have moves : ∃ session ∈ (reached Sample.config
        (Sample.announced ++ Sample.joined)).session? Sample.viewer,
      ∃ later ∈ ((reached Sample.config (Sample.announced ++ Sample.joined)).after
        (.requested Sample.viewer Sample.viewSecond)).session? Sample.viewer,
      session.negotiation.state = .init ∧ later.negotiation.state = .ready ∧
        later.negotiation.channel = some "cam".toList := by
    decide +kernel
  obtain ⟨session, found, later, left, fresh, ready, bound⟩ := moves
  obtain ⟨_, _, distinct, _⟩ := covers_when_ready
    (fun earlier first => standing earlier ((List.mem_inits ..).mpr first))
    (fun session found => nomatch absent.symm.trans found) found fresh left ready bound
  exact ⟨later, left, ready, distinct (by decide)⟩

set_option maxRecDepth 100000 in
/-- Where two media share a control, a viewer is ready without the second one. -/
theorem ready_without_twin :
    ((reached Sample.config Sample.announcedTwins).channelAt "cam".toList).description =
      some ⟨[⟨"video".toList, "t1".toList⟩, ⟨"audio".toList, "t1".toList⟩]⟩ ∧
    ∃ session ∈ (reached Sample.config
        (Sample.announcedTwins ++ [.opened Sample.viewer Sample.distant])).session? Sample.viewer,
      ∃ later ∈ ((reached Sample.config
        (Sample.announcedTwins ++ [.opened Sample.viewer Sample.distant])).after
          (.requested Sample.viewer Sample.viewFrames)).session? Sample.viewer,
      session.negotiation.state = .init ∧ later.negotiation.state = .ready ∧
        later.negotiation.channel = some "cam".toList ∧ ¬ later.negotiation.HasOrdinal 1 := by
  decide +kernel

end Relay

end MediaRelay
