import MediaRelay.Proofs.Relay.SetUps

/-! # Looking up media

Where a package goes and which medium a packet belongs to is looked up among the media of a session,
and the first that fits is taken. The media are kept by their controls and in no particular order:
what is found is the same in every order exactly if all media that fit agree
(`find?_elim_perm_iff`). Nothing keeps clients from asking for one pair twice, so this depends on
what they asked for. Ordinals differ as long as the media were set up under descriptions that list
the same controls (`Relay.lookups_reached`).
-/

namespace MediaRelay

/-- The first element that fits is the same in every order if and only if all that fit agree. -/
theorem find?_elim_perm_iff {α β : Type} {fits : α → Bool} {found : α → β} {missing : β}
    {listed : List α} :
    (∀ other : List α, other.Perm listed →
      (other.find? fits).elim missing found = (listed.find? fits).elim missing found) ↔
      ∀ first ∈ listed, ∀ second ∈ listed, fits first = true → fits second = true →
        found first = found second := by
  constructor
  · intro same
    -- Each that fits is found in the order that begins with it.
    have leading {first : α} (member : first ∈ listed) (fit : fits first = true) :
        found first = (listed.find? fits).elim missing found := by
      obtain ⟨before, behind, rfl⟩ := List.append_of_mem member
      have moved := same (first :: (before ++ behind)) List.perm_middle.symm
      rwa [List.find?_cons_of_pos fit, Option.elim_some] at moved
    intro first member second member' fit fit'
    exact (leading member fit).trans (leading member' fit').symm
  · intro agree other perm
    cases here : listed.find? fits with
    | none =>
        have none_fits : other.find? fits = none := by
          rw [List.find?_eq_none] at here ⊢
          exact fun element member => here element (perm.mem_iff.mp member)
        rw [none_fits]
    | some second =>
        have fit' := List.find?_some here
        have present : (other.find? fits).isSome = true :=
          List.find?_isSome.mpr ⟨second, perm.mem_iff.mpr (List.mem_of_find?_eq_some here), fit'⟩
        obtain ⟨first, there⟩ := Option.isSome_iff_exists.mp present
        rw [there]
        exact agree first (perm.mem_iff.mp (List.mem_of_find?_eq_some there)) second
          (List.mem_of_find?_eq_some here) (List.find?_some there) fit'

namespace Media

variable {listed : List Media}

theorem ordinal_of_ofTransport? {ordinal : Ordinal} {transport : Transport} {media : Media}
    (asked : ofTransport? ordinal transport = some media) : media.ordinal = ordinal := by
  unfold ofTransport? at asked
  split at asked
  · obtain ⟨_, _, rfl⟩ := Option.map_eq_some_iff.mp asked
    rfl
  · obtain ⟨_, _, rfl⟩ := Option.map_eq_some_iff.mp asked
    rfl

/-- A package leaves a session as the first medium with its ordinal would have it by itself. -/
theorem outlet_eq (listed : List Media) (interleaved : Bool) (package : Package) :
    Outlet.of? listed interleaved package =
      (listed.find? fun media => media.ordinal = package.order).elim
        (Outlet.of? [] interleaved package)
        fun media => Outlet.of? [media] interleaved package := by
  cases found : listed.find? fun media => media.ordinal = package.order with
  | none => simp [Outlet.of?, withOrdinal?, found]
  | some media =>
      have own : media.ordinal = package.order := by simpa using List.find?_some found
      simp [Outlet.of?, withOrdinal?, found, own]

/-- The media with an ordinal decide where its packages go. -/
theorem outlet_perm_iff {interleaved : Bool} {package : Package} :
    (∀ other, other.Perm listed →
      Outlet.of? other interleaved package = Outlet.of? listed interleaved package) ↔
      ∀ first ∈ listed, ∀ second ∈ listed, first.ordinal = package.order →
        second.ordinal = package.order →
          Outlet.of? [first] interleaved package = Outlet.of? [second] interleaved package := by
  have lookup (other : List Media) :
      Outlet.of? other interleaved package = Outlet.of? listed interleaved package ↔
        (other.find? fun media => media.ordinal = package.order).elim
          (Outlet.of? [] interleaved package)
          (fun media => Outlet.of? [media] interleaved package) =
        (listed.find? fun media => media.ordinal = package.order).elim
          (Outlet.of? [] interleaved package)
          fun media => Outlet.of? [media] interleaved package := by
    rw [outlet_eq other, outlet_eq listed]
  simp only [lookup, find?_elim_perm_iff, decide_eq_true_eq]

theorem ordinalForChannel_perm_iff {channel : UInt8} :
    (∀ other, other.Perm listed →
      ordinalForChannel other channel = ordinalForChannel listed channel) ↔
      ∀ first ∈ listed, ∀ second ∈ listed, first.usesChannel channel = true →
        second.usesChannel channel = true → first.ordinal = second.ordinal := by
  have lookup (listed : List Media) : ordinalForChannel listed channel =
      (listed.find? fun media => media.usesChannel channel).elim (Ordinal.split channel).1
        Media.ordinal := by
    unfold ordinalForChannel
    cases listed.find? fun media => media.usesChannel channel <;> rfl
  simp only [lookup]
  exact find?_elim_perm_iff

theorem ordinalForPort?_perm_iff {port : UInt16} :
    (∀ other, other.Perm listed → ordinalForPort? other port = ordinalForPort? listed port) ↔
      ∀ first ∈ listed, ∀ second ∈ listed, first.recordsFrom port = true →
        second.recordsFrom port = true → first.ordinal = second.ordinal := by
  have lookup (listed : List Media) : ordinalForPort? listed port =
      (listed.find? fun media => media.recordsFrom port).elim none fun media =>
        some media.ordinal := by
    unfold ordinalForPort?
    cases listed.find? fun media => media.recordsFrom port <;> rfl
  simp only [lookup, find?_elim_perm_iff, Option.some.injEq]

end Media

namespace Relay

/-- The media of a session were last set up under descriptions that list the same controls, no more
than there are ordinals. -/
def SameControls (negotiation : Negotiation) (plans : List Handler.SetupPlan) : Prop :=
  ∃ controls : List Text, controls.length ≤ UInt64.size ∧
    ∀ control plan, (negotiation.media.get? control).isSome = true →
      Handler.SetupPlan.last? control plans = some plan → plan.description.controls = controls

variable {negotiation : Negotiation} {plans : List Handler.SetupPlan}

/-- Media that were set up under the same controls are told apart by their ordinals. -/
theorem Asked.eq_of_ordinal_eq (asked : Asked negotiation plans)
    (same : SameControls negotiation plans) {first second : Media}
    (listed : first ∈ negotiation.media.values) (listed' : second ∈ negotiation.media.values)
    (ordinal : first.ordinal = second.ordinal) : first = second := by
  obtain ⟨controls, few, under⟩ := same
  obtain ⟨control, held⟩ := (negotiation.media.mem_values_iff first).mp listed
  obtain ⟨control', held'⟩ := (negotiation.media.mem_values_iff second).mp listed'
  obtain ⟨plan, last, stands, told⟩ := asked control first held
  obtain ⟨plan', last', stands', told'⟩ := asked control' second held'
  rw [under control plan (by rw [held]; rfl) last] at stands
  rw [under control' plan' (by rw [held']; rfl) last'] at stands'
  have small := (List.getElem?_eq_some_iff.mp stands).1
  have small' := (List.getElem?_eq_some_iff.mp stands').1
  have position : plan.ordinal = plan'.ordinal := by
    rw [Media.ordinal_of_ofTransport? told, Media.ordinal_of_ofTransport? told'] at ordinal
    have value := congrArg UInt64.toNat ordinal
    rwa [UInt64.toNat_ofNat_of_lt' (by omega), UInt64.toNat_ofNat_of_lt' (by omega)] at value
  rw [position] at stands
  obtain rfl := Option.some.inj (stands.symm.trans stands')
  exact Option.some.inj (held.symm.trans held')

variable {config : RelayConfig} {events : List Event} {id : SessionId} {session : Session}

/-- **When lookups do not depend on the order of the media.** Every medium is as the last set-up of
its control asked. A lookup gives the same in every order if and only if all media that fit agree,
and packages go the same way in every order as long as the set-ups refer to the same controls. -/
theorem lookups_reached (found : (reached config events).session? id = some session) :
    Asked session.negotiation ((new config).setUps id events) ∧
    (∀ package,
      (∀ listed, listed.Perm session.negotiation.media.values →
        Outlet.of? listed session.negotiation.interleaved package =
          session.negotiation.outlet? package) ↔
        ∀ first ∈ session.negotiation.media.values, ∀ second ∈ session.negotiation.media.values,
          first.ordinal = package.order → second.ordinal = package.order →
            Outlet.of? [first] session.negotiation.interleaved package =
              Outlet.of? [second] session.negotiation.interleaved package) ∧
    (∀ channel,
      (∀ listed, listed.Perm session.negotiation.media.values →
        Media.ordinalForChannel listed channel = session.negotiation.ordinalForChannel channel) ↔
        ∀ first ∈ session.negotiation.media.values, ∀ second ∈ session.negotiation.media.values,
          first.usesChannel channel = true → second.usesChannel channel = true →
            first.ordinal = second.ordinal) ∧
    (∀ port,
      (∀ listed, listed.Perm session.negotiation.media.values →
        Media.ordinalForPort? listed port = session.negotiation.ordinalForPort? port) ↔
        ∀ first ∈ session.negotiation.media.values, ∀ second ∈ session.negotiation.media.values,
          first.recordsFrom port = true → second.recordsFrom port = true →
            first.ordinal = second.ordinal) ∧
    (SameControls session.negotiation ((new config).setUps id events) →
      ∀ package listed, listed.Perm session.negotiation.media.values →
        Outlet.of? listed session.negotiation.interleaved package =
          session.negotiation.outlet? package) := by
  have asked := asked_reached found
  refine ⟨asked, fun _ => Media.outlet_perm_iff, fun _ => Media.ordinalForChannel_perm_iff,
    fun _ => Media.ordinalForPort?_perm_iff, fun same package => Media.outlet_perm_iff.mpr ?_⟩
  intro first listed second listed' own own'
  rw [asked.eq_of_ordinal_eq same listed listed' (own.trans own'.symm)]

end Relay

namespace Sample

/-- A recorder sets up two media in frames, each on a pair of its own. -/
def paired : List Event :=
  halfSetUp ++ [.requested recorder
    (setUp "/cam/t2".toList "RTP/AVP/TCP;unicast;interleaved=2-3;mode=record".toList)]

/-- A recorder sets up two media on one pair of channel numbers. -/
def crossed : List Event :=
  halfSetUp ++ [.requested recorder
    (setUp "/cam/t2".toList "RTP/AVP/TCP;unicast;interleaved=0-1;mode=record".toList)]

/-- A recorder sets up two media on one pair of ports. -/
def crossedPorts : List Event :=
  [.opened recorder address, .requested recorder announce, .requested recorder
    (setUp "/cam/t1".toList "RTP/AVP;unicast;client_port=5000-5001;mode=record".toList),
    .requested recorder datagrams]

/-- A viewer plays the first medium of one description and sets up the first medium of the next. -/
def renumbered : List Event :=
  [.opened recorder address, .requested recorder announceOne, .opened viewer distant,
    .requested viewer viewFrames, .requested viewer (plain .play),
    .requested recorder { announce with
      body := Utf8.encode "v=0\nm=audio 0 RTP/AVP 97\na=control:t2\n".toList },
    .requested viewer viewSecond]

/-- A packet of the first medium that came in a frame. -/
def package : Package where
  buffer := []
  length := 0
  interleaved := true
  channel := 0
  order := 0

end Sample

namespace Relay

set_option maxRecDepth 100000 in
theorem lookups_reached_paired :
    ∃ session, (reached Sample.config Sample.paired).session? Sample.recorder = some session ∧
      SameControls session.negotiation ((new Sample.config).setUps Sample.recorder Sample.paired) ∧
      (∀ package listed, listed.Perm session.negotiation.media.values →
        Outlet.of? listed session.negotiation.interleaved package =
          session.negotiation.outlet? package) ∧
      ∀ listed, listed.Perm session.negotiation.media.values →
        Media.ordinalForChannel listed 2 = 1 := by
  have media : ((reached Sample.config Sample.paired).session? Sample.recorder).map
      (fun session => session.negotiation.media.entries) =
        some [("t1".toList, ⟨true, 0, .interleaved 0 1⟩),
          ("t2".toList, ⟨true, 1, .interleaved 2 3⟩)] := by decide +kernel
  obtain ⟨session, found, entries⟩ := Option.map_eq_some_iff.mp media
  have values : session.negotiation.media.values =
      [⟨true, 0, .interleaved 0 1⟩, ⟨true, 1, .interleaved 2 3⟩] := by
    rw [Table.values, entries]
    rfl
  have lookups := lookups_reached found
  have controls : ((new Sample.config).setUps Sample.recorder Sample.paired).map
      (fun plan => plan.description.controls) =
        [["t1".toList, "t2".toList], ["t1".toList, "t2".toList]] := by decide +kernel
  have same : SameControls session.negotiation
      ((new Sample.config).setUps Sample.recorder Sample.paired) := by
    refine ⟨["t1".toList, "t2".toList], by simp [UInt64.size], fun control plan _ last => ?_⟩
    have among := List.mem_map_of_mem (f := fun plan => plan.description.controls)
      (List.mem_reverse.mp (List.mem_of_find?_eq_some last))
    simpa [controls] using among
  refine ⟨session, found, same, lookups.2.2.2.2 same, fun listed perm => ?_⟩
  rw [(lookups.2.2.1 2).mpr (by rw [values]; decide +kernel) listed perm,
    Negotiation.ordinalForChannel, values]
  decide +kernel

set_option maxRecDepth 100000 in
/-- What is looked up depends on the order of the media, if two of them share a channel number, a
port or an ordinal. -/
theorem lookups_depend_on_order :
    (∃ session ∈ (reached Sample.config Sample.crossed).session? Sample.recorder,
      ∃ listed, listed.Perm session.negotiation.media.values ∧
        Media.ordinalForChannel listed 0 ≠ session.negotiation.ordinalForChannel 0) ∧
    (∃ session ∈ (reached Sample.config Sample.crossedPorts).session? Sample.recorder,
      ∃ listed, listed.Perm session.negotiation.media.values ∧
        Media.ordinalForPort? listed 5000 ≠ session.negotiation.ordinalForPort? 5000) ∧
    ∃ session ∈ (reached Sample.config Sample.renumbered).session? Sample.viewer,
      ∃ listed, listed.Perm session.negotiation.media.values ∧
        Outlet.of? listed session.negotiation.interleaved Sample.package ≠
          session.negotiation.outlet? Sample.package := by
  have channels : ∃ session ∈ (reached Sample.config Sample.crossed).session? Sample.recorder,
      Media.ordinalForChannel session.negotiation.media.values.reverse 0 ≠
        session.negotiation.ordinalForChannel 0 := by decide +kernel
  have ports : ∃ session ∈ (reached Sample.config Sample.crossedPorts).session? Sample.recorder,
      Media.ordinalForPort? session.negotiation.media.values.reverse 5000 ≠
        session.negotiation.ordinalForPort? 5000 := by decide +kernel
  have ordinals : ∃ session ∈ (reached Sample.config Sample.renumbered).session? Sample.viewer,
      Outlet.of? session.negotiation.media.values.reverse session.negotiation.interleaved
        Sample.package ≠ session.negotiation.outlet? Sample.package := by decide +kernel
  obtain ⟨crossed, found, differs⟩ := channels
  obtain ⟨ported, found', differs'⟩ := ports
  obtain ⟨renumbered, found'', differs''⟩ := ordinals
  exact ⟨⟨crossed, found, _, List.reverse_perm _, differs⟩,
    ⟨ported, found', _, List.reverse_perm _, differs'⟩,
    ⟨renumbered, found'', _, List.reverse_perm _, differs''⟩⟩

end Relay

end MediaRelay
