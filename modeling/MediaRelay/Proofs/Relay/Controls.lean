import MediaRelay.Proofs.Message.Targets
import MediaRelay.Proofs.Relay.Coverage

/-! # Controls that are announced and controls that are addressed

A viewer addresses a medium by writing its control behind the name of the channel. A target leaves
out queries, fragments and the slashes at its end, whereas a description keeps a relative control
but for the slashes in front. So the target names the medium if and only if its control has nothing
that targets leave out, which holds of every control that was announced as an absolute target
(`Description.announced_control`).
-/

namespace MediaRelay

namespace Target

/-- The target of a control in a channel of a host. -/
def url (host name control : Text) : Text :=
  "rtsp://".toList ++ (host ++ '/' :: (name ++ '/' :: control))

variable {host name control : Text}

/-- The target names the channel, and tells of the control what targets do not leave out. -/
theorem ofUri_url (bare : '/' ∉ host) (named : name ≠ [])
    (plain : ∀ c ∈ name, c ≠ '/' ∧ c ≠ '?' ∧ c ≠ '#') :
    ofUri (url host name control) = ⟨name, remnant control⟩ :=
  ofUri_eq (hostPath_append List.mem_cons_self bare) named plain

end Target

namespace Description

variable {raw : Bytes} {description : Description} {medium : MediaSection}
  {sections : List MediaSection} {lines : List Text} {line control : Text} {first : Nat}

/-- A control comes from one of the lines. -/
def Sourced (lines : List Text) (medium : MediaSection) : Prop :=
  medium.control ≠ [] → ∃ line ∈ lines, ∃ value,
    Text.after? "a=control:".toList line = some value ∧
      medium.control = controlOf (Text.trimmed value)

theorem sourced_takeLine (listed : line ∈ lines)
    (sourced : ∀ medium ∈ sections, Sourced lines medium) :
    ∀ medium ∈ takeLine sections line, Sourced lines medium := by
  unfold takeLine
  split
  · -- A section that opens has no control yet.
    intro medium member
    rcases List.mem_cons.mp member with rfl | earlier
    · exact fun filled => absurd rfl filled
    · exact sourced medium earlier
  · split
    · rename_i value current earlier told
      intro medium member
      rcases List.mem_cons.mp member with rfl | before
      · exact fun _ => ⟨line, listed, value, told, rfl⟩
      · exact sourced medium (List.mem_cons_of_mem _ before)
    · exact sourced

/-- By induction on the lines that are still to be taken in. -/
theorem sourced_foldl {coming : List Text} (within : coming ⊆ lines)
    (sourced : ∀ medium ∈ sections, Sourced lines medium) :
    ∀ medium ∈ coming.foldl takeLine sections, Sourced lines medium := by
  induction coming generalizing sections with
  | nil => exact sourced
  | cons line coming ih =>
      obtain ⟨listed, later⟩ := List.cons_subset.mp within
      exact ih later (sourced_takeLine listed sourced)

theorem exists_lines_of_parse (parsed : parse raw = .ok description) :
    ∃ text lines, Utf8.decode? raw = some text ∧ contentLines text = "v=0".toList :: lines ∧
      description.sections = (lines.foldl takeLine []).reverse := by
  unfold parse at parsed
  split at parsed
  · cases parsed
  · rename_i text decoded
    split at parsed
    · cases parsed
    · rename_i version lines opened
      split at parsed
      · cases parsed
      · rename_i current
        split at parsed
        · cases parsed
        · rename_i filled
          cases parsed
          exact ⟨text, lines, decoded, Decidable.not_not.mp current ▸ opened, rfl⟩

/-- A control that a description has stands in a line of the body. -/
theorem exists_line_of_control (parsed : parse raw = .ok description)
    (member : medium ∈ description.sections) (filled : medium.control ≠ []) :
    ∃ text, Utf8.decode? raw = some text ∧ ∃ line ∈ contentLines text, ∃ value,
      line = "a=control:".toList ++ value ∧ medium.control = controlOf (Text.trimmed value) := by
  obtain ⟨text, lines, decoded, opened, read⟩ := exists_lines_of_parse parsed
  rw [read, List.mem_reverse] at member
  obtain ⟨line, listed, value, told, same⟩ :=
    sourced_foldl (List.Subset.refl lines) (by simp) medium member filled
  refine ⟨text, decoded, line, ?_, value, Text.eq_append_of_after? told, same⟩
  exact opened ▸ List.mem_cons_of_mem _ listed

/-- A control that is announced as an absolute target is one that targets can state. -/
theorem addressable_controlOf {value : Text} (absolute : Text.hasPhrase "://".toList value = true) :
    Target.Addressable (controlOf value) := by
  rw [controlOf, if_pos absolute]
  exact Target.addressable_ofUri value

/-- The first section with a control is found by what a target tells of the control if and only if
that is all of it. -/
theorem position?_remnant_eq_some_iff (placed : description.position? control = some first) :
    description.position? (Target.remnant control) = some first ↔ Target.Addressable control := by
  rw [← Target.remnant_eq_self_iff]
  constructor
  · intro found
    have listed := (position?_eq_some_iff.mp placed).1
    exact Option.some.inj ((position?_eq_some_iff.mp found).1.symm.trans listed)
  · intro same
    rw [same, placed]

/-- A set-up finds the medium also if it is the only one and nothing of its control is told. -/
theorem setUp_position?_eq_some_iff (placed : description.position? control = some first)
    (filled : control ≠ []) :
    Handler.position? description (Target.remnant control) = some first ↔
      Target.Addressable control ∨
        Target.remnant control = [] ∧ description.sections.length = 1 := by
  rw [Handler.position?, Option.or_eq_some_iff, position?_remnant_eq_some_iff placed]
  refine or_congr_right ?_
  constructor
  · rintro ⟨_, alone⟩
    obtain ⟨bare, _⟩ := Option.ite_none_right_eq_some.mp alone
    simpa using bare
  · rintro ⟨nothing, alone⟩
    obtain ⟨listed, _⟩ := position?_eq_some_iff.mp placed
    obtain ⟨only, single⟩ := List.length_eq_one_iff.mp alone
    have inside := (List.getElem?_eq_some_iff.mp listed).1
    rw [controls, List.length_map, alone] at inside
    obtain rfl : first = 0 := by omega
    have named : only.control = control := by simpa [controls, single] using listed
    rw [nothing, position?, controls, single]
    simp [named, filled]

end Description

namespace Relay

variable {relay : Relay} {request : Request} {transport : Transport} {name control : Text}
  {channel : Channel} {description : Description} {ordinal : Nat}

/-- A set-up can be planned if all that it needs is there. -/
theorem setupPlan_eq_ok (asked : request.transport = .ok transport)
    (named : relay.channelName request.uri = .ok name)
    (found : relay.registry.get? name = some channel)
    (described : channel.description = some description)
    (placed : Handler.position? description (Target.ofUri request.uri).control = some ordinal)
    (listed : description.controls[ordinal]? = some control) :
    Handler.setupPlan relay request = .ok ⟨transport, name, description, ordinal, control⟩ := by
  refine bind_eq_ok_iff.mpr ⟨transport, asked, bind_eq_ok_iff.mpr ⟨name, named, ?_⟩⟩
  refine bind_eq_ok_iff.mpr ⟨channel, existing_eq_ok_iff.mpr found, ?_⟩
  refine bind_eq_ok_iff.mpr ⟨description, described_eq_ok_iff.mpr described, ?_⟩
  rw [placed, Option.bind_some, listed]
  rfl

end Relay

namespace Description

variable {raw : Bytes} {description : Description} {medium : MediaSection} {host name : Text}

/-- **What becomes of an announced control.** Behind a channel's name it addresses that channel, and
of the media of the description the first one with the control, if and only if the control has
nothing that targets leave out. Then it can be set up, as can the only medium of a channel if
nothing at all is left of its control. Every control stands in the description's text, and one that
is an absolute target there can be addressed. -/
theorem announced_control (parsed : parse raw = .ok description)
    (member : medium ∈ description.sections) (filled : medium.control ≠ [])
    (bare : '/' ∉ host) (named : name ≠ []) (plain : ∀ c ∈ name, c ≠ '/' ∧ c ≠ '?' ∧ c ≠ '#') :
    (Target.ofUri (Target.url host name medium.control)).channel = name ∧
    (∃ first, description.controls[first]? = some medium.control ∧
      (∀ earlier < first, description.controls[earlier]? ≠ some medium.control) ∧
      (description.position? (Target.ofUri (Target.url host name medium.control)).control =
          some first ↔ Target.Addressable medium.control) ∧
      ∀ {relay : Relay} {request : Request} {transport : Transport} {channel : Channel},
        request.uri = Target.url host name medium.control → request.transport = .ok transport →
        relay.registry.get? name = some channel → channel.description = some description →
        (Handler.setupPlan relay request =
            .ok ⟨transport, name, description, first, medium.control⟩ ↔
          Target.Addressable medium.control ∨
            Target.remnant medium.control = [] ∧ description.sections.length = 1)) ∧
    ∃ text, Utf8.decode? raw = some text ∧ ∃ line ∈ contentLines text, ∃ value,
      line = "a=control:".toList ++ value ∧ medium.control = controlOf (Text.trimmed value) ∧
        (Text.hasPhrase "://".toList (Text.trimmed value) = true →
          Target.Addressable medium.control) := by
  have read : Target.ofUri (Target.url host name medium.control) =
      ⟨name, Target.remnant medium.control⟩ := Target.ofUri_url bare named plain
  obtain ⟨index, listed⟩ := List.mem_iff_getElem?.mp
    (List.mem_map_of_mem member : medium.control ∈ description.controls)
  obtain ⟨first, placed, _⟩ := exists_position? listed
  obtain ⟨here, earliest⟩ := position?_eq_some_iff.mp placed
  obtain ⟨text, decoded, line, among, value, told, same⟩ :=
    exists_line_of_control parsed member filled
  refine ⟨congrArg Target.channel read, ⟨first, here, earliest, ?_, ?_⟩,
    text, decoded, line, among, value, told, same, fun absolute => ?_⟩
  · rw [read]
    exact position?_remnant_eq_some_iff placed
  · intro relay request transport channel addressed asked found described
    have resolved : relay.channelName request.uri = .ok name := by
      rw [Relay.channelName, addressed, read, Registry.resolve?]
      simp [named]
    rw [← setUp_position?_eq_some_iff placed filled]
    constructor
    · intro planned
      obtain ⟨_, _, _, position, _⟩ := Relay.setupPlan_ok planned
      rwa [addressed, read] at position
    · intro position
      refine Relay.setupPlan_eq_ok asked resolved found described ?_ here
      rwa [addressed, read]
  · exact same ▸ addressable_controlOf absolute

end Description

namespace Sample

/-- Two media, one announced as an absolute target with a query, one with slashes in front. -/
def announceTargets : Request :=
  { announce with
    body := Utf8.encode ("v=0\nm=video 0 RTP/AVP 96\na=control:rtsp://o/p//t1/?x#y\n".toList ++
      "m=audio 0 RTP/AVP 97\na=control://t2\n".toList) }

/-- One medium, announced with a query. -/
def announceQueried : Request :=
  { announce with body := Utf8.encode "v=0\nm=video 0 RTP/AVP 96\na=control:t1?x=y\n".toList }

/-- A viewer writes a control behind the name of the channel. -/
def viewControl (control : Text) : Request :=
  setUp (Target.url "h".toList "cam".toList control)
    "RTP/AVP/TCP;unicast;interleaved=2-3".toList

end Sample

namespace Description

set_option maxRecDepth 100000 in
/-- The control of an absolute target begins with a slash, and is found behind another channel. -/
theorem announced_control_absolute :
    (Target.ofUri (Target.url "h".toList "cam".toList "/t1".toList)).channel = "cam".toList ∧
    ∃ description, parse Sample.announceTargets.body = .ok description ∧
      description.controls = ["/t1".toList, "t2".toList] ∧
      description.position?
        (Target.ofUri (Target.url "h".toList "cam".toList "/t1".toList)).control = some 0 ∧
      ∃ transport, Handler.setupPlan (Relay.reached Sample.config
          [.opened Sample.recorder Sample.address,
            .requested Sample.recorder Sample.announceTargets])
          (Sample.viewControl "/t1".toList) =
        .ok ⟨transport, "cam".toList, description, 0, "/t1".toList⟩ := by
  have parsed : parse Sample.announceTargets.body =
      .ok ⟨[⟨"video".toList, "/t1".toList⟩, ⟨"audio".toList, "t2".toList⟩]⟩ := by
    decide +kernel
  have shown : ((Relay.reached Sample.config [.opened Sample.recorder Sample.address,
      .requested Sample.recorder Sample.announceTargets]).registry.get? "cam".toList).bind
        Channel.description =
      some ⟨[⟨"video".toList, "/t1".toList⟩, ⟨"audio".toList, "t2".toList⟩]⟩ := by
    decide +kernel
  have addressable : Target.Addressable "/t1".toList := by decide +kernel
  obtain ⟨transport, asked⟩ : ∃ transport,
      (Sample.viewControl "/t1".toList).transport = .ok transport :=
    ⟨_, rfl⟩
  obtain ⟨channel, found, described⟩ := Option.bind_eq_some_iff.mp shown
  obtain ⟨channelled, ⟨first, here, earliest, answered, planned⟩, _⟩ :=
    announced_control parsed List.mem_cons_self (by decide) (by decide : '/' ∉ "h".toList)
      (by decide : "cam".toList ≠ []) (by simp)
  obtain rfl : first = 0 := by
    by_contra later
    exact earliest 0 (Nat.pos_of_ne_zero later) rfl
  exact ⟨channelled, _, parsed, rfl, answered.mpr addressable, transport,
    (planned rfl asked found described).mpr (.inl addressable)⟩

set_option maxRecDepth 100000 in
/-- A control with a query is announced, but the target that it is written into leaves the query out
and is answered that there is no such medium. -/
theorem queried_control_not_found :
    parse Sample.announceQueried.body = .ok ⟨[⟨"video".toList, "t1?x=y".toList⟩]⟩ ∧
    ("t1?x=y".toList.all fun c => !Text.isBlank c) = true ∧
    Text.hasPhrase "://".toList "t1?x=y".toList = false ∧
    Target.ofUri (Target.url "h".toList "cam".toList "t1?x=y".toList) =
      ⟨"cam".toList, "t1".toList⟩ ∧
    position? ⟨[⟨"video".toList, "t1?x=y".toList⟩]⟩ "t1?x=y".toList = some 0 ∧
    position? ⟨[⟨"video".toList, "t1?x=y".toList⟩]⟩ "t1".toList = none ∧
    ((Relay.reached Sample.config [.opened Sample.recorder Sample.address,
        .requested Sample.recorder Sample.announceQueried,
        .opened Sample.viewer Sample.distant]).reply?
      (.requested Sample.viewer (Sample.viewControl "t1?x=y".toList))).map
        (fun reply => reply.response.status) = some .notFound := by
  refine ⟨?_, ?_, ?_, ?_, ?_, ?_, ?_⟩ <;> decide +kernel

end Description

end MediaRelay
