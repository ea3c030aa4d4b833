import MediaRelay.Channel

/-!
# The registry of channels

Channels are registered by name. Each has an identity of its own, so that a handle kept outside
the registry tells a channel from a later one of its name. Channels that nobody uses are retired
when a session leaves, unless a handle is kept on them; the default channel always stays.
-/

namespace MediaRelay

/-- What tells a channel from every other that ever was. -/
abbrev ChannelId := Nat

/-- A registered channel with its identity. -/
structure Slot where
  id : ChannelId
  channel : Channel
  deriving DecidableEq, Repr

structure Registry where
  defaultChannel : Option Text
  slots : Table Text Slot := {}
  /-- The identity that the next channel gets. -/
  nextId : ChannelId := 0
  deriving DecidableEq

namespace Registry

/-- The channel with a name. -/
def get? (registry : Registry) (name : Text) : Option Channel :=
  (registry.slots.get? name).map Slot.channel

/-- The identity of the channel with a name. -/
def idOf? (registry : Registry) (name : Text) : Option ChannelId :=
  (registry.slots.get? name).map Slot.id

/-- The name of the channel with an identity. -/
def nameOf? (registry : Registry) (id : ChannelId) : Option Text :=
  (registry.slots.entries.find? fun entry => entry.2.id = id).map Prod.fst

/-- The channel with an identity. -/
def byId? (registry : Registry) (id : ChannelId) : Option Channel :=
  (registry.nameOf? id).bind registry.get?

/-- How many channels there are. -/
def size (registry : Registry) : Nat := registry.slots.entries.length

/-- Registers a channel under a name that has none yet. -/
def ensure (registry : Registry) (name : Text) : Registry :=
  if registry.slots.contains name then
    registry
  else
    { registry with
      slots := registry.slots.set name ⟨registry.nextId, .vacant⟩
      nextId := registry.nextId + 1 }

/-- A registry that holds the default channel only. -/
def new (defaultChannel : Option Text) : Registry :=
  match defaultChannel with
  | some name => ensure { defaultChannel := some name } name
  | none => { defaultChannel := none }

/-- The channel that a target's name means: the default one if the name is empty. -/
def resolve? (registry : Registry) (name : Text) : Option Text :=
  if name.isEmpty then registry.defaultChannel else some name

/-- Changes the channel with a name. -/
def modify (registry : Registry) (name : Text) (change : Channel → Channel) : Registry :=
  { registry with
    slots := registry.slots.modify name fun slot => { slot with channel := change slot.channel } }

/-- Whether some channel has a session as its producer or subscriber. -/
def refersTo (registry : Registry) (id : SessionId) : Bool :=
  registry.slots.values.any fun slot => slot.channel.refersTo id

/-- How many channels a session is producer or subscriber of. -/
def occupiedBy (registry : Registry) (id : SessionId) : Nat :=
  registry.slots.values.countP fun slot => slot.channel.refersTo id

/-- Removes a session from every channel. -/
def removeEverywhere (registry : Registry) (id : SessionId) : Registry :=
  { registry with
    slots := registry.slots.mapValues fun _ slot =>
      { slot with channel := slot.channel.remove id } }

/-- Whether a channel stays when vacant ones are retired. -/
def retains (registry : Registry) (held : List ChannelId) (name : Text) (slot : Slot) : Bool :=
  registry.defaultChannel = some name || slot.id ∈ held || !slot.channel.isVacant

/-- Retires the vacant channels that are neither the default one nor held. -/
def retireVacant (registry : Registry) (held : List ChannelId) : Registry :=
  { registry with slots := registry.slots.filter (registry.retains held) }

/-- Removes a session from every channel and retires what is left vacant. -/
def teardown (registry : Registry) (held : List ChannelId) (id : SessionId) : Registry :=
  (registry.removeEverywhere id).retireVacant held

/-! ## What the operations do to the view -/

theorem get?_modify (registry : Registry) (name other : Text) (change : Channel → Channel) :
    (registry.modify name change).get? other =
      if other = name then (registry.get? other).map change else registry.get? other := by
  rw [get?, get?, modify, Table.get?_modify]
  by_cases same : other = name <;> simp [same, Function.comp_def]

theorem get?_ensure (registry : Registry) (name other : Text) :
    (registry.ensure name).get? other =
      if other = name then some ((registry.get? name).getD .vacant) else registry.get? other := by
  by_cases same : other = name
  · subst same
    unfold ensure
    split
    · rename_i held
      obtain ⟨slot, found⟩ := Option.isSome_iff_exists.mp held
      simp [get?, found]
    · rename_i absent
      have missing : registry.slots.get? other = none := by
        simpa [Table.contains] using absent
      simp [get?, Table.get?_set, missing]
  · unfold ensure
    split
    · simp
    · simp [get?, Table.get?_set, same]

theorem retains_iff {registry : Registry} {held : List ChannelId} {name : Text} {slot : Slot} :
    registry.retains held name slot = true ↔
      registry.defaultChannel = some name ∨ slot.id ∈ held ∨ slot.channel.isVacant = false := by
  simp only [retains, Bool.or_eq_true, decide_eq_true_eq, Bool.not_eq_true', or_assoc]

/-- What is left of a channel when a session leaves, if anything keeps it. -/
theorem slots_teardown (registry : Registry) (held : List ChannelId) (id : SessionId)
    (name : Text) :
    (registry.teardown held id).slots.get? name =
      ((registry.slots.get? name).map fun slot =>
        { slot with channel := slot.channel.remove id }).filter (registry.retains held name) := by
  rw [teardown, retireVacant, Table.get?_filter, removeEverywhere, Table.get?_mapValues]
  rfl

/-- What is registered when a session has left was registered before, and something keeps it. -/
theorem slots_teardown_eq_some_iff {registry : Registry} {held : List ChannelId} {id : SessionId}
    {name : Text} {slot : Slot} : (registry.teardown held id).slots.get? name = some slot ↔
      ∃ before, registry.slots.get? name = some before ∧
        slot = { before with channel := before.channel.remove id } ∧
        registry.retains held name slot = true := by
  rw [slots_teardown, Option.filter_eq_some_iff, Option.map_eq_some_iff]
  constructor
  · rintro ⟨⟨before, present, rfl⟩, retained⟩
    exact ⟨before, present, rfl, retained⟩
  · rintro ⟨before, present, rfl, retained⟩
    exact ⟨⟨before, present, rfl⟩, retained⟩

end Registry

end MediaRelay
