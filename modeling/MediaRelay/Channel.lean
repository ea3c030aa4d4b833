import MediaRelay.Session.Basic

/-!
# Channels

A channel takes packages from one producer, which also describes it, and passes them to its
subscribers. Only the session that holds the producer's place may describe the channel.
-/

namespace MediaRelay

structure Channel where
  producer : Option SessionId := none
  description : Option Description := none
  /-- The description as it was received. -/
  raw : Option Bytes := none
  subscribers : List SessionId := []
  deriving DecidableEq, Repr

namespace Channel

/-- The channel that nobody uses. -/
def vacant : Channel := {}

/-- Whether another session holds the producer's place. -/
def lockedFor (channel : Channel) (id : SessionId) : Bool :=
  match channel.producer with
  | some holder => holder ≠ id
  | none => false

/-- Takes the producer's place, unless another session holds it. -/
def claim? (channel : Channel) (id : SessionId) : Option Channel :=
  if channel.lockedFor id then none else some { channel with producer := some id }

/-- Takes the producer's place and describes the channel, unless another session holds it. -/
def describe? (channel : Channel) (id : SessionId) (description : Description) (raw : Bytes) :
    Option Channel :=
  (channel.claim? id).map fun claimed =>
    { claimed with description := some description, raw := some raw }

/-- Adds a subscriber; one that is there already stays. -/
def subscribe (channel : Channel) (id : SessionId) : Channel :=
  if id ∈ channel.subscribers then
    channel
  else
    { channel with subscribers := channel.subscribers ++ [id] }

/-- Whether a session is the producer or a subscriber. -/
def refersTo (channel : Channel) (id : SessionId) : Bool :=
  channel.producer = some id || id ∈ channel.subscribers

/-- Whether there is neither producer nor subscriber. -/
def isVacant (channel : Channel) : Bool :=
  channel.producer.isNone && channel.subscribers.isEmpty

/-- Removes a session. With the producer goes the description. -/
def remove (channel : Channel) (id : SessionId) : Channel :=
  let remaining := channel.subscribers.filter fun subscriber => subscriber ≠ id
  if channel.producer = some id then
    { subscribers := remaining }
  else
    { channel with subscribers := remaining }

/-- Nothing is left of a session that is removed. -/
theorem refersTo_remove (channel : Channel) (id other : SessionId) :
    (channel.remove id).refersTo other = (decide (other ≠ id) && channel.refersTo other) := by
  by_cases same : other = id
  · subst same
    unfold remove
    split <;> simp_all [refersTo]
  · unfold remove
    split
    · rename_i held
      simp [refersTo, same, held, Ne.symm same]
    · simp [refersTo, same]

end Channel

end MediaRelay
