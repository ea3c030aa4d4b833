import MediaRelay.Proofs.Relay.Retransmission
import Mathlib.Data.List.Nodup

/-! # What a session leaves behind in the registry

A session leaves the registered channels one after the other, in whatever order they come, and then
those that nothing keeps are retired. Together this takes the session out of every channel, and
nothing else away: what other sessions produce, describe and subscribe to is as before, and a
channel is gone only if the session was the last to use it (`Registry.departs_alone`).
-/

namespace MediaRelay

namespace Table

variable {κ α : Type}

theorem mapValues_mapValues (table : Table κ α) (first second : κ → α → α) :
    (table.mapValues first).mapValues second =
      table.mapValues fun key value => second key (first key value) := by
  simp [mapValues, Function.comp_def]

/-- Changes that agree on what a table holds change it alike. -/
theorem mapValues_congr [DecidableEq κ] {table : Table κ α} {first second : κ → α → α}
    (same : ∀ key value, table.get? key = some value → first key value = second key value) :
    table.mapValues first = table.mapValues second := by
  unfold mapValues
  congr 1
  refine List.map_congr_left ?_
  rintro ⟨key, value⟩ member
  rw [same key value ((mem_entries_iff table key value).mp member)]

end Table

namespace Channel

/-- What is left of a channel when a session has left it. -/
structure Left (id : SessionId) (before after : Channel) : Prop where
  absent : after.producer ≠ some id ∧ id ∉ after.subscribers
  kept : before.producer ≠ some id →
    after.producer = before.producer ∧ after.description = before.description ∧
      after.raw = before.raw
  released : before.producer = some id →
    after.producer = none ∧ after.description = none ∧ after.raw = none
  others : ∀ other, other ≠ id → (other ∈ after.subscribers ↔ other ∈ before.subscribers)

theorem left_remove (channel : Channel) (id : SessionId) : Left id channel (channel.remove id) where
  absent := by
    have unused : (channel.remove id).refersTo id = false := by simp [refersTo_remove]
    simpa [refersTo] using unused
  kept := fun other => by simp [remove_of_producer_ne other]
  released := fun held => by simp [remove, held]
  others := fun other different => by simp [different]

/-- Nobody is left in a channel if and only if the session that left had every role in it. -/
theorem isVacant_remove_iff {channel : Channel} {id : SessionId} :
    (channel.remove id).isVacant = true ↔
      (∀ holder, channel.producer = some holder → holder = id) ∧
        ∀ subscriber ∈ channel.subscribers, subscriber = id := by
  rw [isVacant_iff, List.eq_nil_iff_forall_not_mem]
  refine and_congr ?_ (forall_congr' fun subscriber => by simp)
  rw [producer_remove]
  cases channel.producer <;> simp

end Channel

namespace Registry

/-- Removes a session from the channels with some names, one after the other, and counts those in
which it had a role. -/
def leaveAll (id : SessionId) : List Text → Registry → Nat × Registry
  | [], registry => (0, registry)
  | name :: names, registry =>
    let later := leaveAll id names (registry.modify name fun channel => channel.remove id)
    if (registry.get? name).any fun channel => channel.refersTo id then
      (later.1 + 1, later.2)
    else
      later

/-- A session leaves the channels in some order, and then what is left vacant is retired. -/
def departure (registry : Registry) (held : List ChannelId) (id : SessionId) (order : List Text) :
    Nat × Registry :=
  let left := leaveAll id order registry
  (left.1, left.2.retireVacant held)

variable {registry : Registry} {held : List ChannelId} {id : SessionId} {order names : List Text}
  {name : Text} {slot : Slot}

/-! ## One channel after the other -/

theorem leaveAll_cons (id : SessionId) (name : Text) (names : List Text) (registry : Registry) :
    leaveAll id (name :: names) registry =
      ((leaveAll id names (registry.modify name fun channel => channel.remove id)).1 +
          if (registry.get? name).any fun channel => channel.refersTo id then 1 else 0,
        (leaveAll id names (registry.modify name fun channel => channel.remove id)).2) := by
  rw [leaveAll]
  split <;> rfl

/-- By induction on the names that are still to be visited. -/
theorem leaveAll_snd (id : SessionId) (names : List Text) (registry : Registry) :
    (leaveAll id names registry).2 =
      { registry with
        slots := registry.slots.mapValues fun name slot =>
          if name ∈ names then { slot with channel := slot.channel.remove id } else slot } := by
  induction names generalizing registry with
  | nil =>
      rw [Table.mapValues_eq_self (by simp)]
      rfl
  | cons first names ih =>
      simp only [leaveAll_cons, ih, modify, Table.modify, Table.mapValues_mapValues]
      congr 1
      refine Table.mapValues_congr fun name slot _ => ?_
      by_cases here : name = first
      · subst here
        by_cases again : name ∈ names <;> simp [again, Channel.remove_remove]
      · simp [here]

/-- A channel that was visited says nothing about one that is still to be visited. -/
theorem leaveAll_fst (id : SessionId) (distinct : names.Nodup) (registry : Registry) :
    (leaveAll id names registry).1 =
      names.countP fun name => (registry.get? name).any fun channel => channel.refersTo id := by
  induction names generalizing registry with
  | nil => rfl
  | cons first names ih =>
      obtain ⟨once, distinct⟩ := List.nodup_cons.mp distinct
      have same : (names.countP fun name =>
            ((registry.modify first fun channel => channel.remove id).get? name).any
              fun channel => channel.refersTo id) =
          names.countP fun name => (registry.get? name).any fun channel => channel.refersTo id := by
        refine List.countP_congr fun name member => ?_
        rw [get?_modify, if_neg (ne_of_mem_of_not_mem member once)]
      rw [leaveAll_cons, ih distinct, same, List.countP_cons]

theorem occupiedBy_eq (registry : Registry) (id : SessionId) : registry.occupiedBy id =
    registry.slots.keys.countP fun name =>
      (registry.get? name).any fun channel => channel.refersTo id := by
  rw [occupiedBy, Table.values, Table.keys, List.countP_map, List.countP_map]
  refine List.countP_congr fun entry member => ?_
  have stored := (Table.mem_entries_iff registry.slots entry.1 entry.2).mp member
  simp [get?, stored]

/-- A session leaves all the same in whatever order the channels come. -/
theorem departure_eq (held : List ChannelId) (id : SessionId)
    (visited : order.Perm registry.slots.keys) :
    registry.departure held id order = (registry.occupiedBy id, registry.teardown held id) := by
  have distinct : order.Nodup := visited.nodup_iff.mpr registry.slots.distinct
  have removed : (leaveAll id order registry).2 = registry.removeEverywhere id := by
    rw [leaveAll_snd, removeEverywhere, Table.mapValues_congr fun name slot found => if_pos ?_]
    exact visited.mem_iff.mpr ((Table.mem_keys_iff ..).mpr (by rw [found]; rfl))
  rw [departure, leaveAll_fst id distinct, visited.countP_eq, ← occupiedBy_eq, removed, teardown]

/-! ## What is left -/

/-- What a session leaves behind: how many channels it has left, and the registry without it. -/
structure Departed (held : List ChannelId) (id : SessionId) (before : Registry) (count : Nat)
    (after : Registry) : Prop where
  counted : count = before.slots.values.countP fun slot =>
    slot.channel.producer = some id ∨ id ∈ slot.channel.subscribers
  /-- Every channel that remains is the one that had the name, as the session left it. -/
  remaining : ∀ name slot, after.slots.get? name = some slot →
    ∃ earlier, before.slots.get? name = some earlier ∧ slot.id = earlier.id ∧
      Channel.Left id earlier.channel slot.channel
  /-- The others subscribe to the same channels, all of which remain. -/
  subscribed : ∀ other, other ≠ id → ∀ name,
    (∃ channel, after.get? name = some channel ∧ other ∈ channel.subscribers) ↔
      ∃ channel, before.get? name = some channel ∧ other ∈ channel.subscribers
  /-- Only a channel that nobody and nothing else keeps is gone. -/
  retired : ∀ name slot, before.slots.get? name = some slot →
    (after.slots.get? name = none ↔ before.defaultChannel ≠ some name ∧ slot.id ∉ held ∧
      (∀ holder, slot.channel.producer = some holder → holder = id) ∧
        ∀ subscriber ∈ slot.channel.subscribers, subscriber = id)
  standing : after.defaultChannel = before.defaultChannel ∧ after.nextId = before.nextId

/-- A channel is retired if and only if nobody but the session that left kept it. -/
theorem slots_teardown_eq_none_iff (found : registry.slots.get? name = some slot) :
    (registry.teardown held id).slots.get? name = none ↔
      registry.defaultChannel ≠ some name ∧ slot.id ∉ held ∧
        (∀ holder, slot.channel.producer = some holder → holder = id) ∧
          ∀ subscriber ∈ slot.channel.subscribers, subscriber = id := by
  rw [slots_teardown, found, Option.map_some, Option.filter_eq_none_iff,
    ← Channel.isVacant_remove_iff]
  simp [retains_iff]

/-- A channel that another session subscribes to is not vacant when this one has left. -/
theorem subscribed_teardown_iff {other : SessionId} (different : other ≠ id) :
    (∃ channel, (registry.teardown held id).get? name = some channel ∧
        other ∈ channel.subscribers) ↔
      ∃ channel, registry.get? name = some channel ∧ other ∈ channel.subscribers := by
  simp only [get?, Option.map_eq_some_iff]
  constructor
  · rintro ⟨_, ⟨slot, left, rfl⟩, listed⟩
    obtain ⟨before, found, rfl, _⟩ := slots_teardown_eq_some_iff.mp left
    exact ⟨_, ⟨before, found, rfl⟩, (Channel.mem_subscribers_remove.mp listed).1⟩
  · rintro ⟨_, ⟨before, found, rfl⟩, listed⟩
    have stays : other ∈ (before.channel.remove id).subscribers :=
      Channel.mem_subscribers_remove.mpr ⟨listed, different⟩
    have used : (before.channel.remove id).isVacant = false :=
      Channel.isVacant_remove_eq_false_iff.mpr
        ⟨other, different, Channel.refersTo_iff.mpr (.inr listed)⟩
    exact ⟨_, ⟨_, slots_teardown_eq_some_iff.mpr
      ⟨before, found, rfl, retains_iff.mpr (.inr (.inr used))⟩, rfl⟩, stays⟩

theorem departed_teardown (registry : Registry) (held : List ChannelId) (id : SessionId) :
    Departed held id registry (registry.occupiedBy id) (registry.teardown held id) where
  counted := List.countP_congr fun slot _ => by simp [Channel.refersTo]
  remaining := by
    intro name slot left
    obtain ⟨before, found, rfl, _⟩ := slots_teardown_eq_some_iff.mp left
    exact ⟨before, found, rfl, before.channel.left_remove id⟩
  subscribed := fun _ different _ => subscribed_teardown_iff different
  retired := fun _ _ found => slots_teardown_eq_none_iff found
  standing := ⟨rfl, rfl⟩

theorem occupiedBy_teardown (registry : Registry) (held : List ChannelId) (id : SessionId) :
    (registry.teardown held id).occupiedBy id = 0 := by
  rw [occupiedBy, List.countP_eq_zero]
  intro slot listed
  obtain ⟨name, left⟩ := (Table.mem_values_iff _ slot).mp listed
  obtain ⟨before, _, rfl, _⟩ := slots_teardown_eq_some_iff.mp left
  simp [Channel.refersTo_remove]

/-- **A session leaves alone**: whatever the registry holds and in whatever order the channels come,
it is counted once for every channel that it had a role in, it is gone from all of them, and nobody
and nothing else is. When it leaves again, in any order and with no handle let go, there is nothing
left to count or to change. -/
theorem departs_alone (registry : Registry) (held : List ChannelId) (id : SessionId)
    (visited : order.Perm registry.slots.keys) :
    Departed held id registry (registry.departure held id order).1
        (registry.departure held id order).2 ∧
      ∀ later again, (∀ handle ∈ held, handle ∈ later) →
        again.Perm (registry.departure held id order).2.slots.keys →
        (registry.departure held id order).2.departure later id again =
          (0, (registry.departure held id order).2) := by
  rw [departure_eq held id visited]
  refine ⟨departed_teardown registry held id, fun later again kept revisited => ?_⟩
  rw [departure_eq later id revisited, occupiedBy_teardown, teardown_teardown registry kept]

end Registry

namespace Sample

def departing : SessionId := "s".toList

def filmed : Description := ⟨[⟨"video".toList, "t1".toList⟩]⟩

/-- A channel of each kind: the default one, which the session uses in both ways, one that another
session subscribes to, one that it is alone in, one that is kept from outside, one that it has
nothing to do with, and one that nobody used before. -/
def busy : Registry where
  defaultChannel := some "live".toList
  nextId := 6
  slots := ⟨[
    ("live".toList, ⟨0, some departing, some filmed, some [118], [departing]⟩),
    ("cam".toList, ⟨1, some departing, some filmed, some [119], ["v".toList, departing]⟩),
    ("solo".toList, ⟨2, none, none, none, [departing]⟩),
    ("held".toList, ⟨3, some departing, none, none, []⟩),
    ("film".toList, ⟨4, some "p".toList, some filmed, some [120], ["v".toList]⟩),
    ("bare".toList, ⟨5, .vacant⟩)], by decide⟩

end Sample

namespace Registry

theorem departs_alone_busy : ∃ after,
    Sample.busy.departure [3] Sample.departing Sample.busy.slots.keys.reverse = (4, after) ∧
    after.slots.keys = ["live".toList, "cam".toList, "held".toList, "film".toList] ∧
    Departed [3] Sample.departing Sample.busy 4 after ∧
    after.departure [3] Sample.departing after.slots.keys = (0, after) := by
  have first : Sample.busy.departure [3] Sample.departing Sample.busy.slots.keys.reverse =
      (4, _) := rfl
  obtain ⟨departed, again⟩ := departs_alone Sample.busy [3] Sample.departing
    Sample.busy.slots.keys.reverse_perm
  rw [first] at departed again
  exact ⟨_, first, by decide, departed, again [3] _ (fun _ => id) (.refl _)⟩

end Registry

end MediaRelay
