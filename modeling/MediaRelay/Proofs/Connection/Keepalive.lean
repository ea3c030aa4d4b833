import MediaRelay.Proofs.Connection.Streams
import MediaRelay.Proofs.Message.RoundTrip

/-! # Empty lines between messages

Peers send an empty line now and then to keep a connection open. The reader of requests skips it,
so between messages it changes nothing before a request and at the end of the stream. The reader of
frames does not know it: while the session records in frames an empty line ends the connection
(`Connection.run_emptyLines`).
-/

namespace MediaRelay

/-- The reader of frames notices an empty line. -/
theorem Frame.read_emptyLine (returned : Bool) (room : Nat) (input : Bytes) :
    ∃ lead, Frame.read room (Line.emptyLine returned ++ input) = .error (.badMarker lead) := by
  cases returned <;> exact ⟨_, rfl⟩

/-- No empty line looks like a frame. -/
theorem Line.unmarked_emptyLines (returns : List Bool) {input : Bytes}
    (unmarked : input.head? ≠ some Frame.marker) :
    (returns.flatMap Line.emptyLine ++ input).head? ≠ some Frame.marker := by
  cases returns with
  | nil => exact unmarked
  | cons returned returns => cases returned <;> exact fun same => nomatch same

namespace Connection

variable {connection : Connection} {relay : Relay} {pool : PackagePool} {rest : Bytes}
  {config : RelayConfig} {events : List Event} {items : List Item} {turns : Nat}

/-! ## Turns -/

/-- An empty line in place of a frame ends the connection. -/
theorem advanceBy_emptyLine_of_recorder {returned : Bool}
    (attached : connection.Attached (Relay.reached config events)) (full : pool.Full)
    (records : ((Relay.reached config events).recorder? connection.id).isSome = true)
    (input : connection.input = Line.emptyLine returned ++ rest) (enough : 0 < turns) :
    (connection.advanceBy true turns ((Relay.reached config events).withPackages pool)).Tells
      { relay := Relay.reached config events, ending := some .malformedFrame } := by
  obtain ⟨session, recorder⟩ := Option.isSome_iff_exists.mp records
  have fed := feeding?_eq attached (Relay.coherent_reached config events) pool
  rw [recorder, Option.map_some] at fed
  have restored := full.acquire.2.release full.acquire.1
  obtain ⟨lead, misread⟩ := Frame.read_emptyLine returned pool.acquire.1.buffer.length rest
  obtain ⟨turns, rfl⟩ := Nat.exists_eq_add_of_lt enough
  have opened : ((Relay.reached config events).withPackages pool).packagePool = pool := rfl
  simp only [Nat.zero_add, advanceBy, turn, fed, feedTurn, opened, input, misread, broken]
  exact ⟨⟨_, restored, rfl⟩, rfl, rfl, rfl⟩

/-- Where no frames are awaited and none begins, a request is read. -/
theorem turn_of_unmarked (attached : connection.Attached relay) (coherent : relay.Coherent)
    (idle : relay.recorder? connection.id = none)
    (unmarked : connection.input.head? ≠ some Frame.marker) (pool : PackagePool) :
    connection.turn true (relay.withPackages pool) =
      connection.requestTurn true (relay.withPackages pool) := by
  have fed := feeding?_eq attached coherent pool
  rw [idle, Option.map_none] at fed
  simp only [turn, fed, plainTurn, unmarked, ↓reduceIte]

/-- A request after empty lines is answered as if the lines were not there. -/
theorem turn_emptyLines_request {message : Bytes} {heard : Request} {returns : List Bool}
    (attached : connection.Attached relay) (coherent : relay.Coherent)
    (idle : relay.recorder? connection.id = none)
    (readable : (Item.request message heard).Readable)
    (input : connection.input = returns.flatMap Line.emptyLine ++ (message ++ rest))
    (pool : PackagePool) :
    ∃ progress, connection.turn true (relay.withPackages pool) = some progress ∧
      turn true { connection with input := message ++ rest } (relay.withPackages pool) =
        some progress := by
  have attached' : Attached { connection with input := message ++ rest } relay :=
    ⟨attached.opened, attached.linked⟩
  have unmarked' : (message ++ rest).head? ≠ some Frame.marker := by
    obtain ⟨lead, others, rfl, opens⟩ := readable.opens
    intro same
    obtain rfl := Option.some.inj same
    exact nomatch opens
  have unmarked : connection.input.head? ≠ some Frame.marker := by
    rw [input]
    exact Line.unmarked_emptyLines returns unmarked'
  have read : Request.read (returns.flatMap Line.emptyLine ++ message) = .ok (some (heard, [])) := by
    rw [Request.read_emptyLines]
    exact readable.1
  rw [← List.append_assoc] at input
  rw [turn_of_unmarked attached coherent idle unmarked,
    turn_of_unmarked attached' coherent idle unmarked', requestTurn_of_read input read,
    requestTurn_of_read rfl readable.1]
  -- An answer does not depend on what was in the input.
  exact ⟨_, rfl, rfl⟩

/-- What is done depends on the first turn only. -/
theorem advanceBy_of_turn {other : Connection} {progress : Progress}
    (turned : connection.turn true relay = some progress)
    (turned' : other.turn true relay = some progress) (turns : Nat) :
    connection.advanceBy true (turns + 1) relay = other.advanceBy true (turns + 1) relay := by
  simp only [advanceBy, turned, turned']

/-- What comes of empty lines and of items behind them, the first of which is no frame. -/
theorem advanceBy_emptyLines {returns : List Bool}
    (attached : connection.Attached (Relay.reached config events))
    (full : pool.Full) (readable : ∀ item ∈ items, item.Readable)
    (idle : (Relay.reached config events).recorder? connection.id = none)
    (leads : ∀ sent, items.head? ≠ some (.frame sent))
    (input : connection.input = returns.flatMap Line.emptyLine ++ items.flatMap Item.bytes)
    (finished : connection.finished = true) (enough : items.length < turns) :
    (connection.advanceBy true turns ((Relay.reached config events).withPackages pool)).Tells
      (Item.account connection.id connection.peer (Relay.reached config events) items) := by
  have coherent := Relay.coherent_reached config events
  obtain ⟨turns, rfl⟩ := Nat.exists_eq_add_of_lt enough
  cases items with
  | nil =>
      have unmarked : connection.input.head? ≠ some Frame.marker := by
        rw [input]
        exact Line.unmarked_emptyLines returns fun same => nomatch same
      have nothing : Request.read connection.input = .ok none := by
        rw [input, Request.read_emptyLines]
        rfl
      have turned := turn_of_unmarked attached coherent idle unmarked pool
      simp only [requestTurn, nothing, finished, ↓reduceIte] at turned
      simp only [List.length_nil, Nat.zero_add, advanceBy, turned]
      exact ⟨⟨pool, full, rfl⟩, rfl, rfl, rfl⟩
  | cons item items =>
      cases item with
      | frame sent => exact (leads sent rfl).elim
      | request message heard =>
          have attached' : Attached
              { connection with input := (Item.request message heard :: items).flatMap Item.bytes }
              (Relay.reached config events) := ⟨attached.opened, attached.linked⟩
          have tells := advanceBy_tells attached' full readable rfl finished enough
          obtain ⟨progress, turned, turned'⟩ := turn_emptyLines_request attached coherent idle
            (readable _ List.mem_cons_self) input pool
          rw [advanceBy_of_turn turned turned']
          exact tells

/-! ## Streams -/

theorem run_eq (unread : connection.input = []) (stream : Bytes) :
    connection.run relay stream =
      advanceBy true (stream.length + 1) { connection with input := stream, finished := true }
        (relay.withPackages relay.packagePool) := by
  rw [run, advance, unread]
  rfl

/-- A run over items and what is behind them: the items end it, or it goes on with what is behind
and has a turn for every byte of that. -/
theorem run_append {done : Account} (attached : connection.Attached (Relay.reached config events))
    (unread : connection.input = []) (readable : ∀ item ∈ items, item.Readable)
    (told : Item.account connection.id connection.peer (Relay.reached config events) items = done)
    (tail : Bytes) :
    (done.ending ≠ some .closedByPeer ∧
      (connection.run (Relay.reached config events) (items.flatMap Item.bytes ++ tail)).Tells
        done) ∨
    ∃ turns opened since idle, tail.length < turns ∧ done.ending = some .closedByPeer ∧
      done.relay = Relay.reached config since ∧ PackagePool.Full idle ∧
      Attached { connection with opened, input := tail, finished := true }
        (Relay.reached config since) ∧
      ∀ last, (advanceBy true turns { connection with opened, input := tail, finished := true }
          ((Relay.reached config since).withPackages idle)).Tells last →
        (connection.run (Relay.reached config events) (items.flatMap Item.bytes ++ tail)).Tells
          (done.followedBy last) := by
  have full := Relay.full_reached config events
  have short := Item.length_le_of_readable readable
  have attached' : Attached
      { connection with input := items.flatMap Item.bytes ++ tail, finished := true }
      (Relay.reached config events) := ⟨attached.opened, attached.linked⟩
  obtain ⟨spare, enough⟩ := Nat.exists_eq_add_of_le short
  have turns : (items.flatMap Item.bytes ++ tail).length + 1 =
      items.length + (spare + tail.length + 1) := by
    rw [List.length_append]
    omega
  rw [run_eq unread, turns]
  rcases advanceBy_items attached' full readable rfl told (spare + tail.length + 1) with
    ended | ⟨opened, since, idle, onwards⟩
  · exact .inl ended
  · exact .inr ⟨spare + tail.length + 1, opened, since, idle, by omega, onwards⟩

/-- **Empty lines between messages.** They change nothing before a request and at the end of the
stream, unless the session records in frames then. If it does, the connection ends with what was
done before. -/
theorem run_emptyLines {earlier later : List Item} {done : Account}
    (attached : connection.Attached (Relay.reached config events))
    (unread : connection.input = []) (readable : ∀ item ∈ earlier ++ later, item.Readable)
    (told : Item.account connection.id connection.peer
      (Relay.reached config events) earlier = done) (returns : List Bool) :
    ((done.ending = some .closedByPeer → done.relay.recorder? connection.id = none ∧
        ∀ sent, later.head? ≠ some (.frame sent)) →
      (connection.run (Relay.reached config events) (earlier.flatMap Item.bytes ++
          (returns.flatMap Line.emptyLine ++ later.flatMap Item.bytes))).Tells
        (Item.account connection.id connection.peer (Relay.reached config events)
          (earlier ++ later)) ∧
      (connection.run (Relay.reached config events)
          (earlier.flatMap Item.bytes ++ later.flatMap Item.bytes)).Tells
        (Item.account connection.id connection.peer (Relay.reached config events)
          (earlier ++ later))) ∧
    (done.ending = some .closedByPeer → (done.relay.recorder? connection.id).isSome = true →
      returns ≠ [] →
      (connection.run (Relay.reached config events) (earlier.flatMap Item.bytes ++
          (returns.flatMap Line.emptyLine ++ later.flatMap Item.bytes))).Tells
        { done with ending := some .malformedFrame }) := by
  have first (item : Item) (member : item ∈ earlier) : item.Readable :=
    readable item (List.mem_append_left _ member)
  have second (item : Item) (member : item ∈ later) : item.Readable :=
    readable item (List.mem_append_right _ member)
  have short := Item.length_le_of_readable second
  have taken := run_append attached unread first told
    (returns.flatMap Line.emptyLine ++ later.flatMap Item.bytes)
  refine ⟨fun quiet => ⟨?_, ?_⟩, fun passed records filled => ?_⟩
  · rw [Item.account_append, told]
    rcases taken with
      ⟨ended, tells⟩ | ⟨turns, opened, since, idle, enough, passed, stands, full, attached', onwards⟩
    · rw [if_neg ended]
      exact tells
    · obtain ⟨unrecording, leads⟩ := quiet passed
      rw [if_pos passed, stands]
      rw [stands] at unrecording
      rw [List.length_append] at enough
      exact onwards _
        (advanceBy_emptyLines attached' full second unrecording leads rfl rfl (by omega))
  · have whole : Attached { connection with
        input := earlier.flatMap Item.bytes ++ later.flatMap Item.bytes
        finished := true } (Relay.reached config events) := ⟨attached.opened, attached.linked⟩
    have enough := Nat.lt_succ_of_le (Item.length_le_of_readable readable)
    rw [List.flatMap_append] at enough
    rw [run_eq unread]
    exact advanceBy_tells whole (Relay.full_reached config events) readable
      List.flatMap_append.symm rfl enough
  · obtain ⟨returned, others, rfl⟩ := List.exists_cons_of_ne_nil filled
    rw [List.flatMap_cons, List.append_assoc] at taken ⊢
    rcases taken with
      ⟨ended, _⟩ | ⟨turns, opened, since, idle, enough, _, stands, full, attached', onwards⟩
    · exact (ended passed).elim
    · rw [stands] at records
      have last := onwards _
        (advanceBy_emptyLine_of_recorder attached' full records rfl (by omega))
      simp only [Account.followedBy, List.append_nil, ← stands] at last
      exact last

end Connection

namespace Sample

/-- A recorder gets ready to record. -/
def upToReady : List Item :=
  [item announce, item framed,
    item (setUp "/cam/t2".toList "RTP/AVP/TCP;unicast;interleaved=2-3;mode=record".toList)]

/-- The recorder records, and sends a frame. -/
def fromRecord : List Item := [item (plain .record), .frame ⟨2, [1]⟩]

end Sample

set_option maxRecDepth 100000 in
/-- The recorder may send an empty line before it records, and not while it does. -/
theorem run_emptyLines_recorder :
    ((Connection.new Sample.recorder Sample.address).run (Relay.reached {} [])
        (Sample.upToReady.flatMap Item.bytes ++
          ([true].flatMap Line.emptyLine ++ Sample.fromRecord.flatMap Item.bytes))).Tells
      (Item.account Sample.recorder Sample.address (Relay.reached {} [])
        (Sample.upToReady ++ Sample.fromRecord)) ∧
    ((Connection.new Sample.recorder Sample.address).run (Relay.reached {} [])
        ((Sample.upToReady ++ Sample.fromRecord).flatMap Item.bytes ++
          ([true].flatMap Line.emptyLine ++ [Item.frame ⟨2, [1]⟩].flatMap Item.bytes))).ending =
      some .malformedFrame := by
  have attached : (Connection.new Sample.recorder Sample.address).Attached (Relay.reached {} []) :=
    Connection.attached_new rfl Sample.address
  constructor
  · have readable : ∀ item ∈ Sample.upToReady ++ Sample.fromRecord, item.Readable := by
      decide +kernel
    have quiet : (Item.account Sample.recorder Sample.address (Relay.reached {} [])
        Sample.upToReady).relay.recorder? Sample.recorder = none := by decide +kernel
    have leads (sent : Frame) : Sample.fromRecord.head? ≠ some (.frame sent) :=
      fun same => nomatch same
    exact ((Connection.run_emptyLines attached rfl readable rfl [true]).1 fun _ =>
      ⟨quiet, leads⟩).1
  · have readable : ∀ item ∈ (Sample.upToReady ++ Sample.fromRecord) ++ [Item.frame ⟨2, [1]⟩],
        item.Readable := by decide +kernel
    have going : (Item.account Sample.recorder Sample.address (Relay.reached {} [])
        (Sample.upToReady ++ Sample.fromRecord)).ending = some .closedByPeer := by decide +kernel
    have records : ((Item.account Sample.recorder Sample.address (Relay.reached {} [])
        (Sample.upToReady ++ Sample.fromRecord)).relay.recorder? Sample.recorder).isSome = true := by
      decide +kernel
    exact ((Connection.run_emptyLines attached rfl readable rfl [true]).2 going records
      (by decide)).ending

set_option maxRecDepth 100000 in
/-- An empty line before a frame ends the connection, whether or not the session records. -/
theorem emptyLine_before_frame :
    ((Connection.new Sample.recorder Sample.address).run (Relay.reached {} [])
      ((Sample.upToReady ++ Sample.fromRecord).flatMap Item.bytes ++
        (Line.emptyLine true ++ (Item.frame ⟨2, [1]⟩).bytes))).ending = some .malformedFrame ∧
    ((Connection.new Sample.recorder Sample.address).run (Relay.reached {} [])
      ((Sample.upToReady ++ Sample.fromRecord).flatMap Item.bytes ++
        (Item.frame ⟨2, [1]⟩).bytes)).ending = some .closedByPeer ∧
    ((Connection.new Sample.recorder Sample.address).run (Relay.reached {} [])
      (Line.emptyLine true ++ (Item.frame ⟨2, [1]⟩).bytes)).ending = some .midMessage ∧
    ((Connection.new Sample.recorder Sample.address).run (Relay.reached {} [])
      (Item.frame ⟨2, [1]⟩).bytes).ending = some .closedByPeer := by
  decide +kernel

end MediaRelay
