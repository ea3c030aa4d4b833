import MediaRelay.Proofs.Connection.Items
import MediaRelay.Proofs.Relay.Coherence

/-! # Streams of items

A connection has two readers, one for frames and one for requests, which take turns as its session
starts and stops recording. Together they find the items that were sent and do what the account of
the items says (`run_items`): neither takes a byte of what the other has to read.
-/

namespace MediaRelay

namespace Connection

/-- A connection knows whether its session is open, and the session's link takes messages. -/
structure Attached (connection : Connection) (relay : Relay) : Prop where
  opened : connection.opened = (relay.session? connection.id).isSome
  linked : ∀ session, relay.session? connection.id = some session → session.linkOpen = true

variable {connection : Connection} {relay : Relay} {pool : PackagePool} {session : Session}
  {request : Request} {frame : Frame} {rest : Bytes}

theorem Attached.session? (attached : connection.Attached relay) (pool : PackagePool) :
    connection.session? (relay.withPackages pool) = relay.session? connection.id := by
  have same : (relay.withPackages pool).session? connection.id = relay.session? connection.id := rfl
  rw [Connection.session?, attached.opened, same]
  cases relay.session? connection.id <;> rfl

/-- A recording session is fed into a registered channel. -/
theorem feeding?_eq (attached : connection.Attached relay) (coherent : relay.Coherent)
    (pool : PackagePool) :
    connection.feeding? (relay.withPackages pool) =
      (relay.recorder? connection.id).map fun session =>
        (session, session.negotiation.channel.getD [],
          relay.channelAt (session.negotiation.channel.getD [])) := by
  unfold feeding? Relay.recorder?
  rw [attached.session?]
  cases found : relay.session? connection.id with
  | none => rfl
  | some session =>
      by_cases recording : (session.negotiation.isRecording && session.negotiation.interleaved) = true
      · have streaming : session.negotiation.state = .recording := by
          simpa [Negotiation.isRecording] using (Bool.and_eq_true_iff.mp recording).1
        obtain ⟨name, bound, produces⟩ :=
          (coherent.agrees connection.id session found).producing streaming
        have registered : relay.registry.get? name = some (relay.channelAt name) :=
          Relay.registered_of_refersTo (Channel.refersTo_iff.mpr (.inl produces))
        have unchanged : (relay.withPackages pool).registry = relay.registry := rfl
        simp [Option.filter, recording, bound, registered, unchanged]
      · simp [Option.filter, recording]

/-! ## Requests -/

theorem Attached.openedOn (attached : connection.Attached relay) (pool : PackagePool) :
    connection.openedOn (relay.withPackages pool) =
      (relay.after (.opened connection.id connection.peer)).withPackages pool := by
  rw [Connection.openedOn, Relay.after_opened, attached.opened]
  by_cases present : (relay.session? connection.id).isSome = true
  · rw [if_pos present, if_pos present]
  · rw [if_neg present, if_neg present]
    rfl

/-- After the first request the session is open. -/
theorem Attached.session_opened (attached : connection.Attached relay) : ∃ session,
    (relay.after (.opened connection.id connection.peer)).session? connection.id = some session ∧
      session.linkOpen = true := by
  rw [Relay.after_opened]
  cases found : relay.session? connection.id with
  | some session =>
      refine ⟨session, ?_, attached.linked session found⟩
      rw [if_pos (by rfl), found]
  | none =>
      refine ⟨(relay.sessionPool.acquire connection.id connection.peer relay.ports).1, ?_, ?_⟩
      · rw [if_neg (by simp), Relay.session?_openSession, if_pos rfl]
      · unfold SessionPool.acquire
        split <;> rfl

theorem write_eq (opened : connection.opened = true)
    (found : relay.session? connection.id = some session) (linked : session.linkOpen = true)
    (message : Bytes) :
    connection.write relay message = some ⟨connection.id, .written message⟩ := by
  simp only [write, Connection.session?, opened, found, Session.send, linked, ↓reduceIte]

/-- A request changes nothing about links. -/
theorem linked_route (found : relay.session? session.id = some session)
    (linked : session.linkOpen = true) (request : Request) : ∃ later,
      (relay.route Handlers.standard session request).1.session? session.id = some later ∧
        later.linkOpen = true := by
  obtain ⟨change, same⟩ := Relay.session?_route relay session request session.id
  rw [found, Option.map_some] at same
  exact ⟨_, same, linked⟩

theorem answer_tells (attached : connection.Attached relay)
    (identified : (relay.after (.opened connection.id connection.peer)).Identified)
    (full : pool.Full) (request : Request) (message rest : Bytes) :
    (connection.answer true (relay.withPackages pool) request rest).Tells
        ((Item.request message request).effect connection.id connection.peer relay) ∧
      (connection.answer true (relay.withPackages pool) request rest).connection =
        { connection with opened := true, input := rest } := by
  obtain ⟨session, found, linked⟩ := attached.session_opened
  have named := identified connection.id session found
  rw [Item.effect_request found]
  unfold answer
  rw [attached.openedOn]
  generalize relay.after (.opened connection.id connection.peer) = opened at found ⊢
  have present : (opened.withPackages pool).session? connection.id = some session := found
  rw [← named] at found
  obtain ⟨later, stays, linked⟩ := linked_route found linked request
  have sent (message : Bytes) : Connection.write { connection with opened := true, input := rest }
      ((opened.route Handlers.standard session request).1.withPackages pool) message =
        some ⟨connection.id, .written message⟩ :=
    write_eq rfl (named ▸ stays) linked message
  simp only [present, Relay.route_withPackages, sent]
  refine ⟨⟨⟨pool, full, rfl⟩, rfl, rfl, ?_⟩, trivial⟩
  simp [endingAfter]

/-- A connection stays attached as it answers. -/
theorem Attached.answered (attached : connection.Attached relay)
    (identified : (relay.after (.opened connection.id connection.peer)).Identified)
    (request : Request) (message rest : Bytes) :
    Attached { connection with opened := true, input := rest }
      ((Item.request message request).effect connection.id connection.peer relay).relay := by
  obtain ⟨session, found, linked⟩ := attached.session_opened
  have named := identified connection.id session found
  obtain ⟨later, stays, linked⟩ := linked_route (named ▸ found) linked request
  rw [named] at stays
  rw [Item.effect_request found]
  refine ⟨?_, fun present same => ?_⟩
  · rw [stays]
    rfl
  · obtain rfl := Option.some.inj (stays.symm.trans same)
    exact linked

theorem requestTurn_of_read {message : Bytes} (input : connection.input = message ++ rest)
    (readable : Request.read message = .ok (some (request, []))) :
    connection.requestTurn true relay = some (connection.answer true relay request rest) := by
  have whole := Request.read_append readable rest
  rw [List.nil_append, ← input] at whole
  rw [requestTurn, whole]

/-- At the end of the input the connection ends. -/
theorem requestTurn_of_nil (input : connection.input = []) (finished : connection.finished = true) :
    connection.requestTurn true relay = some (connection.endedBy relay .closedByPeer) := by
  have nothing : Request.read connection.input = .ok none := by
    rw [input]
    rfl
  simp only [requestTurn, nothing, finished, ↓reduceIte]

/-- Neither reader of frames takes anything where no frame begins. -/
theorem turn_eq_requestTurn (relay : Relay) (full : pool.Full)
    (opens : ∀ lead, connection.input.head? = some lead → Frame.opensRequest lead = true) :
    ∃ idle : PackagePool, idle.Full ∧ connection.turn true (relay.withPackages pool) =
      connection.requestTurn true (relay.withPackages idle) := by
  unfold turn
  cases connection.feeding? (relay.withPackages pool) with
  | some target =>
      obtain ⟨session, name, channel⟩ := target
      have stops (room : Nat) : Frame.read room connection.input = .ok none := by
        cases input : connection.input with
        | nil => rfl
        | cons lead rest => exact Frame.read_of_opensRequest (opens lead (by rw [input]; rfl))
      refine ⟨pool.acquire.2.release pool.acquire.1, full.acquire.2.release full.acquire.1, ?_⟩
      simp only [feedTurn, stops]
      rfl
  | none =>
      have other : connection.input.head? ≠ some Frame.marker := fun same =>
        absurd (opens _ same) (by decide)
      refine ⟨pool, full, ?_⟩
      simp only [plainTurn, other, ↓reduceIte]

/-! ## Frames -/

theorem feedTurn_tells (full : pool.Full) (short : frame.payload.length ≤ maxPayload)
    (input : connection.input = frame.head ++ frame.payload ++ rest) (session : Session)
    (name : Text) (channel : Channel) : ∃ progress,
      connection.feedTurn true (relay.withPackages pool) session name channel = some progress ∧
        progress.Tells
          { relay
            acts := [.fed name (Item.package session frame)]
            deliveries := relay.deliveries channel (Item.package session frame) } ∧
        progress.connection = { connection with input := rest } := by
  have whole := full.acquire.1
  have found : Frame.read pool.acquire.1.buffer.length connection.input =
      .ok (some (frame, rest)) := by
    rw [input, whole]
    exact Frame.read_head_append short short rest
  have shown := Package.trimmed_fill (whole ▸ short) true frame.channel
    (session.negotiation.ordinalForChannel frame.channel)
  have opened : (relay.withPackages pool).packagePool = pool := rfl
  simp only [feedTurn, opened, found]
  refine ⟨_, rfl, ⟨⟨_, full.returned frame.payload rfl, rfl⟩, ?_, ?_, rfl⟩, rfl⟩
  · simp [Act.trimmed, shown, Item.package]
  · rw [Item.package, ← shown, Relay.deliveries_trimmed]
    rfl

theorem plainTurn_frame (short : frame.payload.length ≤ maxPayload)
    (input : connection.input = frame.head ++ frame.payload ++ rest) :
    connection.plainTurn true relay =
      some ⟨relay, { connection with input := rest }, [.skipped frame], [], none⟩ := by
  have marked : connection.input.head? = some Frame.marker := by
    rw [input]
    rfl
  have found : Frame.read maxPayload connection.input = .ok (some (frame, rest)) := by
    rw [input]
    exact Frame.read_head_append short short rest
  simp only [plainTurn, marked, found, ↓reduceIte]

/-! ## Turns -/

/-- A connection takes exactly one item in a turn and does what its effect says. -/
theorem turn_tells {config : RelayConfig} {events : List Event} {item : Item}
    (attached : connection.Attached (Relay.reached config events)) (full : pool.Full)
    (readable : item.Readable) (input : connection.input = item.bytes ++ rest) :
    ∃ progress opened,
      connection.turn true ((Relay.reached config events).withPackages pool) = some progress ∧
        progress.Tells
          (item.effect connection.id connection.peer (Relay.reached config events)) ∧
        progress.connection = { connection with opened, input := rest } ∧
        Attached { connection with opened, input := rest }
          (item.effect connection.id connection.peer (Relay.reached config events)).relay := by
  have coherent := Relay.coherent_reached config events
  cases item with
  | frame sent =>
      have fed := feeding?_eq attached coherent pool
      unfold turn Item.effect
      cases recorder : (Relay.reached config events).recorder? connection.id with
      | none =>
          rw [recorder, Option.map_none] at fed
          simp only [fed, plainTurn_frame readable input]
          exact ⟨_, connection.opened, rfl, ⟨⟨pool, full, rfl⟩, rfl, rfl, rfl⟩, rfl,
            attached.opened, attached.linked⟩
      | some session =>
          rw [recorder, Option.map_some] at fed
          obtain ⟨progress, turned, tells, left⟩ := feedTurn_tells full readable input session
            (session.negotiation.channel.getD [])
            ((Relay.reached config events).channelAt (session.negotiation.channel.getD []))
          simp only [fed]
          exact ⟨progress, connection.opened, turned, tells, left, attached.opened, attached.linked⟩
  | request message heard =>
      obtain ⟨lead, others, opening, opens⟩ := readable.opens
      have begun : ∀ first, connection.input.head? = some first →
          Frame.opensRequest first = true := by
        intro first begins
        rw [input, Item.bytes, opening] at begins
        obtain rfl := Option.some.inj begins
        exact opens
      obtain ⟨idle, full, turned⟩ := turn_eq_requestTurn (Relay.reached config events) full begun
      have identified := Relay.identified_reached config
        (events ++ [.opened connection.id connection.peer])
      rw [Relay.reached_concat] at identified
      obtain ⟨tells, left⟩ := answer_tells attached identified full heard message rest
      exact ⟨_, true, turned.trans (requestTurn_of_read input readable.1), tells, left,
        attached.answered identified heard message rest⟩

/-! ## Streams -/

/-- What was done before comes first. -/
theorem tells_followedBy {done later : Progress} {first last : Account}
    (before : done.Tells first) (onwards : later.Tells last) :
    Progress.Tells
      { later with
        acts := done.acts ++ later.acts
        deliveries := done.deliveries ++ later.deliveries }
      (first.followedBy last) where
  relay := onwards.relay
  acts := by rw [List.map_append, before.acts, onwards.acts, Account.followedBy]
  deliveries := by rw [before.deliveries, onwards.deliveries, Account.followedBy]
  ending := onwards.ending

/-- By induction on the items: a turn for each of them, up to the one that ends the connection. If
none does, the connection goes on with the rest of its input. -/
theorem advanceBy_items {config : RelayConfig} {events : List Event} {items : List Item}
    {tail : Bytes} {done : Account} (attached : connection.Attached (Relay.reached config events))
    (full : pool.Full) (readable : ∀ item ∈ items, item.Readable)
    (input : connection.input = items.flatMap Item.bytes ++ tail)
    (told : Item.account connection.id connection.peer (Relay.reached config events) items = done)
    (spare : Nat) :
    (done.ending ≠ some .closedByPeer ∧
      (connection.advanceBy true (items.length + spare)
        ((Relay.reached config events).withPackages pool)).Tells done) ∨
    ∃ opened since idle, done.ending = some .closedByPeer ∧
      done.relay = Relay.reached config since ∧ PackagePool.Full idle ∧
      Attached { connection with opened, input := tail } (Relay.reached config since) ∧
      ∀ last, (advanceBy true spare { connection with opened, input := tail }
          ((Relay.reached config since).withPackages idle)).Tells last →
        (connection.advanceBy true (items.length + spare)
          ((Relay.reached config events).withPackages pool)).Tells (done.followedBy last) := by
  induction items generalizing connection events pool done with
  | nil =>
      subst told
      obtain rfl : connection.input = tail := input
      refine .inr ⟨connection.opened, events, pool, rfl, rfl, full, attached, fun last tells => ?_⟩
      rw [List.length_nil, Nat.zero_add]
      exact tells
  | cons item items ih =>
      rw [List.flatMap_cons, List.append_assoc] at input
      obtain ⟨progress, opened, turned, tells, left, attached⟩ :=
        turn_tells attached full (readable item List.mem_cons_self) input
      obtain ⟨idle, full, same⟩ := tells.relay
      obtain ⟨since, reached⟩ := Item.effect_reached config events connection.id connection.peer item
      rw [List.length_cons, Nat.add_right_comm]
      simp only [advanceBy, turned, tells.ending]
      split
      · rename_i ended
        rw [Item.account_of_ended items ended] at told
        subst told
        refine .inl ⟨fun closed => ?_, tells⟩
        have torn := Item.ending_effect connection.id connection.peer (Relay.reached config events) item
        rw [closed] at torn
        exact torn.elim (fun none => nomatch none) fun torn => nomatch torn
      · rename_i going
        rw [Item.account_of_going items going] at told
        subst told
        rw [left, same, reached]
        rw [reached] at attached
        have others (other : Item) (member : other ∈ items) : other.Readable :=
          readable other (List.mem_cons_of_mem _ member)
        rcases ih attached full others rfl rfl with
          ⟨ended, onwards⟩ | ⟨opened', since', idle', passed, stands, full', attached', onwards⟩
        · exact .inl ⟨ended, tells_followedBy tells onwards⟩
        · refine .inr ⟨opened', since', idle', passed, stands, full', attached', fun last more => ?_⟩
          rw [Account.followedBy_assoc]
          exact tells_followedBy tells (onwards last more)

/-- A connection with nothing left to read ends. -/
theorem advanceBy_nil {config : RelayConfig} {events : List Event} (full : pool.Full)
    (input : connection.input = []) (finished : connection.finished = true) (turns : Nat) :
    (connection.advanceBy true (turns + 1) ((Relay.reached config events).withPackages pool)).Tells
      { relay := Relay.reached config events, ending := some .closedByPeer } := by
  have nothing : ∀ lead, connection.input.head? = some lead → Frame.opensRequest lead = true := by
    intro lead begins
    rw [input] at begins
    exact nomatch begins
  obtain ⟨idle, full, turned⟩ := turn_eq_requestTurn (Relay.reached config events) full nothing
  rw [requestTurn_of_nil input finished] at turned
  simp only [advanceBy, turned]
  exact ⟨⟨idle, full, rfl⟩, rfl, rfl, rfl⟩

/-- A turn for each of the items, and one for the end. -/
theorem advanceBy_tells {config : RelayConfig} {events : List Event} {items : List Item}
    {turns : Nat} (attached : connection.Attached (Relay.reached config events))
    (full : pool.Full) (readable : ∀ item ∈ items, item.Readable)
    (input : connection.input = items.flatMap Item.bytes) (finished : connection.finished = true)
    (enough : items.length < turns) :
    (connection.advanceBy true turns ((Relay.reached config events).withPackages pool)).Tells
      (Item.account connection.id connection.peer (Relay.reached config events) items) := by
  obtain ⟨spare, rfl⟩ := Nat.exists_eq_add_of_lt enough
  rw [← List.append_nil (items.flatMap Item.bytes)] at input
  rcases advanceBy_items attached full readable input rfl (spare + 1) with
    ⟨_, tells⟩ | ⟨opened, since, idle, passed, stands, full, attached, onwards⟩
  · exact tells
  · have last : (advanceBy true (spare + 1) { connection with opened, input := [] }
        ((Relay.reached config since).withPackages idle)).Tells
          { relay := Relay.reached config since, ending := some .closedByPeer } := by
      apply advanceBy_nil full
      · rfl
      · exact finished
    have closed := onwards _ last
    rw [← stands, ← passed] at closed
    simp only [Account.followedBy, List.append_nil] at closed
    exact closed

/-- A connection on which nothing has happened knows that its session is not open. -/
theorem attached_new {id : SessionId} (absent : relay.session? id = none) (peer : Address) :
    (Connection.new id peer).Attached relay where
  opened := by
    rw [new, absent]
    rfl
  linked := fun session found => nomatch absent.symm.trans found

/-- **A connection takes its input apart as it was put together.** Whatever has been reached, a
stream of readable items does what the account of the items says: every request is answered once
and in order, a frame is pushed exactly while the session records in frames, and nothing is done
after the reply that ends the connection. -/
theorem run_items {config : RelayConfig} {events : List Event} {items : List Item}
    (attached : connection.Attached (Relay.reached config events))
    (unread : connection.input = []) (readable : ∀ item ∈ items, item.Readable) :
    (connection.run (Relay.reached config events) (items.flatMap Item.bytes)).Tells
      (Item.account connection.id connection.peer (Relay.reached config events) items) := by
  have enough := Nat.lt_succ_of_le (Item.length_le_of_readable readable)
  have full := Relay.full_reached config events
  have whole : connection.input ++ items.flatMap Item.bytes = items.flatMap Item.bytes := by
    rw [unread, List.nil_append]
  rw [run, advance, whole]
  -- The relay is itself with the packages that it has.
  change Progress.Tells (advanceBy true _ _ ((Relay.reached config events).withPackages
    (Relay.reached config events).packagePool)) _
  exact advanceBy_tells ⟨attached.opened, attached.linked⟩ full readable rfl rfl enough

end Connection

namespace Sample

/-- A request as the other side reads it. -/
def item (request : Request) : Item :=
  .request request.encode ((Request.parse request.encode).toOption.getD request)

/-- Frames before, while and after the recorder records, and behind its teardown. -/
def stream : List Item :=
  [item announce, item framed,
    item (setUp "/cam/t2".toList "RTP/AVP/TCP;unicast;interleaved=2-3;mode=record".toList),
    .frame ⟨2, [1]⟩, item (plain .record), .frame ⟨2, [0x41, 0x24]⟩, item (plain .pause),
    .frame ⟨2, [3]⟩, item (plain .teardown), .frame ⟨2, [4]⟩]

end Sample

set_option maxRecDepth 100000 in
/-- The frame that comes while the recorder records is pushed, those before and after are left out,
and the teardown ends the connection. -/
theorem run_items_recorder :
    ((Connection.new Sample.recorder Sample.address).run (Relay.reached {} [])
        (Sample.stream.flatMap Item.bytes)).Tells
      (Item.account Sample.recorder Sample.address (Relay.reached {} []) Sample.stream) ∧
    (Item.account Sample.recorder Sample.address (Relay.reached {} []) Sample.stream).ending =
      some .tornDown ∧
    ((Item.account Sample.recorder Sample.address (Relay.reached {} []) Sample.stream).acts.filter
      fun act => act matches .fed _ _ | .skipped _) =
      [.skipped ⟨2, [1]⟩, .fed "cam".toList ⟨[0x41, 0x24], 2, true, 2, 1⟩, .skipped ⟨2, [3]⟩] := by
  refine ⟨Connection.run_items (Connection.attached_new rfl Sample.address) rfl ?_, ?_, ?_⟩
  · decide +kernel
  · decide +kernel
  · decide +kernel

end MediaRelay
