import MediaRelay.Proofs.Connection.Feeding
import MediaRelay.Proofs.Connection.Looking
import MediaRelay.Proofs.Connection.Streams
import MediaRelay.Proofs.Connection.Traces
import MediaRelay.Proofs.Message.Extents
import MediaRelay.Proofs.Relay.FanOut

/-! # What a connection does about a stream

Whatever a connection receives, it takes whole messages off it until it ends
(`Connection.run_transcript`). Each message has one act, and the connection writes one response for
each request. It ends after a response, or for what it finds last, and then it writes one more
response exactly if that is a request which it can refuse.
-/

namespace MediaRelay

namespace Item

/-- An item is all that is read from its bytes. -/
def Whole : Item → Prop
  | .frame sent => sent.payload.length ≤ maxPayload
  | .request message heard => Request.read message = .ok (some (heard, []))

/-- What is done about an item is about that item: a frame is pushed or left out, and a request is
carried out or refused. -/
def ServedBy : Item → Act → Prop
  | .frame sent, .fed _ package => package.channel = sent.channel ∧ package.payload = sent.payload
  | .frame sent, .skipped left => left = sent
  | .request _ heard, .answered asked _ => asked = heard
  | _, _ => False

end Item

namespace Act

/-- Why a connection ends with what it does. -/
def ending? (running : Bool) : Act → Option Ending
  | answered _ reply =>
    if reply.closes then some .tornDown else if running then none else some .serverStopped
  | _ => none

theorem ending?_ne_malformedRequest (act : Act) (running : Bool) :
    act.ending? running ≠ some .malformedRequest := by
  unfold ending?
  split
  · split
    · exact nofun
    · split <;> exact nofun
  · exact nofun

end Act

theorem Relay.Sound.afterAll {relay : Relay} (sound : relay.Sound) (events : List Event) :
    (relay.afterAll events).Sound := by
  unfold Relay.afterAll
  induction events generalizing relay with
  | nil => exact sound
  | cons event events ih => exact ih (sound.step event)

namespace Connection

/-- What a connection finds where it is now. -/
def finds (connection : Connection) (relay : Relay) : Found :=
  look (relay.recorder? connection.id).isSome connection.input

variable {connection : Connection} {relay : Relay} {running : Bool} {done : Progress}

/-! ## Messages -/

theorem parcelsFor_deliveries_eq_nil {id : SessionId} {package : Package}
    (silent : relay.deliver? package id = none) (channel : Channel) :
    Relay.parcelsFor id (relay.deliveries channel package) = [] := by
  rw [Relay.parcelsFor, List.filterMap_eq_nil_iff]
  intro delivery member
  obtain ⟨subscriber, _, delivered⟩ := List.mem_filterMap.mp member
  have recipient := Relay.recipient_of_deliver? delivered
  refine if_neg fun own => ?_
  rw [← recipient, own, silent] at delivered
  cases delivered

theorem parcelsFor_written (id : SessionId) (message : Bytes) :
    Relay.parcelsFor id [⟨id, .written message⟩] = [.written message] := by
  simp [Relay.parcelsFor]

theorem Attached.write_eq (attached : connection.Attached relay) (message : Bytes) :
    connection.write relay message = some ⟨connection.id, .written message⟩ := by
  cases found : relay.session? connection.id with
  | none =>
      have unopened := attached.opened
      rw [found] at unopened
      simp only [write, Connection.session?, unopened, Option.isSome_none, Bool.false_eq_true,
        ↓reduceIte]
  | some session =>
      have opened := attached.opened
      rw [found] at opened
      exact Connection.write_eq opened found (attached.linked session found) message

/-! ## Turns -/

/-- What a turn does about the next item, or about the end of the input. -/
inductive Moves (connection : Connection) (running : Bool) (done : Progress) : Prop where
  | served {item : Item} {act : Act}
      (input : connection.input = item.bytes ++ done.connection.input) (whole : item.Whole)
      (acts : done.acts = [act]) (served : item.ServedBy act)
      (written : Relay.parcelsFor connection.id done.deliveries = act.response?.toList)
      (ending : done.ending = act.ending? running)
  | stopped {ending : Ending} (found : (done.connection.finds done.relay).ending? = some ending)
      (input : connection.input = done.connection.input)
      (acts : done.acts =
        ((done.connection.finds done.relay).refusal?.map Act.rejected).toList)
      (written : Relay.parcelsFor connection.id done.deliveries =
        done.acts.filterMap Act.response?)
      (ended : done.ending = some ending)

theorem isSome_feeding? (attached : connection.Attached relay) (coherent : relay.Coherent) :
    (connection.feeding? relay).isSome = (relay.recorder? connection.id).isSome := by
  have fed := feeding?_eq attached coherent relay.packagePool
  change connection.feeding? relay = _ at fed
  rw [fed, Option.isSome_map]

theorem moves_takeFrame {frame : Frame} {rest : Bytes} (full : relay.packagePool.Full)
    (input : connection.input = frame.head ++ frame.payload ++ rest)
    (short : frame.payload.length ≤ maxPayload) :
    connection.Moves running (connection.takeFrame relay frame rest) := by
  unfold takeFrame
  cases feeding : connection.feeding? relay with
  | none => exact @Moves.served _ _ _ (.frame frame) (.skipped frame) input short rfl rfl rfl rfl
  | some target =>
      obtain ⟨session, name, channel⟩ := target
      obtain ⟨own, recording, _, _⟩ := feeding?_eq_some feeding
      have found : (relay.withPackages relay.packagePool.acquire.2).session? connection.id =
          some session := session?_eq_some own
      have quiet : session.negotiation.isPlaying = false := by
        rw [Negotiation.isPlaying, recording]
        rfl
      refine @Moves.served _ _ _ (.frame frame) (.fed name _) input short rfl ⟨rfl, ?_⟩ ?_ rfl
      · exact Package.payload_fill (full.acquire.1 ▸ short)
      · apply parcelsFor_deliveries_eq_nil
        simp only [Relay.deliver?, found, quiet, Bool.false_eq_true, ↓reduceIte]

theorem moves_answer {message rest : Bytes} {request : Request}
    (attached : connection.Attached relay) (sound : relay.Sound)
    (input : connection.input = message ++ rest)
    (whole : Request.read message = .ok (some (request, []))) :
    connection.Moves running (connection.answer running relay request rest) := by
  obtain ⟨session, found, linked⟩ := attached.session_opened
  have named := (sound.step (.opened connection.id connection.peer)).identified _ session found
  have opening := openedOn_eq attached.opened
  unfold answer
  dsimp only
  rw [opening]
  generalize relay.after (.opened connection.id connection.peer) = opened at found ⊢
  simp only [found]
  rw [← named] at found
  obtain ⟨later, stays, linked⟩ := linked_route found linked request
  rw [named] at stays
  have sent (message : Bytes) : Connection.write { connection with opened := true, input := rest }
      (opened.route Handlers.standard session request).1 message =
        some ⟨connection.id, .written message⟩ :=
    @Connection.write_eq { connection with opened := true, input := rest } _ _ rfl stays linked
      message
  simp only [sent]
  exact @Moves.served _ _ _ (.request message request) (.answered request _) input whole rfl rfl
    (parcelsFor_written _ _) rfl

theorem moves_stop {found : Found} (attached : connection.Attached relay)
    (finished : connection.finished = true) (same : connection.finds relay = found)
    (took : connection.stop relay found = some done) : connection.Moves running done := by
  obtain ⟨ending, ended, took⟩ := Option.bind_eq_some_iff.mp took
  simp only [finished, Bool.true_eq_false, and_false, ↓reduceIte] at took
  cases refused : found.refusal? with
  | none =>
      rw [refused] at took
      obtain rfl := Option.some.inj took
      refine .stopped (same ▸ ended) rfl ?_ rfl rfl
      rw [endedBy, same, refused]
      rfl
  | some status =>
      rw [refused] at took
      obtain rfl := Option.some.inj took
      obtain rfl := Option.some.inj (ended.symm.trans (Found.ending?_of_refusal? refused))
      refine .stopped (same ▸ ended) rfl ?_ ?_ rfl
      · rw [reject, same, refused]
        rfl
      · rw [reject, attached.write_eq]
        exact parcelsFor_written _ _

/-- Every turn of a connection that receives no more does something about the next item or ends. -/
theorem moves_of_turn (sound : relay.Sound) (attached : connection.Attached relay)
    (finished : connection.finished = true) (took : connection.turn running relay = some done) :
    connection.Moves running done := by
  have awaits := isSome_feeding? attached sound.coherent
  have glanced := sound.full.glanced (connection.feeding? relay).isSome
  have attached' : connection.Attached (relay.withPackages
      (relay.packagePool.glanced (connection.feeding? relay).isSome)) :=
    ⟨attached.opened, attached.linked⟩
  cases found : look (connection.feeding? relay).isSome connection.input with
  | frame frame rest =>
      rw [turn_of_frame sound.full found] at took
      obtain rfl := Option.some.inj took
      obtain ⟨input, _, short⟩ := Frame.eq_append_of_read (read_of_look found).1
      exact moves_takeFrame sound.full input short
  | request request rest =>
      rw [turn_of_no_frame sound.full found nofun] at took
      obtain rfl := Option.some.inj took
      obtain ⟨message, input, whole⟩ := Request.exists_message_of_read (read_of_look_request found)
      have alone := whole []
      rw [List.append_nil] at alone
      exact moves_answer attached' (sound.withPackages glanced) input alone
  | _ =>
      rw [turn_of_no_frame sound.full found nofun] at took
      exact moves_stop attached' finished (awaits ▸ found) took

theorem Turn.attached (turn : connection.Turn relay done) (attached : connection.Attached relay) :
    done.connection.Attached done.relay := by
  have serves := turn.serves attached.opened
  have linked : done.relay.Linked connection.id := by
    cases turn with
    | still _ left _ _ => exact left ▸ attached.linked
    | fed _ left _ _ _ _ _ => exact left ▸ attached.linked
    | @answered pool request _ left _ _ =>
        have first := (Relay.change_after (relay.withPackages pool)
          (.opened connection.id connection.peer)).linked attached.linked nofun
        rw [left]
        exact (Relay.change_after _ (.requested connection.id request)).linked first nofun
  exact ⟨serves.named ▸ serves.known, serves.named ▸ linked⟩

/-! ## Streams -/

/-- Acts on at most so many messages. Before each turn other things may happen to the relay, and the
server is running or not. -/
def advanceAmid (meanwhile : Nat → List Event) (running : Nat → Bool) :
    (turns : Nat) → Connection → Relay → Progress
  | 0, connection, relay => { relay, connection }
  | turns + 1, connection, relay =>
    let relay := relay.afterAll (meanwhile turns)
    match connection.turn (running turns) relay with
    | none => { relay, connection }
    | some done =>
      if done.ending.isSome then
        done
      else
        let later := advanceAmid meanwhile running turns done.connection done.relay
        { later with
          acts := done.acts ++ later.acts
          deliveries := done.deliveries ++ later.deliveries }

/-- Lets the connection receive a whole stream and act on it to its end, while other things
happen. -/
def runAmid (meanwhile : Nat → List Event) (running : Nat → Bool) (connection : Connection)
    (relay : Relay) (stream : Bytes) : Progress :=
  advanceAmid meanwhile running (connection.input.length + stream.length + 1)
    { connection with input := connection.input ++ stream, finished := true } relay

theorem advanceAmid_nothing (running : Bool) (turns : Nat) (connection : Connection)
    (relay : Relay) : advanceAmid (fun _ => []) (fun _ => running) turns connection relay =
      connection.advanceBy running turns relay := by
  induction turns generalizing connection relay with
  | zero => rfl
  | succ turns ih =>
      simp only [advanceAmid, advanceBy, ih]
      rfl

/-- If nothing else happens, a connection runs alone. -/
theorem runAmid_nothing (connection : Connection) (relay : Relay) (stream : Bytes) :
    connection.runAmid (fun _ => []) (fun _ => true) relay stream =
      connection.run relay stream := by
  rw [runAmid, advanceAmid_nothing, run, advance, List.length_append]

/-- What a connection has done about the items at the front of a stream, and how it has ended. -/
structure Transcript (id : SessionId) (stream : Bytes) (done : Progress) (items : List Item)
    (acts : List Act) (refusal? : Option Status) : Prop where
  named : done.connection.id = id
  taken : stream = items.flatMap Item.bytes ++ done.connection.input
  whole : ∀ item ∈ items, item.Whole
  served : List.Forall₂ Item.ServedBy items acts
  did : done.acts = acts ++ (refusal?.map Act.rejected).toList
  written : Relay.parcelsFor id done.deliveries = done.acts.filterMap Act.response?
  /-- The connection ends with its last answer, or for what it finds last. -/
  ended : ∃ ending, done.ending = some ending ∧
    (refusal? = none ∧ (∃ act running, acts.getLast? = some act ∧
        act.ending? running = some ending) ∨
      refusal? = (done.connection.finds done.relay).refusal? ∧
        (done.connection.finds done.relay).ending? = some ending)

variable {id : SessionId} {stream : Bytes} {items : List Item} {acts : List Act}
  {refusal? : Option Status}

/-- An item that is served comes before what is done about the rest of the stream. -/
theorem Transcript.cons {first : Progress} {item : Item} {act : Act}
    (later : Transcript id first.connection.input done items acts refusal?)
    (input : stream = item.bytes ++ first.connection.input)
    (whole : item.Whole) (acted : first.acts = [act]) (served : item.ServedBy act)
    (written : Relay.parcelsFor id first.deliveries = act.response?.toList) :
    Transcript id stream
      { done with
        acts := first.acts ++ done.acts
        deliveries := first.deliveries ++ done.deliveries }
      (item :: items) (act :: acts) refusal? where
  named := later.named
  taken := by rw [input, later.taken, List.flatMap_cons, List.append_assoc]
  whole := List.forall_mem_cons.mpr ⟨whole, later.whole⟩
  served := .cons served later.served
  did := by rw [acted, later.did, List.singleton_append, List.cons_append]
  written := by
    rw [Relay.parcelsFor, List.filterMap_append, ← Relay.parcelsFor, ← Relay.parcelsFor, written,
      later.written, acted, List.filterMap_append]
    cases responded : act.response? <;> simp [responded]
  ended := by
    obtain ⟨ending, ended, reason⟩ := later.ended
    refine ⟨ending, ended, reason.imp_left ?_⟩
    rintro ⟨unrefused, last, running, latest, ends⟩
    exact ⟨unrefused, last, running, by rw [List.getLast?_cons, latest, Option.getD_some], ends⟩

theorem Attached.afterAll {events : List Event} (attached : connection.Attached relay)
    (identified : relay.Identified) (apart : ∀ event ∈ events, event.actor? ≠ some connection.id) :
    connection.Attached (relay.afterAll events) := by
  have kept := (Relay.keeps_afterAll identified apart).session
  exact ⟨kept.symm ▸ attached.opened, kept.symm ▸ attached.linked⟩

/-- By induction on the turns: each takes a whole item off the input, or is the last. -/
theorem transcript_advanceAmid {meanwhile : Nat → List Event} {turns : Nat} (running : Nat → Bool)
    (sound : relay.Sound) (attached : connection.Attached relay)
    (finished : connection.finished = true) (enough : connection.input.length < turns)
    (apart : ∀ turn, ∀ event ∈ meanwhile turn, event.actor? ≠ some connection.id) :
    ∃ items acts refusal?, Transcript connection.id connection.input
      (connection.advanceAmid meanwhile running turns relay) items acts refusal? := by
  induction turns generalizing connection relay with
  | zero => exact absurd enough (Nat.not_lt_zero _)
  | succ turns ih =>
      have onwards := attached.afterAll sound.identified (apart turns)
      have sound := sound.afterAll (meanwhile turns)
      obtain ⟨done, took, advances⟩ :
          ∃ done, connection.turn (running turns) (relay.afterAll (meanwhile turns)) = some done ∧
            connection.Advances done := turn_of_finished finished _
      have moves := moves_of_turn sound onwards finished took
      have turn := turn_cases sound.full onwards.opened took
      have named := (turn.serves onwards.opened).named
      simp only [advanceAmid, took]
      split
      · rename_i ended
        obtain ⟨ending, ended⟩ := Option.isSome_iff_exists.mp ended
        cases moves with
        | @served item act input whole did served written ends =>
            refine ⟨[item], [act], none, named, ?_, ?_, .cons served .nil, ?_, ?_, ending, ended,
              ?_⟩
            · rw [input, List.flatMap_singleton]
            · simpa using whole
            · rw [did]
              rfl
            · rw [written, did]
              cases responded : act.response? <;> simp [responded]
            · exact .inl ⟨rfl, act, running turns, rfl, ends.symm.trans ended⟩
        | stopped found input did written ends =>
            obtain rfl := Option.some.inj (ended.symm.trans ends)
            exact ⟨[], [], _, named, input, by simp, .nil, did, written, _, ended,
              .inr ⟨rfl, found⟩⟩
      · rename_i going
        obtain ⟨shorter, same⟩ := advances.resolve_left going
        cases moves with
        | @served item act input whole did served written ends =>
            have apart' (turn : Nat) (event : Event) (member : event ∈ meanwhile turn) :
                event.actor? ≠ some done.connection.id := named ▸ apart turn event member
            obtain ⟨items, acts, refusal?, later⟩ := ih (turn.acts.sound sound)
              (turn.attached onwards) (same.trans finished) (by omega) apart'
            rw [named] at later
            exact ⟨item :: items, act :: acts, refusal?,
              later.cons input whole did served written⟩
        | stopped _ _ _ _ ends => exact absurd (by rw [ends]; rfl) going

/-- A connection refuses exactly if it ends with a request that it can refuse. -/
theorem Transcript.isSome_refusal?_iff
    (transcript : Transcript id stream done items acts refusal?) :
    refusal?.isSome ↔ done.ending = some .malformedRequest := by
  obtain ⟨ending, ended, ⟨unrefused, act, running, _, ends⟩ | ⟨same, found⟩⟩ := transcript.ended
  · rw [unrefused, ended]
    constructor
    · intro refused
      cases refused
    · intro malformed
      obtain rfl := Option.some.inj malformed
      exact absurd ends (act.ending?_ne_malformedRequest running)
  · rw [same, ended, ← found]
    exact Found.isSome_refusal?_iff _

theorem Transcript.finds_of_refusal? {status : Status}
    (transcript : Transcript id stream done items acts (some status)) :
    (done.connection.finds done.relay).refusal? = some status := by
  obtain ⟨_, _, ⟨unrefused, _⟩ | ⟨same, _⟩⟩ := transcript.ended
  · cases unrefused
  · exact same.symm

/-- **A connection ends and answers exactly what it has read.** Whatever it receives, and whatever
happens meanwhile, it takes whole messages off the stream, does one thing about each and comes to an
end. What it writes is one response for each request, in order, and one more exactly if it ends with
a request which it can refuse. -/
theorem run_transcript {config : RelayConfig} {events : List Event}
    {meanwhile : Nat → List Event} (running : Nat → Bool)
    (attached : connection.Attached (Relay.reached config events))
    (unread : connection.input = [])
    (apart : ∀ turn, ∀ event ∈ meanwhile turn, event.actor? ≠ some connection.id)
    (stream : Bytes) :
    let done := connection.runAmid meanwhile running (Relay.reached config events) stream
    (∃ items acts refusal?, Transcript connection.id stream done items acts refusal? ∧
      (refusal?.isSome ↔ done.ending = some .malformedRequest) ∧
      ∀ status, refusal? = some status →
        (done.connection.finds done.relay).refusal? = some status) ∧
    connection.run (Relay.reached config events) stream =
      connection.runAmid (fun _ => []) (fun _ => true) (Relay.reached config events) stream := by
  intro done
  have sound := Relay.sound_reached config events
  have received : Attached { connection with input := connection.input ++ stream, finished := true }
      (Relay.reached config events) := ⟨attached.opened, attached.linked⟩
  have enough : (connection.input ++ stream).length <
      connection.input.length + stream.length + 1 := by
    rw [List.length_append]
    exact Nat.lt_succ_self _
  obtain ⟨items, acts, refusal?, transcript⟩ :=
    transcript_advanceAmid running sound received rfl enough apart
  have front : connection.input ++ stream = stream := by rw [unread, List.nil_append]
  change Transcript connection.id (connection.input ++ stream) done _ _ _ at transcript
  rw [front] at transcript
  refine ⟨⟨items, acts, refusal?, transcript, transcript.isSome_refusal?_iff, ?_⟩,
    (runAmid_nothing connection _ stream).symm⟩
  rintro status rfl
  exact transcript.finds_of_refusal?

end Connection

namespace Sample

/-- The stream up to the frame that is pushed, and then a line that no request begins with. -/
def brokenOff : Bytes := (stream.take 6).flatMap Item.bytes ++ Utf8.encode "BAD\r\n\r\n".toList

/-- What the recorder does about it. A viewer comes between all the turns. -/
def refused : Progress :=
  (Connection.new recorder address).runAmid (fun _ => [.opened viewer distant]) (fun _ => true)
    (Relay.reached {} []) brokenOff

end Sample

set_option maxRecDepth 100000 in
/-- A recorder whose input breaks off while it records has four requests answered and is then
refused. -/
theorem run_transcript_recorder :
    ((∃ items acts refusal?,
        Connection.Transcript Sample.recorder Sample.brokenOff Sample.refused items acts refusal? ∧
        (refusal?.isSome ↔ Sample.refused.ending = some .malformedRequest) ∧
        ∀ status, refusal? = some status →
          (Sample.refused.connection.finds Sample.refused.relay).refusal? = some status) ∧
      (Connection.new Sample.recorder Sample.address).run (Relay.reached {} []) Sample.brokenOff =
        (Connection.new Sample.recorder Sample.address).runAmid (fun _ => []) (fun _ => true)
          (Relay.reached {} []) Sample.brokenOff) ∧
    Sample.refused.ending = some .malformedRequest ∧
    Sample.refused.acts.map (fun act => act.response?.isSome) =
      [true, true, true, false, true, false, true] ∧
    Sample.refused.acts.getLast? = some (.rejected .badRequest) := by
  refine ⟨Connection.run_transcript (fun _ => true) (Connection.attached_new rfl Sample.address)
    rfl ?_ Sample.brokenOff, ?_, ?_, ?_⟩
  · intro turn event member
    obtain rfl := List.mem_singleton.mp member
    decide
  · decide +kernel
  · decide +kernel
  · decide +kernel

end MediaRelay
