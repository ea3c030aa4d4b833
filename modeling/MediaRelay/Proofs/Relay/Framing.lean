import MediaRelay.Proofs.Relay.Portless
import MediaRelay.Proofs.Relay.Transitions

/-! # One framing for all media

All media of a session travel in frames or all in datagrams. A set-up that would end this is refused
and leaves the session as it was, while the only medium may be set up anew to travel the other way.
So of the faults that can keep media from streaming (`MediaFault`) two never occur, and what a
session notes of its framing when it starts to stream holds of every medium
(`Relay.framing_reached`).
-/

namespace MediaRelay

/-- Why the media of a description cannot stream in a direction. -/
inductive MediaFault where
  | notSetUp
  | otherDirection
  | mixedFraming
  | noMedia
  deriving DecidableEq, Repr

theorem toOption_eq_some_iff {ε α : Type} {result : Except ε α} {value : α} :
    result.toOption = some value ↔ result = .ok value := by
  cases result <;> simp [Except.toOption]

namespace Description

/-- Only what lists media is read as a description. -/
theorem controls_ne_nil_of_parse {raw : Bytes} {description : Description}
    (read : parse raw = .ok description) : description.controls ≠ [] := by
  unfold parse at read
  split at read
  · exact nomatch read
  · split at read
    · exact nomatch read
    · split at read
      · exact nomatch read
      · split at read
        · exact nomatch read
        · rename_i filled
          obtain rfl := Except.ok.inj read
          exact fun empty => filled (List.map_eq_nil_iff.mp empty)

end Description

namespace Media

/-- A medium travels as was asked. -/
theorem isInterleaved_of_ofTransport? {ordinal : Ordinal} {transport : Transport} {media : Media}
    (asked : ofTransport? ordinal transport = some media) :
    media.isInterleaved = transport.isInterleaved := by
  unfold ofTransport? at asked
  split at asked
  · rename_i framed
    obtain ⟨_, _, rfl⟩ := Option.map_eq_some_iff.mp asked
    exact framed.symm
  · rename_i unframed
    obtain ⟨_, _, rfl⟩ := Option.map_eq_some_iff.mp asked
    exact (Bool.eq_false_iff.mpr unframed).symm

end Media

namespace Negotiation

/-- Looks at the media of controls one after the other. `seen` is how those before travel. -/
def inspectFrom (negotiation : Negotiation) (direction : Direction) :
    (seen : Option Bool) → List Text → Except MediaFault Bool
  | none, [] => .error .noMedia
  | some interleaved, [] => .ok interleaved
  | seen, control :: controls =>
    match negotiation.media.get? control with
    | none => .error .notSetUp
    | some media =>
      if media.record ≠ decide (direction = .record) then
        .error .otherDirection
      else if seen.any fun interleaved => interleaved ≠ media.isInterleaved then
        .error .mixedFraming
      else
        negotiation.inspectFrom direction (some media.isInterleaved) controls

/-- How the media of a description travel, or the first fault that keeps them from streaming. -/
def inspect (negotiation : Negotiation) (description : Description) (direction : Direction) :
    Except MediaFault Bool :=
  negotiation.inspectFrom direction none description.controls

/-- A medium of a control goes one way and travels in one manner. -/
def Goes (negotiation : Negotiation) (direction : Direction) (interleaved : Bool)
    (control : Text) : Prop :=
  ∃ media, negotiation.media.get? control = some media ∧ media.isInterleaved = interleaved ∧
    (media.record = true ↔ direction = .record)

/-- Sets up a medium, whether or not it goes with the others. -/
def renew (negotiation : Negotiation) (control : Text) (media : Media) : Negotiation :=
  { negotiation with media := negotiation.media.set control media }

variable {negotiation : Negotiation} {description : Description} {direction : Direction}
  {interleaved : Bool} {seen : Option Bool} {control : Text} {controls : List Text} {media : Media}

/-! ## What is inspected -/

theorem goes_iff (held : negotiation.media.get? control = some media) :
    negotiation.Goes direction interleaved control ↔
      media.isInterleaved = interleaved ∧ media.record = decide (direction = .record) := by
  have way : media.record = decide (direction = .record) ↔
      (media.record = true ↔ direction = .record) := by
    cases media.record <;> simp
  rw [way]
  constructor
  · rintro ⟨other, found, goes⟩
    obtain rfl := Option.some.inj (found.symm.trans held)
    exact goes
  · exact fun goes => ⟨media, held, goes⟩

/-- By induction on the controls: nothing is found fault with if all media go the same way and
travel like those before. -/
theorem inspectFrom_eq_ok_iff : negotiation.inspectFrom direction seen controls = .ok interleaved ↔
    (∀ control ∈ controls, negotiation.Goes direction interleaved control) ∧
      (∀ before ∈ seen, before = interleaved) ∧ (seen = none → controls ≠ []) := by
  induction controls generalizing seen with
  | nil => cases seen <;> simp [inspectFrom]
  | cons control controls ih =>
      rw [List.forall_mem_cons, inspectFrom]
      cases held : negotiation.media.get? control with
      | none =>
          refine iff_of_false (fun same => nomatch same) ?_
          rintro ⟨⟨⟨media, found, _⟩, _⟩, _⟩
          exact nomatch held.symm.trans found
      | some media =>
          rw [goes_iff held]
          by_cases way : media.record = decide (direction = .record)
          · cases seen with
            | none => simp [way, ih, and_comm]
            | some before =>
                by_cases same : before = media.isInterleaved
                · subst same
                  simp [way, ih, and_comm]
                · have apart : media.isInterleaved = interleaved → before ≠ interleaved :=
                    fun travels => travels ▸ same
                  simpa [way, same] using fun travels _ => apart travels
          · simp [way]

theorem mem_mapM_of_forall {α β : Type} {read : α → Option β} {fits : β → Prop} {keys : List α}
    (all : ∀ key ∈ keys, ∃ value, read key = some value ∧ fits value) :
    ∃ found, keys.mapM read = some found ∧ found.length = keys.length ∧
      ∀ value ∈ found, fits value := by
  induction keys with
  | nil => exact ⟨[], rfl, rfl, fun _ member => nomatch member⟩
  | cons key keys ih =>
      obtain ⟨⟨value, here, fit⟩, rest⟩ := List.forall_mem_cons.mp all
      obtain ⟨values, there, length, fits⟩ := ih rest
      refine ⟨value :: values, ?_, congrArg (· + 1) length, List.forall_mem_cons.mpr ⟨fit, fits⟩⟩
      simp only [List.mapM_cons, here, there, Option.pure_def, Option.bind_eq_bind,
        Option.bind_some]

theorem framing?_eq_some_iff :
    negotiation.framing? description direction = some interleaved ↔
      description.controls ≠ [] ∧
        ∀ control ∈ description.controls, negotiation.Goes direction interleaved control := by
  refine ⟨exists_of_framing?, fun ⟨filled, all⟩ => ?_⟩
  obtain ⟨found, read, length, fits⟩ := mem_mapM_of_forall all
  unfold framing?
  rw [read]
  cases found with
  | nil => exact (filled (List.length_eq_zero_iff.mp length.symm)).elim
  | cons first rest =>
      have leads := fits first List.mem_cons_self
      refine (if_pos (List.all_eq_true.mpr fun media member => ?_)).trans (congrArg some leads.1)
      obtain ⟨travels, way⟩ := fits media member
      simp [travels, leads.1, way]

/-- The inspection finds out how the media of a description travel, or a fault. -/
theorem framing?_eq_inspect (negotiation : Negotiation) (description : Description)
    (direction : Direction) : negotiation.framing? description direction =
      (negotiation.inspect description direction).toOption := by
  refine Option.ext fun interleaved => ?_
  rw [toOption_eq_some_iff, inspect, inspectFrom_eq_ok_iff, framing?_eq_some_iff]
  simp [and_comm]

/-! ## Faults that do not occur -/

/-- By induction on the controls: those seen before travel like all media. -/
theorem Alike.inspectFrom_ne_mixedFraming (alike : negotiation.Alike)
    (like : ∀ before ∈ seen, ∀ control media, negotiation.media.get? control = some media →
      media.isInterleaved = before) :
    negotiation.inspectFrom direction seen controls ≠ .error .mixedFraming := by
  induction controls generalizing seen with
  | nil => cases seen <;> simp [inspectFrom]
  | cons control controls ih =>
      rw [inspectFrom]
      cases held : negotiation.media.get? control with
      | none => exact fun same => nomatch same
      | some media =>
          have goes_on : negotiation.inspectFrom direction (some media.isInterleaved) controls ≠
              .error .mixedFraming := by
            refine ih fun before first other second listed => ?_
            obtain rfl := Option.some.inj first
            exact alike other second control media listed held
          have still : (seen.any fun before => before ≠ media.isInterleaved) = false := by
            cases seen with
            | none => rfl
            | some before => simp [like before rfl control media held]
          simp only [still, Bool.false_eq_true, ↓reduceIte]
          split
          · exact fun same => nomatch same
          · exact goes_on

/-- By induction on the controls: if there is a control, it is seen. -/
theorem inspectFrom_ne_noMedia (filled : seen = none → controls ≠ []) :
    negotiation.inspectFrom direction seen controls ≠ .error .noMedia := by
  induction controls generalizing seen with
  | nil =>
      cases seen with
      | none => exact (filled rfl rfl).elim
      | some before => exact fun same => nomatch same
  | cons control controls ih =>
      rw [inspectFrom]
      cases negotiation.media.get? control with
      | none => exact fun same => nomatch same
      | some media =>
          simp only
          repeat' split
          · exact fun same => nomatch same
          · exact fun same => nomatch same
          · exact ih fun none => nomatch none

theorem Alike.inspect_ne_mixedFraming (alike : negotiation.Alike) (description : Description)
    (direction : Direction) :
    negotiation.inspect description direction ≠ .error .mixedFraming :=
  alike.inspectFrom_ne_mixedFraming fun _ none => nomatch none

theorem inspect_ne_noMedia (negotiation : Negotiation) (filled : description.controls ≠ [])
    (direction : Direction) : negotiation.inspect description direction ≠ .error .noMedia :=
  inspectFrom_ne_noMedia fun _ => filled

/-! ## Set-ups -/

/-- A medium goes with the others if and only if it leaves all of them alike. -/
theorem Alike.renew_iff (alike : negotiation.Alike) :
    (negotiation.renew control media).Alike ↔ negotiation.mixes control media = false := by
  refine ⟨fun renewed => not_mixes_iff.mpr fun other held different listed => ?_,
    fun goes => alike.set goes rfl⟩
  refine renewed other held control media ?_ ?_
  · exact (Table.get?_set ..).trans ((if_neg different).trans listed)
  · exact (Table.get?_set ..).trans (if_pos rfl)

end Negotiation

namespace Relay

/-- A request asks to set up a medium of a channel. -/
structure AsksFor (relay : Relay) (request : Request) (plan : Handler.SetupPlan) (media : Media) :
    Prop where
  known : request.known? = some .setup
  planned : Handler.setupPlan relay request = .ok plan
  asked : Media.ofTransport? (.ofNat plan.ordinal) plan.transport = some media

variable {relay : Relay} {session : Session} {request : Request} {plan : Handler.SetupPlan}
  {media : Media}

/-- A medium that does not go with the others is refused, if nothing else was before. -/
theorem AsksFor.dispatch_of_mixes (asks : relay.AsksFor request plan media)
    (found : relay.session? session.id = some session) (settled : session.negotiation.Settled)
    (mixed : session.negotiation.mixes plan.control media = true) :
    ∃ refusal, relay.dispatch Handlers.standard session request = (relay, .error refusal) ∧
      (session.objection? .setup request = none → session.negotiation.mayBind plan.name = true →
        refusal.status = .unsupportedTransport) := by
  cases unopposed : session.objection? .setup request with
  | some refusal =>
      exact ⟨refusal, dispatch_of_opposed asks.known unopposed, fun none => nomatch none⟩
  | none =>
      rw [dispatch_of_admits ⟨asks.known, unopposed⟩ rfl]
      by_cases free : session.negotiation.mayBind plan.name = true
      · have bound := settled.bound (Negotiation.media_ne_nil_of_mixes mixed)
        have fixed := Negotiation.bind_eq_self bound free
        obtain ⟨reason, misfit⟩ : ∃ reason, Handler.setUp plan (session.negotiation.bind plan.name) =
            .error (.unsupportedTransport reason) := by
          simp only [fixed, Handler.setUp, asks.asked, Negotiation.addMedia_of_mixes mixed]
          exact ⟨_, rfl⟩
        refine ⟨.unsupportedTransport reason, ?_, fun _ _ => rfl⟩
        simp only [Handler.setup, asks.planned, free, misfit, Bool.not_true, Bool.false_eq_true,
          ↓reduceIte]
        rw [negotiate_eq_self found fixed]
      · refine ⟨boundElsewhere session, ?_, fun _ free' => (free free').elim⟩
        simp only [Handler.setup, asks.planned, free, Bool.not_false, ↓reduceIte]

/-- The only medium of a session is set up anew as is asked. -/
theorem AsksFor.dispatch_of_only (asks : relay.AsksFor request plan media)
    (found : relay.session? session.id = some session)
    (unopposed : session.objection? .setup request = none)
    (free : session.negotiation.mayBind plan.name = true)
    (only : ∀ control held, session.negotiation.media.get? control = some held →
      control = plan.control)
    (served : relay.ports.isSome = true ∨ media.isInterleaved = true) :
    ∃ after reply later, relay.dispatch Handlers.standard session request = (after, .ok reply) ∧
      after.session? session.id = some later ∧
      ∀ control, later.negotiation.media.get? control =
        if control = plan.control then some media else none := by
  have goes : (session.negotiation.bind plan.name).mixes plan.control media = false :=
    Negotiation.not_mixes_iff.mpr fun other held different listed =>
      (different (only other held listed)).elim
  generalize made : Negotiation.settle
    { session.negotiation.bind plan.name with
      media := session.negotiation.media.set plan.control media } plan.description = negotiation
  have fits : Handler.setUp plan (session.negotiation.bind plan.name) = .ok negotiation :=
    setUp_eq_ok_iff.mpr ⟨media, asks.asked, goes, made.symm⟩
  have given : ∃ transport, Handler.grantedTransport relay plan.transport = .ok transport := by
    rw [Media.isInterleaved_of_ofTransport? asks.asked] at served
    unfold Handler.grantedTransport
    rcases served with ported | framed
    · obtain ⟨ports, present⟩ := Option.isSome_iff_exists.mp ported
      rw [present]
      split <;> exact ⟨_, rfl⟩
    · exact ⟨_, if_pos framed⟩
  obtain ⟨transport, given⟩ := given
  -- What is granted does not depend on what sessions have negotiated.
  have apart : Handler.grantedTransport (relay.negotiate session.id fun _ => negotiation)
    plan.transport = .ok transport := given
  obtain ⟨reply, carried⟩ : ∃ reply, relay.dispatch Handlers.standard session request =
      (relay.negotiate session.id fun _ => negotiation, .ok reply) := by
    rw [dispatch_of_admits ⟨asks.known, unopposed⟩ rfl]
    simp only [Handler.setup, asks.planned, free, fits, apart, Bool.not_true, Bool.false_eq_true,
      ↓reduceIte]
    exact ⟨_, rfl⟩
  refine ⟨_, reply, _, carried, session?_negotiate_self found fun _ => negotiation,
    fun control => ?_⟩
  change negotiation.media.get? control = _
  rw [← made, Negotiation.media_settle, Table.get?_set]
  by_cases same : control = plan.control
  · rw [if_pos same, if_pos same]
  · rw [if_neg same, if_neg same]
    exact Option.eq_none_iff_forall_ne_some.mpr fun held listed => same (only control held listed)

/-- **All media of a session travel alike.** A set-up that would end this is refused and changes
nothing, and the only medium may be set up to travel either way. No inspection finds media of a
description that travel differently, nor a description without media, and a session that starts to
stream notes how every medium of it travels. -/
theorem framing_reached {config : RelayConfig} {events : List Event} {id : SessionId}
    (found : (reached config events).session? id = some session) :
    session.negotiation.Alike ∧
    (∀ request plan media, (reached config events).AsksFor request plan media →
      ¬ (session.negotiation.renew plan.control media).Alike →
        ∃ reply, (reached config events).route Handlers.standard session request =
            (reached config events, reply) ∧
          reply.response.status ≠ .ok ∧
          (session.objection? .setup request = none →
            session.negotiation.mayBind plan.name = true →
              reply.response.status = .unsupportedTransport)) ∧
    (∀ request plan media, (reached config events).AsksFor request plan media →
      session.objection? .setup request = none → session.negotiation.mayBind plan.name = true →
      (∀ control held, session.negotiation.media.get? control = some held →
        control = plan.control) →
      config.ports.isSome = true ∨ media.isInterleaved = true →
        ∃ after reply later,
          (reached config events).route Handlers.standard session request = (after, reply) ∧
          reply.response.status = .ok ∧ after.session? id = some later ∧
          ∀ control, later.negotiation.media.get? control =
            if control = plan.control then some media else none) ∧
    (∀ raw description direction, Description.parse raw = .ok description →
      session.negotiation.framing? description direction =
          (session.negotiation.inspect description direction).toOption ∧
        session.negotiation.inspect description direction ≠ .error .mixedFraming ∧
        session.negotiation.inspect description direction ≠ .error .noMedia) ∧
    (∀ request after reply, ∀ direction : Direction, request.known? = some direction.method →
      (reached config events).route Handlers.standard session request = (after, reply) →
      reply.response.status = .ok →
        ∃ later, after.session? id = some later ∧
          ∀ control media, later.negotiation.media.get? control = some media →
            media.isInterleaved = later.negotiation.interleaved) := by
  obtain rfl := identified_reached config events id session found
  have settled := ((coherent_reached config events).agrees session.id session found).settled
  have alike := alike_reached found
  refine ⟨alike, ?_, ?_, ?_, ?_⟩
  · intro request plan media asks unlike
    rw [alike.renew_iff, Bool.not_eq_false] at unlike
    obtain ⟨refusal, refused, unsupported⟩ := asks.dispatch_of_mixes found settled unlike
    refine ⟨numbered request (unnumbered (.error refusal)), ?_, ?_⟩
    · rw [route_eq, refused]
    · rw [status_numbered, unnumbered, status_reply]
      exact ⟨refusal.status_ne_ok, unsupported⟩
  · intro request plan media asks unopposed free only served
    rw [← ports_reached config events] at served
    obtain ⟨after, reply, later, carried, left, renewed⟩ :=
      asks.dispatch_of_only found unopposed free only served
    have granted : (unnumbered (.ok reply)).response.status = .ok := by
      have outcome := outcome_dispatch (reached config events) session request
      rw [carried] at outcome
      exact outcome.status_ok
    refine ⟨after, numbered request (unnumbered (.ok reply)), later, ?_, ?_, left, renewed⟩
    · rw [route_eq, carried]
    · rw [status_numbered]
      exact granted
  · intro raw description direction read
    have filled := Description.controls_ne_nil_of_parse read
    exact ⟨session.negotiation.framing?_eq_inspect description direction,
      alike.inspect_ne_mixedFraming description direction,
      session.negotiation.inspect_ne_noMedia filled direction⟩
  · intro request after reply direction known routed granted
    have outcome := outcome_dispatch (reached config events) session request
    have status := congrArg (fun answered => answered.2.response.status) routed
    obtain ⟨answer, answered⟩ := status_route_ok_iff.mp (status.trans granted)
    rw [answered] at outcome
    obtain ⟨method, later, known', left, step, _⟩ := outcome.transition found settled
    have same : method = direction.method := Option.some.inj (known'.symm.trans known)
    obtain ⟨description, _, filled, fit⟩ := step.fitFor same
    rw [route_eq] at routed
    rw [congrArg Prod.fst routed] at left
    have onwards : reached config (events ++ [.requested session.id request]) = after := by
      rw [reached_concat, after_requested found, route_eq, congrArg Prod.fst routed]
    rw [← onwards] at left
    have stays := alike_reached left
    rw [onwards] at left
    refine ⟨later, left, fun control media listed => ?_⟩
    -- The description has a medium, whose way of travelling was noted.
    obtain ⟨first, others, controls⟩ := List.exists_cons_of_ne_nil filled
    obtain ⟨held, present, _, travels⟩ := fit first (controls ▸ List.mem_cons_self)
    exact (stays control media first held listed present).trans travels

end Relay

namespace Sample

/-- A viewer has set up the only medium of a channel in frames. -/
def settled : List Event := watched ++ [.requested viewer viewFrames]

end Sample

namespace Relay

set_option maxRecDepth 100000 in
/-- A viewer of two media in frames is refused datagrams for one of them, and a viewer of one medium
is granted them. -/
theorem framing_reached_viewers :
    (∃ session reply, (reached Sample.config Sample.attending).session? Sample.viewer = some session ∧
      (reached Sample.config Sample.attending).route Handlers.standard session Sample.datagrams =
        (reached Sample.config Sample.attending, reply) ∧
      reply.response.status = .unsupportedTransport) ∧
    ∃ session after reply later,
      (reached Sample.config Sample.settled).session? Sample.viewer = some session ∧
      session.negotiation.media.get? "t1".toList = some ⟨false, 0, .interleaved 2 3⟩ ∧
      (reached Sample.config Sample.settled).route Handlers.standard session Sample.viewDatagrams =
        (after, reply) ∧
      reply.response.status = .ok ∧ after.session? Sample.viewer = some later ∧
      later.negotiation.media.get? "t1".toList = some ⟨false, 0, .udp 5000 5001⟩ := by
  constructor
  · have shown : ∃ session ∈ (reached Sample.config Sample.attending).session? Sample.viewer,
        ∃ plan ∈ (Handler.setupPlan (reached Sample.config Sample.attending)
          Sample.datagrams).toOption,
        ∃ media ∈ Media.ofTransport? (.ofNat plan.ordinal) plan.transport,
          session.negotiation.mixes plan.control media = true ∧
            session.objection? .setup Sample.datagrams = none ∧
            session.negotiation.mayBind plan.name = true := by decide +kernel
    obtain ⟨session, found, plan, planned, media, asked, mixed, unopposed, free⟩ := shown
    have known : Sample.datagrams.known? = some .setup := by decide +kernel
    obtain ⟨alike, refuses, _⟩ := framing_reached found
    have unlike : ¬ (session.negotiation.renew plan.control media).Alike := by
      rw [alike.renew_iff, mixed]
      exact Bool.noConfusion
    obtain ⟨reply, routed, _, unsupported⟩ := refuses Sample.datagrams plan media
      ⟨known, toOption_eq_some_iff.mp planned, asked⟩ unlike
    exact ⟨session, reply, found, routed, unsupported unopposed free⟩
  · have shown : ∃ session ∈ (reached Sample.config Sample.settled).session? Sample.viewer,
        ∃ plan ∈ (Handler.setupPlan (reached Sample.config Sample.settled)
          Sample.viewDatagrams).toOption,
        ∃ media ∈ Media.ofTransport? (.ofNat plan.ordinal) plan.transport,
          media = ⟨false, 0, .udp 5000 5001⟩ ∧ plan.control = "t1".toList ∧
            session.negotiation.media.entries = [("t1".toList, ⟨false, 0, .interleaved 2 3⟩)] ∧
            session.objection? .setup Sample.viewDatagrams = none ∧
            session.negotiation.mayBind plan.name = true := by decide +kernel
    obtain ⟨session, found, plan, planned, media, asked, made, control, entries, unopposed, free⟩ :=
      shown
    have known : Sample.viewDatagrams.known? = some .setup := by decide +kernel
    have only (other : Text) (held : Media)
        (listed : session.negotiation.media.get? other = some held) : other = plan.control := by
      rw [← Table.mem_entries_iff, entries, List.mem_singleton] at listed
      exact (congrArg Prod.fst listed).trans control.symm
    obtain ⟨_, _, replaces, _⟩ := framing_reached found
    obtain ⟨after, reply, later, routed, status, left, renewed⟩ := replaces Sample.viewDatagrams plan
      media ⟨known, toOption_eq_some_iff.mp planned, asked⟩ unopposed free only (.inl rfl)
    refine ⟨session, after, reply, later, found, ?_, routed, status, left, ?_⟩
    · rw [← Table.mem_entries_iff, entries]
      exact List.mem_singleton_self _
    · rw [renewed, if_pos control.symm, made]

end Relay

end MediaRelay
