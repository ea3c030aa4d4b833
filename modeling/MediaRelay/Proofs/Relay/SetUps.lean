import MediaRelay.Proofs.Relay.ProducerLock
import Mathlib.Data.List.Induction

/-! # Set-ups in the course of a run

A session sets up one medium at a time. `Relay.Renegotiates` has a case for everything that an event
can make of what a session has negotiated, and `Relay.renegotiates_after` says that there are no
others. So every medium of a session is the one that the last set-up of its control asked for
(`Relay.asked_reached`), and all of them travel alike (`Relay.alike_reached`).
-/

namespace MediaRelay

/-- The method that starts media in a direction. -/
def Direction.method : Direction → Method
  | .record => .record
  | .play => .play

namespace Handler.SetupPlan

/-- The last of several set-ups that is about a control. -/
def last? (control : Text) (plans : List SetupPlan) : Option SetupPlan :=
  plans.reverse.find? fun plan => plan.control = control

theorem last?_concat (control : Text) (plans : List SetupPlan) (plan : SetupPlan) :
    last? control (plans ++ [plan]) =
      if plan.control = control then some plan else last? control plans := by
  by_cases same : plan.control = control <;> simp [last?, same]

end Handler.SetupPlan

namespace Negotiation

/-- All media travel alike. -/
def Alike (negotiation : Negotiation) : Prop :=
  ∀ control media other held, negotiation.media.get? control = some media →
    negotiation.media.get? other = some held → media.isInterleaved = held.isInterleaved

variable {negotiation : Negotiation} {control : Text} {media : Media}

theorem not_mixes_iff : negotiation.mixes control media = false ↔
    ∀ other held, other ≠ control → negotiation.media.get? other = some held →
      held.isInterleaved = media.isInterleaved := by
  simp only [mixes, List.any_eq_false, Bool.and_eq_true, decide_eq_true_eq, not_and, not_not,
    Prod.forall, Table.mem_entries_iff]
  exact ⟨fun apart other held different listed => apart other held listed different,
    fun apart other held listed different => apart other held different listed⟩

/-- A medium that goes with the others leaves all of them alike. -/
theorem Alike.set (alike : negotiation.Alike) (goes : negotiation.mixes control media = false)
    {changed : Negotiation} (held : changed.media = negotiation.media.set control media) :
    changed.Alike := by
  have others := not_mixes_iff.mp goes
  intro first media' second media'' listed listed'
  rw [held, Table.get?_set] at listed listed'
  split at listed
  · split at listed'
    · rw [← Option.some.inj listed, ← Option.some.inj listed']
    · rename_i different
      rw [← Option.some.inj listed, others second media'' different listed']
  · rename_i different
    split at listed'
    · rw [← Option.some.inj listed', others first media' different listed]
    · exact alike first media' second media'' listed listed'

theorem alike_initial : initial.Alike := fun _ _ _ _ listed => nomatch listed

theorem Alike.congr {changed : Negotiation} (alike : negotiation.Alike)
    (same : changed.media = negotiation.media) : changed.Alike := by
  rw [Alike, same]
  exact alike

@[simp] theorem media_pause (negotiation : Negotiation) :
    negotiation.pause.media = negotiation.media := by
  unfold Negotiation.pause
  split <;> rfl

end Negotiation

namespace Relay

/-- What a session sets up by an event. A medium is set up even where the relay then has no port for
it. -/
def setUp? (relay : Relay) (id : SessionId) : Event → Option Handler.SetupPlan
  | .requested actor request =>
    if actor = id ∧ request.known? = some .setup then
      (relay.session? id).bind fun session =>
        if session.objection? .setup request = none then
          (Handler.setupPlan relay request).toOption.filter fun plan =>
            session.negotiation.mayBind plan.name &&
              (Handler.setUp plan (session.negotiation.bind plan.name)).isOk
        else
          none
    else
      none
  | _ => none

/-- What a session sets up in the course of a run, in order. -/
def setUps (relay : Relay) (id : SessionId) : List Event → List Handler.SetupPlan
  | [] => []
  | event :: events => (relay.setUp? id event).toList ++ (relay.after event).setUps id events

theorem setUps_concat (relay : Relay) (id : SessionId) (events : List Event) (event : Event) :
    relay.setUps id (events ++ [event]) =
      relay.setUps id events ++ ((relay.afterAll events).setUp? id event).toList := by
  induction events generalizing relay with
  | nil => simp [setUps, afterAll]
  | cons first events ih =>
      rw [List.cons_append, setUps, ih, ← List.append_assoc, ← setUps]
      rfl

/-- The cases of what an event makes of what a session has negotiated. -/
inductive Renegotiates (relay : Relay) (id : SessionId) (event : Event) (before : Negotiation) :
    Negotiation → Prop where
  | same (silent : relay.setUp? id event = none) : Renegotiates relay id event before before
  | bound {name : Text} (silent : relay.setUp? id event = none)
      (free : before.mayBind name = true) : Renegotiates relay id event before (before.bind name)
  | setUp {plan : Handler.SetupPlan} {media : Media} (told : relay.setUp? id event = some plan)
      (free : before.mayBind plan.name = true)
      (listed : plan.description.controls[plan.ordinal]? = some plan.control)
      (asked : Media.ofTransport? (.ofNat plan.ordinal) plan.transport = some media)
      (goes : before.mixes plan.control media = false) :
      Renegotiates relay id event before (Negotiation.settle
        { before.bind plan.name with media := before.media.set plan.control media }
          plan.description)
  | started {direction : Direction} {name : Text} {description : Description} {interleaved : Bool}
      (silent : relay.setUp? id event = none) (granted : relay.Grants event id direction.method)
      (bound : before.channel = some name)
      (described : (relay.channelAt name).description = some description)
      (travels : before.framing? description direction = some interleaved) :
      Renegotiates relay id event before (before.start direction interleaved)
  | paused (silent : relay.setUp? id event = none) : Renegotiates relay id event before before.pause
  | cleared (silent : relay.setUp? id event = none) : Renegotiates relay id event before .initial

variable {relay : Relay} {session later : Session} {request : Request} {id : SessionId}
  {event : Event} {plan : Handler.SetupPlan}

/-! ## One event -/

theorem setUp?_eq_some_iff (found : relay.session? session.id = some session) :
    relay.setUp? session.id (.requested session.id request) = some plan ↔
      session.Admits .setup request ∧ Handler.setupPlan relay request = .ok plan ∧
        session.negotiation.mayBind plan.name = true ∧
        ∃ negotiation,
          Handler.setUp plan (session.negotiation.bind plan.name) = .ok negotiation := by
  have carried (plan : Handler.SetupPlan) :
      (Handler.setUp plan (session.negotiation.bind plan.name)).isOk = true ↔ ∃ negotiation,
        Handler.setUp plan (session.negotiation.bind plan.name) = .ok negotiation := by
    cases Handler.setUp plan (session.negotiation.bind plan.name) <;>
      simp [Except.isOk, Except.toBool]
  have planned (plan : Handler.SetupPlan) : (Handler.setupPlan relay request).toOption = some plan ↔
      Handler.setupPlan relay request = .ok plan := by
    cases Handler.setupPlan relay request <;> simp [Except.toOption]
  simp only [setUp?, true_and, Option.ite_none_right_eq_some, found, Option.bind_some,
    Option.filter_eq_some_iff, Bool.and_eq_true, carried, planned]
  constructor
  · rintro ⟨known, unopposed, planned, free, fits⟩
    exact ⟨⟨known, unopposed⟩, planned, free, fits⟩
  · rintro ⟨admitted, planned, free, fits⟩
    exact ⟨admitted.known, admitted.unopposed, planned, free, fits⟩

theorem setUp?_of_foreign (foreign : event.actor? ≠ some id) : relay.setUp? id event = none := by
  cases event with
  | requested actor request => exact if_neg fun acting => foreign (congrArg some acting.1)
  | _ => rfl

theorem append_of_silent (silent : relay.setUp? id event = none)
    (plans : List Handler.SetupPlan) : plans ++ (relay.setUp? id event).toList = plans := by
  rw [silent, Option.toList_none, List.append_nil]

/-- What is set up stays set up, whether or not a port is granted. -/
theorem session?_after_setUp (found : relay.session? session.id = some session)
    (told : relay.setUp? session.id (.requested session.id request) = some plan)
    {negotiation : Negotiation}
    (fits : Handler.setUp plan (session.negotiation.bind plan.name) = .ok negotiation) :
    (relay.after (.requested session.id request)).session? session.id =
      some (session.negotiate fun _ => negotiation) := by
  obtain ⟨admitted, planned, free, _⟩ := (setUp?_eq_some_iff found).mp told
  rw [after_requested found, route_eq, dispatch_of_admits admitted rfl]
  simp only [Handler.setup, planned, free, fits, Bool.not_true, Bool.false_eq_true, ↓reduceIte]
  cases Handler.grantedTransport (relay.negotiate session.id fun _ => negotiation)
    plan.transport with
  | error refusal => exact session?_negotiate_self found _
  | ok transport => exact session?_negotiate_self found _

/-- The cases for the session that sends a request. -/
theorem renegotiates_requested (coherent : relay.Coherent)
    (found : relay.session? session.id = some session)
    (left : (relay.after (.requested session.id request)).session? session.id = some later) :
    relay.Renegotiates session.id (.requested session.id request) session.negotiation
      later.negotiation := by
  cases told : relay.setUp? session.id (.requested session.id request) with
  | some plan =>
      obtain ⟨_, planned, free, negotiation, fits⟩ := (setUp?_eq_some_iff found).mp told
      have kept := session?_after_setUp found told fits
      obtain rfl := Option.some.inj (kept.symm.trans left)
      obtain ⟨media, asked, goes, rfl⟩ := setUp_eq_ok_iff.mp fits
      exact .setUp told free (setupPlan_ok planned).2.2.2.2 asked goes
  | none =>
      have missed {plan : Handler.SetupPlan} {negotiation : Negotiation}
          (admitted : session.Admits .setup request)
          (planned : Handler.setupPlan relay request = .ok plan)
          (free : session.negotiation.mayBind plan.name = true) :
          Handler.setUp plan (session.negotiation.bind plan.name) ≠ .ok negotiation := by
        intro fits
        have carried := (setUp?_eq_some_iff found).mpr ⟨admitted, planned, free, negotiation, fits⟩
        exact nomatch told.symm.trans carried
      have settled := (coherent.agrees session.id session found).settled
      have outcome := outcome_dispatch relay session request
      have starts {direction : Direction} {plan : Handler.StreamPlan} {reply : Reply}
          (admitted : session.Admits direction.method request)
          (past : session.negotiation.state ≠ .init)
          (planned : Handler.streamPlan direction relay session request = .ok plan)
          (answered : (relay.dispatch Handlers.standard session request).2 = .ok reply) :
          relay.Renegotiates session.id (.requested session.id request) session.negotiation
            (session.negotiation.start direction plan.interleaved) := by
        obtain ⟨named, registered, description, described, travels⟩ := streamPlan_ok planned
        rw [← channelAt_of_found registered] at described
        exact .started told
          ⟨request, _, rfl, admitted.known, reply?_requested found request,
            status_route_ok_iff.mpr ⟨reply, answered⟩⟩
          (streamName_eq_ok settled past named) described travels
      rw [after_requested found, route_eq] at left
      generalize answered : (relay.dispatch Handlers.standard session request).2 = result at outcome
      generalize (relay.dispatch Handlers.standard session request).1 = after at outcome left
      cases outcome with
      | refused _ =>
          obtain rfl := Option.some.inj (found.symm.trans left)
          exact .same told
      | informed _ _ _ _ =>
          obtain rfl := Option.some.inj (found.symm.trans left)
          exact .same told
      | announced _ planned _ =>
          obtain rfl := Option.some.inj ((session?_negotiate_self found _).symm.trans left)
          exact .bound told (announcement_ok planned).2.2
      | boundOnly _ _ free _ =>
          obtain rfl := Option.some.inj ((session?_negotiate_self found _).symm.trans left)
          exact .bound told free
      | ungranted admitted planned free fits _ => exact (missed admitted planned free fits).elim
      | setUp admitted planned free fits _ => exact (missed admitted planned free fits).elim
      | @recorded plan admitted planned _ =>
          obtain rfl := Option.some.inj ((session?_negotiate_self found _).symm.trans left)
          exact starts admitted (ne_init_of_allowed admitted.allowed rfl) planned answered
      | @played plan admitted planned =>
          obtain rfl := Option.some.inj ((session?_negotiate_self found _).symm.trans left)
          exact starts admitted (ne_init_of_allowed admitted.allowed rfl) planned answered
      | paused _ =>
          obtain rfl := Option.some.inj ((session?_negotiate_self found _).symm.trans left)
          exact .paused told
      | tornDown _ =>
          have stays : (relay.teardown session.id).session? session.id = some session := found
          obtain rfl := Option.some.inj ((session?_negotiate_self stays _).symm.trans left)
          exact .cleared told

/-- **Every event makes one of these of what a session has negotiated**, if the session is open
before and after. -/
theorem renegotiates_after (identified : relay.Identified) (coherent : relay.Coherent)
    (found : relay.session? id = some session)
    (left : (relay.after event).session? id = some later) :
    relay.Renegotiates id event session.negotiation later.negotiation := by
  by_cases acting : event.actor? = some id
  · cases event with
    | requested actor request =>
        obtain rfl := Option.some.inj acting
        obtain rfl := identified actor session found
        exact renegotiates_requested coherent found left
    | opened actor peer =>
        obtain rfl := Option.some.inj acting
        rw [after_opened, found, Option.isSome_some, if_pos rfl, found] at left
        obtain rfl := Option.some.inj left
        exact .same rfl
    | closed actor =>
        obtain rfl := Option.some.inj acting
        exact nomatch left.symm.trans ((session?_closeSession relay actor actor).trans (if_pos rfl))
    | linkFailed actor =>
        obtain rfl := Option.some.inj acting
        have severed := (session?_closeLink relay actor actor).trans (if_pos rfl)
        rw [found, Option.map_some] at severed
        obtain rfl := Option.some.inj (severed.symm.trans left)
        exact .same rfl
    | _ => exact nomatch acting
  · have kept := (change_after relay event).keeps identified acting
    rw [kept.session, found] at left
    obtain rfl := Option.some.inj left
    exact .same (setUp?_of_foreign acting)

/-- A session that is not open before an event has negotiated nothing after it. -/
theorem negotiation_of_absent (identified : relay.Identified) (coherent : relay.Coherent)
    (absent : relay.session? id = none) (left : (relay.after event).session? id = some later) :
    later.negotiation = .initial := by
  have change := change_after relay event
  by_cases acting : event.actor? = some id
  · generalize relay.after event = after at change left
    cases change with
    | idle same => exact nomatch left.symm.trans ((same.session? id).trans absent)
    | ensured _ => exact nomatch acting
    | opened fresh =>
        obtain rfl := Option.some.inj acting
        rw [session?_openSession, if_pos rfl] at left
        obtain rfl := Option.some.inj left
        exact (negotiation_acquire coherent.cleared _ _ _).1
    | requested found =>
        obtain rfl := Option.some.inj acting
        exact nomatch absent.symm.trans found
    | closed found =>
        obtain rfl := Option.some.inj acting
        exact nomatch absent.symm.trans found
    | linkFailed =>
        obtain rfl := Option.some.inj acting
        rw [session?_closeLink, if_pos rfl, absent] at left
        exact nomatch left
  · exact nomatch left.symm.trans ((change.keeps identified acting).session.trans absent)

/-! ## Runs -/

/-- What holds of a session that has negotiated nothing and is preserved by whatever an event makes
of it holds of every session that is reached. -/
theorem negotiated_induction {motive : List Event → Negotiation → Prop} {config : RelayConfig}
    (fresh : ∀ events, motive events .initial)
    (step : ∀ events event (session later : Session),
      (reached config (events ++ [event])).session? id = some later →
      (reached config events).Renegotiates id event session.negotiation later.negotiation →
      motive events session.negotiation → motive (events ++ [event]) later.negotiation)
    {events : List Event} (found : (reached config events).session? id = some session) :
    motive events session.negotiation := by
  induction events using List.reverseRecOn generalizing session with
  | nil => exact nomatch found
  | append_singleton events event ih =>
      have identified := identified_reached config events
      have coherent := coherent_reached config events
      have left := found
      rw [reached_concat] at left
      cases earlier : (reached config events).session? id with
      | none =>
          rw [negotiation_of_absent identified coherent earlier left]
          exact fresh _
      | some before =>
          exact step events event before session found
            (renegotiates_after identified coherent earlier left) (ih earlier)

theorem Renegotiates.alike {before after : Negotiation}
    (step : relay.Renegotiates id event before after) (alike : before.Alike) : after.Alike := by
  cases step with
  | same _ => exact alike
  | bound _ _ => exact alike.congr rfl
  | setUp _ _ _ _ goes => exact alike.set goes (Negotiation.media_settle _ _)
  | started _ _ _ _ _ => exact alike.congr rfl
  | paused _ => exact alike.congr (Negotiation.media_pause before)
  | cleared _ => exact Negotiation.alike_initial

/-- All media of a session travel alike. -/
theorem alike_reached {config : RelayConfig} {events : List Event}
    (found : (reached config events).session? id = some session) : session.negotiation.Alike :=
  negotiated_induction (fun _ => Negotiation.alike_initial)
    (fun _ _ _ _ _ step alike => step.alike alike) found

/-- Every medium is the one that the last set-up of its control asked for. -/
def Asked (negotiation : Negotiation) (plans : List Handler.SetupPlan) : Prop :=
  ∀ control media, negotiation.media.get? control = some media → ∃ plan,
    Handler.SetupPlan.last? control plans = some plan ∧
      plan.description.controls[plan.ordinal]? = some control ∧
      Media.ofTransport? (.ofNat plan.ordinal) plan.transport = some media

theorem asked_initial (plans : List Handler.SetupPlan) : Asked .initial plans :=
  fun _ _ listed => nomatch listed

theorem Asked.congr {negotiation changed : Negotiation} {plans : List Handler.SetupPlan}
    (asked : Asked negotiation plans) (same : changed.media = negotiation.media) :
    Asked changed plans := by
  rw [Asked, same]
  exact asked

theorem Renegotiates.asked {before after : Negotiation} {plans : List Handler.SetupPlan}
    (step : relay.Renegotiates id event before after) (asked : Asked before plans) :
    Asked after (plans ++ (relay.setUp? id event).toList) := by
  cases step with
  | same silent => rwa [append_of_silent silent]
  | bound silent _ =>
      rw [append_of_silent silent]
      exact asked.congr rfl
  | @setUp plan medium told _ listed asking goes =>
      intro control media held
      rw [Negotiation.media_settle, Table.get?_set] at held
      rw [told, Option.toList_some, Handler.SetupPlan.last?_concat]
      by_cases same : control = plan.control
      · subst same
        rw [if_pos rfl] at held
        exact ⟨plan, if_pos rfl, listed, asking.trans held⟩
      · rw [if_neg same] at held
        obtain ⟨earlier, last, stood, requested⟩ := asked control media held
        exact ⟨earlier, (if_neg (Ne.symm same)).trans last, stood, requested⟩
  | started silent _ _ _ _ =>
      rw [append_of_silent silent]
      exact asked.congr rfl
  | paused silent =>
      rw [append_of_silent silent]
      exact asked.congr (Negotiation.media_pause before)
  | cleared _ => exact asked_initial _

/-- **Every medium of a session is as its last set-up asked.** -/
theorem asked_reached {config : RelayConfig} {events : List Event}
    (found : (reached config events).session? id = some session) :
    Asked session.negotiation ((new config).setUps id events) := by
  refine negotiated_induction
    (motive := fun events negotiation => Asked negotiation ((new config).setUps id events))
    (fun _ => asked_initial _) (fun events event _ _ _ step asked => ?_) found
  rw [setUps_concat]
  exact step.asked asked

end Relay

end MediaRelay
