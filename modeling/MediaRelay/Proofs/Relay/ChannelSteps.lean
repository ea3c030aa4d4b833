import MediaRelay.Proofs.Relay.Runs
import Mathlib.Data.List.Induction

/-! # Steps of channels

`Channel.Step` has a case for everything that an event can do to the channel of a name: it is
described anew, claimed, subscribed to or left, or it stays as it is. `Relay.step_after` says that
there are no others. Facts about channels in the course of a run split on the cases and look neither
at requests nor at the registry.
-/

namespace MediaRelay

/-- The cases of what an event does to a channel, given who it is about and what each session
announces in the channel by it. -/
inductive Channel.Step (actor? : Option SessionId) (announced? : SessionId → Option Bytes)
    (before : Channel) : Channel → Prop where
  | same (silent : ∀ id, announced? id = none) : Step actor? announced? before before
  | described {id : SessionId} {description : Description} {raw : Bytes} (acting : actor? = some id)
      (told : announced? id = some raw) (only : ∀ other, other ≠ id → announced? other = none)
      (parsed : Description.parse raw = .ok description) (free : before.lockedFor id = false) :
      Step actor? announced? before
        { before with producer := some id, description := some description, raw := some raw }
  /-- A session takes the place of the producer without describing the channel. -/
  | claimed {id : SessionId} {description : Description} (acting : actor? = some id)
      (silent : ∀ id, announced? id = none) (free : before.lockedFor id = false)
      (told : before.description = some description) :
      Step actor? announced? before { before with producer := some id }
  | subscribed {id : SessionId} (acting : actor? = some id) (silent : ∀ id, announced? id = none) :
      Step actor? announced? before (before.subscribe id)
  | left {id : SessionId} (acting : actor? = some id) (silent : ∀ id, announced? id = none) :
      Step actor? announced? before (before.remove id)
  /-- Nobody uses the channel once a session has left it, and it is not kept. -/
  | retired {id : SessionId} (acting : actor? = some id) (silent : ∀ id, announced? id = none)
      (unused : (before.remove id).isVacant = true) : Step actor? announced? before .vacant

namespace Relay

/-- What a session announces in the channel of a name by an event, if it is granted. -/
def announced? (relay : Relay) (name : Text) (id : SessionId) : Event → Option Bytes
  | .requested actor request =>
    if actor = id ∧ request.known? = some .announce ∧ relay.channelName request.uri = .ok name ∧
        (relay.reply? (.requested actor request)).any (fun reply => reply.response.status = .ok) then
      some request.body
    else
      none
  | _ => none

variable {relay after : Relay} {session : Session} {request : Request} {id : SessionId}
  {name : Text} {event : Event}

theorem announced?_eq_none (spared : ∀ request, event = .requested id request →
    request.known? = some .announce → relay.channelName request.uri = .ok name →
      ∀ reply, relay.reply? event = some reply → reply.response.status ≠ .ok) :
    relay.announced? name id event = none := by
  cases event with
  | requested actor request =>
      refine if_neg ?_
      rintro ⟨rfl, known, named, granted⟩
      cases replied : relay.reply? (.requested actor request) with
      | none => simp [replied] at granted
      | some reply =>
          have success : reply.response.status = .ok := by simpa [replied] using granted
          exact spared request rfl known named reply replied success
  | _ => rfl

theorem announced?_requested (found : relay.session? session.id = some session)
    (known : request.known? = some .announce) (named : relay.channelName request.uri = .ok name)
    (answered : ∃ reply, (relay.dispatch Handlers.standard session request).2 = .ok reply) :
    relay.announced? name session.id (.requested session.id request) = some request.body := by
  refine if_pos ⟨rfl, known, named, ?_⟩
  rw [reply?_requested found, Option.any_some, decide_eq_true_eq]
  exact status_route_ok_iff.mpr answered

theorem announced?_of_foreign {other : SessionId} (different : other ≠ id) (request : Request) :
    relay.announced? name other (.requested id request) = none :=
  if_neg fun telling => different telling.1.symm

/-- A session that leaves every channel leaves the channel of a name. -/
theorem step_teardown {announced? : SessionId → Option Bytes} (silent : ∀ id, announced? id = none)
    (id : SessionId) (name : Text) :
    (relay.channelAt name).Step (some id) announced? ((relay.teardown id).channelAt name) := by
  rcases channelAt_teardown relay id name with same | ⟨retired, unused⟩
  · exact same.symm ▸ .left rfl silent
  · exact retired.symm ▸ .retired rfl silent unused

/-- The cases of what a request does to a channel, given what it announces there. -/
theorem Outcome.step {result : Except Refusal Reply} {announced? : SessionId → Option Bytes}
    (outcome : relay.Outcome session request after result)
    (only : ∀ other, other ≠ session.id → announced? other = none)
    (spared : ¬ (request.known? = some .announce ∧ relay.channelName request.uri = .ok name ∧
      ∃ reply, result = .ok reply) → announced? session.id = none)
    (granted : request.known? = some .announce → relay.channelName request.uri = .ok name →
      (∃ reply, result = .ok reply) → announced? session.id = some request.body) :
    (relay.channelAt name).Step (some session.id) announced? (after.channelAt name) := by
  have silent (quiet : announced? session.id = none) : ∀ id, announced? id = none := by
    intro id
    by_cases own : id = session.id
    · rw [own, quiet]
    · exact only id own
  have other {method : Method} (admitted : session.Admits method request)
      (different : method ≠ .announce) : ∀ id, announced? id = none := by
    refine silent (spared ?_)
    rintro ⟨known, _⟩
    exact different (Option.some.inj (admitted.known.symm.trans known))
  cases outcome with
  | refused _ => exact .same (silent (spared fun telling => nomatch telling.2.2))
  | informed admitted query _ _ => exact .same (other admitted (by rintro rfl; exact nomatch query))
  | @announced description addressed admitted planned free =>
      obtain ⟨parsed, named, _⟩ := announcement_ok planned
      have replaced := channelAt_replaced relay addressed
        { relay.channelAt addressed with
          producer := some session.id
          description := some description
          raw := some request.body } name
      by_cases same : name = addressed
      · subst same
        exact (replaced.trans (if_pos rfl)).symm ▸
          .described rfl (granted admitted.known named ⟨_, rfl⟩) only parsed free
      · have quiet : announced? session.id = none := spared fun telling =>
          same (Except.ok.inj (telling.2.1.symm.trans named))
        exact (replaced.trans (if_neg same)).symm ▸ .same (silent quiet)
  | boundOnly admitted _ _ _ => exact .same (other admitted nofun)
  | ungranted admitted _ _ _ _ => exact .same (other admitted nofun)
  | setUp admitted _ _ _ _ => exact .same (other admitted nofun)
  | @recorded plan admitted planned free =>
      obtain ⟨_, found, description, described, _⟩ := streamPlan_ok planned
      have claimed := channelAt_modifyChannel found
        (fun _ => { plan.channel with producer := some session.id }) name
      change Channel.Step _ _ _ ((relay.modifyChannel plan.name _).channelAt name)
      by_cases same : name = plan.name
      · subst same
        rw [claimed, if_pos rfl, channelAt_of_found found]
        exact .claimed rfl (other admitted nofun) free described
      · rw [claimed, if_neg same]
        exact .same (other admitted nofun)
  | @played plan admitted planned =>
      have found := (streamPlan_ok planned).2.1
      have joined := channelAt_modifyChannel found
        (fun channel => channel.subscribe session.id) name
      change Channel.Step _ _ _ ((relay.modifyChannel plan.name _).channelAt name)
      by_cases same : name = plan.name
      · subst same
        rw [joined, if_pos rfl, channelAt_of_found found]
        exact .subscribed rfl (other admitted nofun)
      · rw [joined, if_neg same]
        exact .same (other admitted nofun)
  | paused admitted => exact .same (other admitted nofun)
  | tornDown admitted => exact step_teardown (other admitted nofun) session.id name

theorem step_requested (found : relay.session? session.id = some session) (request : Request)
    (name : Text) :
    (relay.channelAt name).Step (some session.id)
      (fun id => relay.announced? name id (.requested session.id request))
      ((relay.after (.requested session.id request)).channelAt name) := by
  have outcome := outcome_dispatch relay session request
  rw [after_requested found, route_eq]
  refine outcome.step (fun other different => announced?_of_foreign different request) ?_ ?_
  · intro quiet
    refine announced?_eq_none ?_
    rintro _ same known named reply replied success
    obtain rfl := (Event.requested.inj same).2
    rw [reply?_requested found, Option.some.injEq] at replied
    subst replied
    exact quiet ⟨known, named, status_route_ok_iff.mp success⟩
  · intro known named answered
    exact announced?_requested found known named answered

/-- **Every event does one of these to the channel of a name.** -/
theorem step_after (identified : relay.Identified) (event : Event) (name : Text) :
    (relay.channelAt name).Step event.actor? (fun id => relay.announced? name id event)
      ((relay.after event).channelAt name) := by
  have unchanged (event : Event) (silent : ∀ id, relay.announced? name id event = none)
      (same : (relay.after event).channelAt name = relay.channelAt name) :
      (relay.channelAt name).Step event.actor? (fun id => relay.announced? name id event)
        ((relay.after event).channelAt name) := same.symm ▸ .same silent
  cases event with
  | requested id request =>
      cases found : relay.session? id with
      | some session =>
          obtain rfl := identified id session found
          exact step_requested found request name
      | none =>
          refine unchanged _ (fun other => announced?_eq_none ?_) (by simp only [after, found])
          rintro _ same _ _ reply replied
          simp [reply?, found] at replied
  | closed id =>
      cases found : relay.session? id with
      | none => exact unchanged _ (fun _ => rfl) (by simp only [after, closeSession, found])
      | some session =>
          have left : (relay.closeSession id).channelAt name =
              (relay.teardown id).channelAt name := by
            simp only [closeSession, found]
            rfl
          change Channel.Step _ _ _ ((relay.closeSession id).channelAt name)
          rw [left]
          exact step_teardown (fun _ => rfl) id name
  | opened id peer =>
      refine unchanged _ (fun _ => rfl) ?_
      rw [after_opened]
      split <;> rfl
  | pushed target payload interleaved channel order =>
      refine unchanged _ (fun _ => rfl) ?_
      simp only [after]
      split <;> rfl
  | received source half payload =>
      exact unchanged _ (fun _ => rfl)
        ((sameSessions_takeDatagram relay source half payload).channelAt name)
  | held target => exact unchanged _ (fun _ => rfl) (channelAt_ensureChannel target name)
  | linkFailed _ => exact unchanged _ (fun _ => rfl) rfl
  | letGo _ => exact unchanged _ (fun _ => rfl) rfl
  | sourceForgotten _ => exact unchanged _ (fun _ => rfl) rfl
  | sourcesForgotten => exact unchanged _ (fun _ => rfl) rfl

end Relay

end MediaRelay
