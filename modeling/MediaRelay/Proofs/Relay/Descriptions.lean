import MediaRelay.Proofs.Relay.ChannelSteps
import MediaRelay.Proofs.Relay.Coherence
import Mathlib.Data.List.Induction

/-! # Descriptions of channels

A channel has a description just while it has a producer, and what it has is what the producer
announced last. `Channel.Tells` says so of one channel, given what every session has announced last;
it holds of every channel in all that is reached (`tells_reached`), however producers came and went
before. So a viewer that asks for the description gets the body of that announcement
(`describe_tells_latest`).
-/

namespace MediaRelay

namespace Channel

/-- The cases of what a channel knows, given what each session has announced last. -/
inductive Tells (said : SessionId → Option Bytes) (channel : Channel) : Prop where
  | nothing (free : channel.producer = none) (undescribed : channel.description = none)
      (empty : channel.raw = none) : Tells said channel
  | latest {holder : SessionId} {description : Description} {raw : Bytes}
      (held : channel.producer = some holder) (described : channel.description = some description)
      (received : channel.raw = some raw) (parsed : Description.parse raw = .ok description)
      (last : said holder = some raw) : Tells said channel

variable {channel : Channel} {id : SessionId} {said : SessionId → Option Bytes}

theorem tells_vacant : vacant.Tells said := .nothing rfl rfl rfl

theorem Tells.congr {other : Channel} (tells : channel.Tells said)
    (producer : other.producer = channel.producer)
    (description : other.description = channel.description) (raw : other.raw = channel.raw) :
    other.Tells said := by
  cases tells with
  | nothing free undescribed empty =>
      exact .nothing (producer.trans free) (description.trans undescribed) (raw.trans empty)
  | latest held described received parsed last =>
      exact .latest (producer.trans held) (description.trans described) (raw.trans received) parsed
        last

/-- A described channel has a producer: who takes the place that is not locked takes nothing. -/
theorem Tells.claim {description : Description} (tells : channel.Tells said)
    (described : channel.description = some description) (free : channel.lockedFor id = false) :
    channel.producer = some id := by
  cases tells with
  | nothing _ undescribed _ => exact nomatch undescribed.symm.trans described
  | latest held _ _ _ _ =>
      obtain rfl := lockedFor_eq_false_iff.mp free _ held
      exact held

theorem Tells.subscribe (tells : channel.Tells said) (id : SessionId) :
    (channel.subscribe id).Tells said := by
  unfold Channel.subscribe
  split
  · exact tells
  · exact tells.congr rfl rfl rfl

/-- With the producer goes all that it told. -/
theorem Tells.remove (tells : channel.Tells said) (id : SessionId) :
    (channel.remove id).Tells said := by
  unfold Channel.remove
  split
  · exact .nothing rfl rfl rfl
  · exact tells.congr rfl rfl rfl

/-- What is said by an event comes before all that was said until then. -/
theorem Tells.step {actor? : Option SessionId} {heard : SessionId → Option Bytes} {after : Channel}
    (tells : channel.Tells said) (step : channel.Step actor? heard after) :
    after.Tells fun id => (heard id).or (said id) := by
  have unheard (silent : ∀ id, heard id = none) : (fun id => (heard id).or (said id)) = said := by
    funext id
    rw [silent id, Option.none_or]
  cases step with
  | same silent =>
      rw [unheard silent]
      exact tells
  | described _ told _ parsed _ =>
      refine .latest rfl rfl rfl parsed ?_
      rw [told, Option.some_or]
  | claimed _ silent free told =>
      rw [unheard silent]
      exact tells.congr (tells.claim told free).symm rfl rfl
  | @subscribed id _ silent =>
      rw [unheard silent]
      exact tells.subscribe id
  | @left id _ silent =>
      rw [unheard silent]
      exact tells.remove id
  | retired _ _ _ => exact tells_vacant

theorem Tells.isSome_iff (tells : channel.Tells said) :
    (channel.producer.isSome = true ↔ channel.description.isSome = true) ∧
      (channel.description.isSome = true ↔ channel.raw.isSome = true) := by
  cases tells with
  | nothing free undescribed empty => simp [free, undescribed, empty]
  | latest held described received _ _ => simp [held, described, received]

end Channel

namespace Relay

/-- What a session announces last in the channel of a name in the course of a run. -/
def latest? (relay : Relay) (name : Text) (id : SessionId) : List Event → Option Bytes
  | [] => none
  | event :: events =>
    ((relay.after event).latest? name id events).or (relay.announced? name id event)

theorem latest?_concat (relay : Relay) (name : Text) (id : SessionId) (events : List Event)
    (event : Event) :
    relay.latest? name id (events ++ [event]) =
      ((relay.afterAll events).announced? name id event).or (relay.latest? name id events) := by
  induction events generalizing relay with
  | nil => simp [latest?, afterAll]
  | cons first events ih =>
      rw [List.cons_append, latest?, ih, Option.or_assoc, ← latest?]
      rfl

variable {relay : Relay} {session : Session} {request : Request} {name : Text}

/-- **Channels tell what their producers have announced last**, in all that is reached. -/
theorem tells_reached (config : RelayConfig) (events : List Event) (name : Text) :
    ((reached config events).channelAt name).Tells fun id =>
      (new config).latest? name id events := by
  induction events using List.reverseRecOn generalizing name with
  | nil =>
      have vacant := channelAt_new config name
      exact vacant.symm ▸ Channel.tells_vacant
  | append_singleton events event ih =>
      have step := step_after (identified_reached config events) event name
      simp only [latest?_concat, reached_concat]
      exact (ih name).step step

/-! ## Asking for descriptions -/

/-- A session lets a request for a description through unless it names another session. -/
theorem unopposed_describe_iff :
    session.objection? .describe request = none ↔
      ∀ named, request.sessionId? = some named → named = session.id := by
  have anytime : Method.describe.allowedIn session.negotiation.state = true := rfl
  unfold Session.objection? Session.disowns?
  cases request.sessionId? with
  | none => simp [anytime]
  | some named => by_cases own : named = session.id <;> simp [own, anytime]

theorem describeReply_eq_ok_iff {channel : Channel} (named : relay.channelName request.uri = .ok name)
    (found : relay.registry.get? name = some channel) {reply : Reply} :
    Handler.describeReply relay request = .ok reply ↔
      ∃ raw, channel.raw = some raw ∧
        reply = ⟨(((Response.new .ok).add "Content-Type".toList descriptionType).add
          "Content-Base".toList request.uri).withBody raw, false⟩ := by
  have held := existing_eq_ok_iff.mpr found
  unfold Handler.describeReply
  rw [named]
  change (relay.existing name >>= _) = _ ↔ _
  rw [held]
  cases raw : channel.raw with
  | none => simp [bind, Except.bind, raw, throw, throwThe, MonadExceptOf.throw]
  | some raw' =>
      simp [bind, Except.bind, raw, pure, Except.pure, eq_comm]

theorem describe_ok {reply : Reply} (known : request.known? = some .describe)
    (answered : (relay.dispatch Handlers.standard session request).2 = .ok reply) :
    session.objection? .describe request = none ∧
      Handler.describeReply relay request = .ok reply := by
  cases unopposed : session.objection? .describe request with
  | some refusal =>
      rw [dispatch_of_opposed known unopposed] at answered
      exact nomatch answered
  | none =>
      rw [dispatch_of_admits ⟨known, unopposed⟩ rfl] at answered
      exact ⟨rfl, answered⟩

/-- **A description is there while there is a producer, and it is what the producer announced last.**
Viewers that ask for it get it as it was received. -/
theorem describe_tells_latest {config : RelayConfig} {events : List Event} {name : Text}
    {channel : Channel} (registered : (reached config events).registry.get? name = some channel) :
    (channel.producer.isSome = true ↔ channel.description.isSome = true) ∧
    (channel.description.isSome = true ↔ channel.raw.isSome = true) ∧
    (∀ raw, channel.raw = some raw → ∃ description,
      channel.description = some description ∧ Description.parse raw = .ok description) ∧
    ∀ id session request, (reached config events).session? id = some session →
      request.known? = some .describe →
      (reached config events).channelName request.uri = .ok name →
      ∃ reply, (reached config events).reply? (.requested id request) = some reply ∧
        (reply.response.status = .ok ↔ channel.producer.isSome = true ∧
          ∀ named, request.sessionId? = some named → named = id) ∧
        (reply.response.status = .ok → ∃ holder, channel.producer = some holder ∧
          (new config).latest? name holder events = some reply.response.body) := by
  have tells := tells_reached config events name
  rw [channelAt_of_found registered] at tells
  have together := tells.isSome_iff
  refine ⟨together.1, together.2, fun raw held => ?_, ?_⟩
  · cases tells with
    | nothing _ _ empty => exact nomatch empty.symm.trans held
    | latest _ described received parsed _ =>
        obtain rfl := Option.some.inj (received.symm.trans held)
        exact ⟨_, described, parsed⟩
  · intro id session request found known named
    obtain rfl := identified_reached config events id session found
    refine ⟨_, reply?_requested found request, ?_, fun success => ?_⟩
    · rw [status_route_ok_iff]
      constructor
      · rintro ⟨reply, answered⟩
        obtain ⟨unopposed, described⟩ := describe_ok known answered
        obtain ⟨raw, held, _⟩ := (describeReply_eq_ok_iff named registered).mp described
        rw [together.1, together.2, held]
        exact ⟨rfl, unopposed_describe_iff.mp unopposed⟩
      · rintro ⟨produced, own⟩
        rw [together.1, together.2, Option.isSome_iff_exists] at produced
        obtain ⟨raw, held⟩ := produced
        rw [dispatch_of_admits ⟨known, unopposed_describe_iff.mpr own⟩ rfl]
        exact ⟨_, (describeReply_eq_ok_iff named registered).mpr ⟨raw, held, rfl⟩⟩
    · obtain ⟨reply, answered⟩ := status_route_ok_iff.mp success
      obtain ⟨_, described⟩ := describe_ok known answered
      obtain ⟨raw, held, rfl⟩ := (describeReply_eq_ok_iff named registered).mp described
      rw [route_eq, answered, body_numbered]
      cases tells with
      | nothing _ _ empty => exact nomatch empty.symm.trans held
      | @latest holder _ _ produced _ received _ last =>
          obtain rfl := Option.some.inj (received.symm.trans held)
          exact ⟨holder, produced, last⟩

end Relay

namespace Sample

/-- A viewer comes to a channel that has been announced twice. -/
def announcedAnew : List Event :=
  [.opened recorder address, .requested recorder announce, .requested recorder announceOne,
    .opened viewer distant]

end Sample

namespace Relay

set_option maxRecDepth 100000 in
/-- The viewer gets the second announcement. -/
theorem describe_tells_latest_viewer : ∃ channel reply,
    (reached Sample.config Sample.announcedAnew).registry.get? "cam".toList = some channel ∧
      channel.producer = some Sample.recorder ∧
      (reached Sample.config Sample.announcedAnew).reply?
        (.requested Sample.viewer (Sample.plain .describe)) = some reply ∧
      reply.response.status = .ok ∧ reply.response.body = Sample.announceOne.body ∧
      (new Sample.config).latest? "cam".toList Sample.recorder Sample.announcedAnew =
        some reply.response.body := by
  have held : ((reached Sample.config Sample.announcedAnew).registry.get? "cam".toList).map
      Channel.producer = some (some Sample.recorder) := by decide +kernel
  obtain ⟨channel, registered, produced⟩ := Option.map_eq_some_iff.mp held
  obtain ⟨session, found⟩ : ∃ session,
      (reached Sample.config Sample.announcedAnew).session? Sample.viewer = some session :=
    Option.isSome_iff_exists.mp (by decide +kernel)
  have told := (describe_tells_latest registered).2.2.2 Sample.viewer session (Sample.plain .describe) found
    (by decide +kernel) (by decide +kernel)
  obtain ⟨reply, replied, granted, last⟩ := told
  have success : reply.response.status = .ok := by
    refine granted.mpr ⟨by rw [produced]; rfl, fun named given => ?_⟩
    exact nomatch given
  obtain ⟨holder, holds, latest⟩ := last success
  obtain rfl := Option.some.inj (holds.symm.trans produced)
  have announced : (new Sample.config).latest? "cam".toList Sample.recorder Sample.announcedAnew =
      some Sample.announceOne.body := by decide +kernel
  exact ⟨channel, reply, registered, holds, replied, success,
    Option.some.inj (latest.symm.trans announced), latest⟩

set_option maxRecDepth 100000 in
/-- A viewer that names the session of the recorder in its request is told nothing. -/
theorem describe_naming_other_refused :
    ((reached Sample.config Sample.announcedAnew).registry.get? "cam".toList).map
        Channel.producer = some (some Sample.recorder) ∧
      ((reached Sample.config Sample.announcedAnew).reply? (.requested Sample.viewer
        { (Sample.plain .describe) with headers := [("Session".toList, Sample.recorder)] })).map
          (fun reply => reply.response.status) = some .sessionNotFound := by
  constructor <;> decide +kernel

end Relay

end MediaRelay
