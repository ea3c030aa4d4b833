import MediaRelay.Proofs.Relay.Runs

/-! # Idle packages

Idle packages have whole buffers in all that is reached (`full_reached`), so that a payload which
may be sent fits into any of them. Which packages are idle and what is left in their buffers does
not show (`route_withPackages`, `deliveries_trimmed`).
-/

namespace MediaRelay

namespace Package

/-- The package with no more in its buffer than its payload. -/
def trimmed (package : Package) : Package :=
  { package with buffer := package.payload, length := package.payload.length }

@[simp] theorem payload_trimmed (package : Package) : package.trimmed.payload = package.payload :=
  List.take_length

@[simp] theorem length_buffer_fill (package : Package) (payload : Bytes) :
    (package.fill payload).buffer.length = package.buffer.length :=
  package.length_buffer_write payload

/-- Once a payload that fits is put in, nothing shows of what the package was before. -/
theorem trimmed_fill {package : Package} {payload : Bytes}
    (fits : payload.length ≤ package.buffer.length) (interleaved : Bool) (channel : UInt8)
    (order : Ordinal) :
    trimmed { package.fill payload with interleaved, channel, order } =
      ⟨payload, payload.length, interleaved, channel, order⟩ := by
  have filled : payload = ({ package.fill payload with interleaved, channel, order } :
      Package).payload := (payload_fill fits).symm
  rw [trimmed, ← filled]

/-- A payload that does not fit is cut. -/
theorem trimmed_fill_take (package : Package) (payload : Bytes) (interleaved : Bool)
    (channel : UInt8) (order : Ordinal) :
    trimmed { package.fill payload with interleaved, channel, order } =
      ⟨payload.take package.buffer.length, (payload.take package.buffer.length).length, interleaved,
        channel, order⟩ := by
  have size : min payload.length (package.write payload).buffer.length =
      (payload.take package.buffer.length).length := by
    rw [length_buffer_write, List.length_take, Nat.min_comm]
  have cut : ({ package.fill payload with interleaved, channel, order } : Package).payload =
      payload.take package.buffer.length := by
    simp only [fill, setLength, Package.payload, size]
    exact List.take_left
  rw [trimmed, cut]

end Package

namespace PackagePool

/-- Every idle package has a whole buffer. -/
def Full (pool : PackagePool) : Prop :=
  ∀ package ∈ pool.free, package.buffer.length = maxPayload

variable {pool : PackagePool}

theorem Full.acquire (full : pool.Full) :
    pool.acquire.1.buffer.length = maxPayload ∧ pool.acquire.2.Full := by
  unfold PackagePool.acquire
  cases idle : pool.free with
  | nil => exact ⟨List.length_replicate, full⟩
  | cons package free =>
      rw [Full, idle] at full
      exact ⟨full package List.mem_cons_self,
        fun other member => full other (List.mem_cons_of_mem _ member)⟩

theorem Full.release (full : pool.Full) {package : Package}
    (whole : package.buffer.length = maxPayload) : (pool.release package).Full := by
  unfold PackagePool.release
  split
  · intro other member
    rcases List.mem_cons.mp member with rfl | earlier
    · exact whole
    · exact full other earlier
  · exact full

/-- A package returns whole after a payload was put into it. -/
theorem Full.returned (full : pool.Full) (payload : Bytes) {package : Package}
    (filled : package.buffer = (pool.acquire.1.fill payload).buffer) :
    (pool.acquire.2.release package).Full := by
  refine full.acquire.2.release ?_
  rw [filled, Package.length_buffer_fill]
  exact full.acquire.1

end PackagePool

namespace Relay

variable {relay : Relay}

theorem full_after (full : relay.packagePool.Full) (event : Event) :
    (relay.after event).packagePool.Full := by
  cases event with
  | opened id peer =>
      simp only [after]
      split <;> exact full
  | requested id request =>
      simp only [after]
      split
      · exact full
      · rename_i session _
        rw [route_eq, (outcome_dispatch relay session request).fixed.2.2]
        exact full
  | closed id =>
      simp only [after, closeSession]
      split <;> exact full
  | pushed name payload interleaved channel order =>
      simp only [after]
      split
      · exact full.returned payload rfl
      · exact full.returned payload rfl
  | received source half payload =>
      simp only [after, takeDatagram]
      split
      · exact full.returned payload rfl
      · split <;> exact full.returned payload rfl
  | linkFailed _ => exact full
  | held _ => exact full
  | letGo _ => exact full
  | sourceForgotten _ => exact full
  | sourcesForgotten => exact full

theorem full_reached (config : RelayConfig) (events : List Event) :
    (reached config events).packagePool.Full :=
  @reached_induction (fun relay => relay.packagePool.Full) config (fun _ member => nomatch member)
    (fun _ event full => full_after full event) events

/-- The relay with other idle packages. -/
def withPackages (relay : Relay) (pool : PackagePool) : Relay :=
  { relay with packagePool := pool }

variable {methods : List Method} {session : Session} {request : Request} {pool : PackagePool}

private theorem announce_withPackages :
    Handler.announce methods (relay.withPackages pool) session request =
      ((Handler.announce methods relay session request).1.withPackages pool,
        (Handler.announce methods relay session request).2) := by
  unfold Handler.announce
  have same : Handler.announcement (relay.withPackages pool) session request =
      Handler.announcement relay session request := rfl
  rw [same]
  cases Handler.announcement relay session request with
  | error refusal => rfl
  | ok plan =>
      obtain ⟨description, name⟩ := plan
      have registered : ((relay.withPackages pool).ensureChannel name).registry.get? name =
          (relay.ensureChannel name).registry.get? name := rfl
      simp only [registered]
      cases ((relay.ensureChannel name).registry.get? name).bind fun channel =>
        channel.describe? session.id description request.body <;> rfl

private theorem setup_withPackages :
    Handler.setup methods (relay.withPackages pool) session request =
      ((Handler.setup methods relay session request).1.withPackages pool,
        (Handler.setup methods relay session request).2) := by
  unfold Handler.setup
  have same : Handler.setupPlan (relay.withPackages pool) request =
      Handler.setupPlan relay request := rfl
  rw [same]
  cases Handler.setupPlan relay request with
  | error refusal => rfl
  | ok plan =>
      by_cases free : session.negotiation.mayBind plan.name = true
      · simp only [free, Bool.not_true, Bool.false_eq_true, ↓reduceIte]
        cases Handler.setUp plan (session.negotiation.bind plan.name) with
        | error refusal => rfl
        | ok negotiation =>
            have granted : Handler.grantedTransport
                ((relay.withPackages pool).negotiate session.id fun _ => negotiation)
                  plan.transport =
                Handler.grantedTransport (relay.negotiate session.id fun _ => negotiation)
                  plan.transport := rfl
            simp only [granted]
            cases Handler.grantedTransport (relay.negotiate session.id fun _ => negotiation)
              plan.transport <;> rfl
      · simp only [free, Bool.not_false, ↓reduceIte]

private theorem play_withPackages :
    Handler.play methods (relay.withPackages pool) session request =
      ((Handler.play methods relay session request).1.withPackages pool,
        (Handler.play methods relay session request).2) := by
  unfold Handler.play
  have same : Handler.streamPlan .play (relay.withPackages pool) session request =
      Handler.streamPlan .play relay session request := rfl
  rw [same]
  cases Handler.streamPlan .play relay session request <;> rfl

private theorem record_withPackages :
    Handler.record methods (relay.withPackages pool) session request =
      ((Handler.record methods relay session request).1.withPackages pool,
        (Handler.record methods relay session request).2) := by
  unfold Handler.record
  have same : Handler.streamPlan .record (relay.withPackages pool) session request =
      Handler.streamPlan .record relay session request := rfl
  rw [same]
  cases Handler.streamPlan .record relay session request with
  | error refusal => rfl
  | ok plan =>
      dsimp only
      cases plan.channel.claim? session.id <;> rfl

/-- No handler looks at the idle packages. -/
theorem handler_withPackages {method : Method} {handler : Handler}
    (found : Handlers.standard method = some handler) :
    handler methods (relay.withPackages pool) session request =
      ((handler methods relay session request).1.withPackages pool,
        (handler methods relay session request).2) := by
  cases method with
  | options => cases found; rfl
  | describe => cases found; rfl
  | announce => cases found; exact announce_withPackages
  | setup => cases found; exact setup_withPackages
  | play => cases found; exact play_withPackages
  | pause => cases found; rfl
  | record => cases found; exact record_withPackages
  | teardown => cases found; rfl
  | getParameter => cases found; rfl

theorem route_withPackages (relay : Relay) (pool : PackagePool) (session : Session)
    (request : Request) :
    (relay.withPackages pool).route Handlers.standard session request =
      ((relay.route Handlers.standard session request).1.withPackages pool,
        (relay.route Handlers.standard session request).2) := by
  have same : (relay.withPackages pool).dispatch Handlers.standard session request =
      ((relay.dispatch Handlers.standard session request).1.withPackages pool,
        (relay.dispatch Handlers.standard session request).2) := by
    unfold dispatch
    cases known : request.known? with
    | none => rfl
    | some method =>
        dsimp only
        cases served : Handlers.standard method with
        | none => rfl
        | some handler =>
            dsimp only
            cases session.objection? method request with
            | some refusal => rfl
            | none => exact handler_withPackages served
  rw [route_eq, route_eq, same]

/-! ## What packages say -/

theorem deliver?_trimmed (relay : Relay) (package : Package) (id : SessionId) :
    relay.deliver? package.trimmed id = relay.deliver? package id := by
  have same (session : Session) : session.forward package.trimmed = session.forward package := by
    have outlet : session.negotiation.outlet? package.trimmed =
        session.negotiation.outlet? package := rfl
    simp only [Session.forward, outlet, Package.payload_trimmed]
  simp only [deliver?, same]

/-- What is left in the buffer behind the payload reaches nobody. -/
theorem deliveries_trimmed (relay : Relay) (channel : Channel) (package : Package) :
    relay.deliveries channel package.trimmed = relay.deliveries channel package := by
  have same : relay.deliver? package.trimmed = relay.deliver? package :=
    funext (deliver?_trimmed relay package)
  rw [deliveries, same, ← deliveries]

end Relay

end MediaRelay
