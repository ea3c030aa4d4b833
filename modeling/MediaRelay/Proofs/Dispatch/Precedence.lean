import MediaRelay.Proofs.Dispatch.Outcome
import MediaRelay.Proofs.Message.Wording

/-! # The order of the checks

Four things can stand in the way of a request, whatever the handlers do: its method is not served,
it names another session, the session's state does not allow it, or it sets up a medium that the
relay cannot carry. The first of them in this order decides the reply, and then no handler has been
asked (`Obstacle.Decides.route`); if there is none, the handler of the method answers
(`Relay.route_checks_in_order`). Every reply to a request with a number carries that number once.
-/

namespace MediaRelay

namespace Handlers

/-- The methods that are served, in advertised order. -/
structure Lists (handlers : Handlers) (listed : List Method) : Prop where
  ordered : listed.Sublist Method.all
  complete : ∀ method, method ∈ listed ↔ ∃ handler, handlers method = some handler

theorem lists_methods (handlers : Handlers) : handlers.Lists handlers.methods where
  ordered := List.filter_sublist
  complete method := by
    simp only [methods, List.mem_filter, Method.mem_all, true_and, Option.isSome_iff_exists]

theorem methods_congr {handlers others : Handlers}
    (alike : ∀ method, (others method).isSome = (handlers method).isSome) :
    others.methods = handlers.methods := by
  simp only [methods, alike]

end Handlers

namespace Request

variable {request : Request}

theorem known?_eq_some_iff {method : Method} :
    request.known? = some method ↔ request.method = method.token :=
  Method.ofToken?_eq_some_iff

theorem sessionId?_eq_some_iff {id : Text} : request.sessionId? = some id ↔
    ∃ value, request.headers.First "Session".toList value ∧ mainValue value = id ∧ id ≠ [] := by
  simp only [sessionId?, header?, Option.filter_eq_some_iff, Option.map_eq_some_iff,
    Headers.get?_eq_some_iff, Bool.not_eq_true', List.isEmpty_eq_false_iff]
  constructor
  · rintro ⟨⟨value, stated, rfl⟩, filled⟩
    exact ⟨value, stated, rfl, filled⟩
  · rintro ⟨value, stated, rfl, filled⟩
    exact ⟨⟨value, stated, rfl⟩, filled⟩

theorem transport_eq_ok_iff {transport : Transport} : request.transport = .ok transport ↔
    ∃ value, request.headers.First "Transport".toList value ∧
      Transport.parse value = .ok transport ∧ transport.validate = .ok () := by
  unfold Request.transport
  constructor
  · intro asked
    split at asked
    · cases asked
    · rename_i value stated
      split at asked
      · cases asked
      · rename_i found parsed
        split at asked
        · cases asked
        · rename_i valid
          cases asked
          exact ⟨value, Headers.get?_eq_some_iff.mp stated, parsed, valid⟩
  · rintro ⟨value, stated, parsed, valid⟩
    have found : request.header? "Transport".toList = some value :=
      Headers.get?_eq_some_iff.mpr stated
    simp only [found, parsed, valid]

theorem exists_detail {refusal : Refusal} (refused : request.transport = .error refusal) :
    ∃ detail, refusal = .unsupportedTransport detail := by
  unfold Request.transport at refused
  split at refused
  · cases refused
    exact ⟨_, rfl⟩
  · split at refused
    · cases refused
      exact ⟨_, rfl⟩
    · split at refused
      · cases refused
        exact ⟨_, rfl⟩
      · cases refused

end Request

/-- What can stand in the way of a request. -/
inductive Obstacle where
  /-- No handler serves the method. -/
  | unserved
  /-- The request names another session than its own. -/
  | foreign
  /-- The session's state does not allow the method. -/
  | untimely
  /-- A medium is to be set up, but not in a way that the relay can serve. -/
  | unserviceable
  deriving DecidableEq, Repr

namespace Obstacle

/-- The obstacles that are looked for before another. -/
def before : Obstacle → List Obstacle
  | unserved => []
  | foreign => [unserved]
  | untimely => [unserved, foreign]
  | unserviceable => [unserved, foreign, untimely]

def status : Obstacle → Status
  | unserved => .methodNotAllowed
  | foreign => .sessionNotFound
  | untimely => .methodNotValidInThisState
  | unserviceable => .unsupportedTransport

/-- The reply to a request that meets an obstacle. Where the method is at fault it says which are
not. -/
def reply (listed : List Method) : Obstacle → Reply
  | unserved => ⟨⟨.methodNotAllowed, [("Server".toList, Response.serverAgent),
      ("Public".toList, ", ".toList.intercalate (listed.map Method.token))], []⟩, false⟩
  | obstacle => ⟨⟨obstacle.status, [("Server".toList, Response.serverAgent)], []⟩, false⟩

/-- Whether an obstacle stands in the way of a request. -/
def Blocks (handlers : Handlers) (session : Session) (request : Request) : Obstacle → Prop
  | unserved => ∀ method, request.method = method.token → handlers method = none
  | foreign => ∃ value, request.headers.First "Session".toList value ∧
      Request.mainValue value ≠ [] ∧ Request.mainValue value ≠ session.id
  | untimely => ∃ (method : Method) (states : List SessionState), request.method = method.token ∧
      method.legalStates = some states ∧ session.negotiation.state ∉ states
  | unserviceable => request.method = Method.setup.token ∧
      ¬ ∃ value transport, request.headers.First "Transport".toList value ∧
        Transport.parse value = .ok transport ∧ transport.validate = .ok ()

/-- An obstacle decides if it stands in the way and none before it does. -/
structure Decides (handlers : Handlers) (session : Session) (request : Request)
    (obstacle : Obstacle) : Prop where
  stands : obstacle.Blocks handlers session request
  first : ∀ earlier ∈ obstacle.before, ¬ earlier.Blocks handlers session request

variable {handlers others : Handlers} {session : Session} {request : Request} {obstacle : Obstacle}
  {method : Method}

/-! ## What the checks look at -/

theorem exists_handler (served : ¬ unserved.Blocks handlers session request) :
    ∃ method handler, request.known? = some method ∧ handlers method = some handler := by
  simp only [Blocks, not_forall] at served
  obtain ⟨method, named, served⟩ := served
  obtain ⟨handler, found⟩ := Option.ne_none_iff_exists'.mp served
  exact ⟨method, handler, Request.known?_eq_some_iff.mpr named, found⟩

theorem disowns?_eq_some_iff {refusal : Refusal} : session.disowns? request = some refusal ↔
    ∃ value, request.headers.First "Session".toList value ∧ Request.mainValue value ≠ [] ∧
      Request.mainValue value ≠ session.id ∧
      refusal = .sessionNotFound (Request.mainValue value) := by
  unfold Session.disowns?
  constructor
  · intro found
    cases named : request.sessionId? with
    | none => simp [named] at found
    | some id =>
        obtain ⟨value, stated, rfl, filled⟩ := Request.sessionId?_eq_some_iff.mp named
        simp only [named, Option.ite_none_left_eq_some, Option.some.injEq] at found
        exact ⟨value, stated, filled, found.1, found.2.symm⟩
  · rintro ⟨value, stated, filled, other, rfl⟩
    simp only [Request.sessionId?_eq_some_iff.mpr ⟨value, stated, rfl, filled⟩, if_neg other]

theorem disowns?_eq_none (own : ¬ foreign.Blocks handlers session request) :
    session.disowns? request = none := by
  refine Option.eq_none_iff_forall_ne_some.mpr fun refusal disowned => own ?_
  obtain ⟨value, stated, filled, other, -⟩ := disowns?_eq_some_iff.mp disowned
  exact ⟨value, stated, filled, other⟩

theorem allowedIn_eq_false_iff (known : request.known? = some method) :
    method.allowedIn session.negotiation.state = false ↔
      untimely.Blocks handlers session request := by
  have legal : method.allowedIn session.negotiation.state = false ↔
      ∃ states, method.legalStates = some states ∧ session.negotiation.state ∉ states := by
    unfold Method.allowedIn
    cases method.legalStates <;> simp
  rw [legal]
  constructor
  · rintro ⟨states, listed, outside⟩
    exact ⟨method, states, Request.known?_eq_some_iff.mp known, listed, outside⟩
  · rintro ⟨other, states, named, listed, outside⟩
    rw [← Request.known?_eq_some_iff, known, Option.some.injEq] at named
    exact ⟨states, named ▸ listed, outside⟩

/-! ## What a session objects to -/

theorem objection?_of_foreign (stands : foreign.Blocks handlers session request) (method : Method) :
    ∃ id, session.objection? method request = some (.sessionNotFound id) := by
  obtain ⟨value, stated, filled, other⟩ := stands
  have disowned := disowns?_eq_some_iff.mpr ⟨value, stated, filled, other, rfl⟩
  exact ⟨Request.mainValue value, by simp only [Session.objection?, disowned]⟩

theorem objection?_of_untimely (own : ¬ foreign.Blocks handlers session request)
    (known : request.known? = some method) (stands : untimely.Blocks handlers session request) :
    session.objection? method request =
      some (.invalidState method.token session.negotiation.state) := by
  have barred := (allowedIn_eq_false_iff known).mpr stands
  simp only [Session.objection?, disowns?_eq_none own, barred, Bool.not_false, ↓reduceIte]

/-- In its own session and in a state that allows it, only a set-up request meets an objection, and
only for its transport. -/
theorem objection?_of_timely (own : ¬ foreign.Blocks handlers session request)
    (known : request.known? = some method) (timely : ¬ untimely.Blocks handlers session request) :
    (unserviceable.Blocks handlers session request ∧
        ∃ detail, session.objection? method request = some (.unsupportedTransport detail)) ∨
      (¬ unserviceable.Blocks handlers session request ∧
        session.objection? method request = none) := by
  have allowed : method.allowedIn session.negotiation.state = true := by
    simpa using mt (allowedIn_eq_false_iff known).mp timely
  simp only [Session.objection?, disowns?_eq_none own, allowed, Bool.not_true, Bool.false_eq_true,
    ↓reduceIte]
  have named := Request.known?_eq_some_iff.mp known
  by_cases setsUp : method = .setup
  · subst setsUp
    simp only [↓reduceIte]
    cases asked : request.transport with
    | error refusal =>
        obtain ⟨detail, rfl⟩ := Request.exists_detail asked
        refine .inl ⟨⟨named, ?_⟩, detail, rfl⟩
        rintro ⟨value, transport, served⟩
        rw [Request.transport_eq_ok_iff.mpr ⟨value, served⟩] at asked
        cases asked
    | ok transport =>
        obtain ⟨value, served⟩ := Request.transport_eq_ok_iff.mp asked
        exact .inr ⟨fun stands => stands.2 ⟨value, transport, served⟩, rfl⟩
  · refine .inr ⟨fun stands => setsUp ?_, if_neg setsUp⟩
    have other := Request.known?_eq_some_iff.mpr stands.1
    rw [known] at other
    exact Option.some.inj other

/-! ## The first obstacle -/

theorem decides_or_clear (handlers : Handlers) (session : Session) (request : Request) :
    (∃ obstacle, Decides handlers session request obstacle) ∨
      ∀ obstacle, ¬ Blocks handlers session request obstacle := by
  by_cases first : unserved.Blocks handlers session request
  · exact .inl ⟨unserved, first, List.forall_mem_nil _⟩
  by_cases second : foreign.Blocks handlers session request
  · exact .inl ⟨foreign, second, by simpa [before] using first⟩
  by_cases third : untimely.Blocks handlers session request
  · exact .inl ⟨untimely, third, by simpa [before] using ⟨first, second⟩⟩
  by_cases fourth : unserviceable.Blocks handlers session request
  · exact .inl ⟨unserviceable, fourth, by simpa [before] using ⟨first, second, third⟩⟩
  right
  intro obstacle
  cases obstacle <;> assumption

theorem blocks_congr (alike : ∀ method, (others method).isSome = (handlers method).isSome) :
    obstacle.Blocks others session request ↔ obstacle.Blocks handlers session request := by
  cases obstacle with
  | unserved =>
      simp only [Blocks, ← Option.isNone_iff_eq_none, ← Option.not_isSome, alike]
  | foreign => rfl
  | untimely => rfl
  | unserviceable => rfl

theorem Decides.congr (decides : Decides handlers session request obstacle)
    (alike : ∀ method, (others method).isSome = (handlers method).isSome) :
    Decides others session request obstacle where
  stands := (blocks_congr alike).mpr decides.stands
  first := fun earlier among => mt (blocks_congr alike).mp (decides.first earlier among)

theorem dispatch_of_unserved (stands : unserved.Blocks handlers session request) (relay : Relay) :
    ∃ word, relay.dispatch handlers session request = (relay, .error (.methodNotAllowed word)) := by
  unfold Relay.dispatch
  cases known : request.known? with
  | none => exact ⟨request.method, rfl⟩
  | some method =>
      simp only [stands method (Request.known?_eq_some_iff.mp known)]
      exact ⟨method.token, rfl⟩

/-- The obstacle that decides is why the request is refused. -/
theorem Decides.dispatch (decides : Decides handlers session request obstacle) (relay : Relay) :
    ∃ refusal : Refusal, relay.dispatch handlers session request = (relay, .error refusal) ∧
      ∀ listed, refusal.reply listed = obstacle.reply listed := by
  have stands := decides.stands
  have first := decides.first
  by_cases unmet : obstacle = .unserved
  · subst unmet
    obtain ⟨word, refused⟩ := dispatch_of_unserved stands relay
    exact ⟨_, refused, fun _ => rfl⟩
  have served : ¬ unserved.Blocks handlers session request :=
    first _ (by cases obstacle <;> simp [before] at unmet ⊢)
  obtain ⟨method, handler, known, found⟩ := exists_handler served
  have refused {refusal : Refusal} (objected : session.objection? method request = some refusal) :
      relay.dispatch handlers session request = (relay, .error refusal) := by
    simp only [Relay.dispatch, known, found, objected]
  cases obstacle with
  | unserved => exact absurd rfl unmet
  | foreign =>
      obtain ⟨id, objected⟩ := objection?_of_foreign stands method
      exact ⟨_, refused objected, fun _ => rfl⟩
  | untimely =>
      have own := first foreign (by simp [before])
      exact ⟨_, refused (objection?_of_untimely own known stands), fun _ => rfl⟩
  | unserviceable =>
      have own := first foreign (by simp [before])
      have timely := first untimely (by simp [before])
      rcases objection?_of_timely own known timely with ⟨-, detail, objected⟩ | ⟨clear, -⟩
      · exact ⟨_, refused objected, fun _ => rfl⟩
      · exact absurd stands clear

theorem Decides.route (decides : Decides handlers session request obstacle) (relay : Relay) :
    relay.route handlers session request =
      (relay, Relay.numbered request (obstacle.reply handlers.methods)) := by
  obtain ⟨refusal, refused, reply⟩ := decides.dispatch relay
  rw [Relay.route, refused]
  simp only [reply]

end Obstacle

/-- The reply to a numbered request is the reply to the request with the number put into it. -/
structure Numbers (request : Request) (reply numbered : Reply) : Prop where
  status : numbered.response.status = reply.response.status
  body : numbered.response.body = reply.response.body
  closes : numbered.closes = reply.closes
  others : numbered.response.headers.without "CSeq".toList =
    reply.response.headers.without "CSeq".toList
  unnumbered : (∀ field ∈ request.headers, Text.sameFolded field.1 "CSeq".toList = false) →
    numbered = reply

namespace Relay

variable {handlers : Handlers} {session : Session} {request : Request}

/-- Without an obstacle the handler of the method is asked. -/
theorem dispatch_of_clear (clear : ∀ obstacle, ¬ Obstacle.Blocks handlers session request obstacle)
    (relay : Relay) :
    ∃ method handler, request.method = method.token ∧ handlers method = some handler ∧
      relay.dispatch handlers session request =
        handler handlers.methods relay session request := by
  obtain ⟨method, handler, known, found⟩ := Obstacle.exists_handler (clear .unserved)
  refine ⟨method, handler, Request.known?_eq_some_iff.mp known, found, ?_⟩
  rcases Obstacle.objection?_of_timely (clear .foreign) known (clear .untimely) with
    ⟨stands, -⟩ | ⟨-, unopposed⟩
  · exact absurd stands (clear .unserviceable)
  · simp only [dispatch, known, found, unopposed]

theorem numbers_numbered (request : Request) (reply : Reply) :
    Numbers request reply (numbered request reply) where
  status := status_numbered request reply
  body := body_numbered request reply
  closes := closes_numbered request reply
  others := by
    unfold numbered
    cases request.cseq? with
    | none => rfl
    | some number => exact Headers.without_set _ _ _
  unnumbered silent := by
    have none : request.cseq? = none := Headers.get?_eq_none_iff.mpr silent
    simp only [numbered, none]

/-- A number is put into a reply once, whatever the reply held. -/
theorem called_numbered {number : Text} (reply : Reply)
    (stated : request.headers.First "CSeq".toList number) :
    (numbered request reply).response.headers.called "CSeq".toList =
      [("CSeq".toList, number)] := by
  have given : request.cseq? = some number := Headers.get?_eq_some_iff.mpr stated
  simp only [numbered, given]
  exact Headers.called_set _ _ _

/-- **The checks come in one order, and the first that fails decides.** If an obstacle decides, the
relay stays as it is and the reply is the same with other handlers for the same methods. Otherwise
the reply is what the handler of the method answers, or says why that handler refuses. Either way
the number of the request stands in it once. -/
theorem route_checks_in_order (handlers : Handlers) (relay : Relay) (session : Session)
    (request : Request) :
    ∃ after reply listed, relay.route handlers session request = (after, reply) ∧
      handlers.Lists listed ∧
      (∀ number, request.headers.First "CSeq".toList number →
        reply.response.headers.called "CSeq".toList = [("CSeq".toList, number)]) ∧
      ((∃ obstacle : Obstacle, obstacle.Decides handlers session request ∧ after = relay ∧
          Numbers request (obstacle.reply listed) reply ∧
          ∀ others : Handlers, (∀ method, (others method).isSome = (handlers method).isSome) →
            relay.route others session request = (after, reply)) ∨
        (∀ obstacle : Obstacle, ¬ obstacle.Blocks handlers session request) ∧
          ∃ method handler answer, request.method = method.token ∧
            handlers method = some handler ∧
            handler listed relay session request = (after, answer) ∧
            ((∃ given, answer = .ok given ∧ Numbers request given reply) ∨
              ∃ refusal, answer = .error refusal ∧ reply.response.status = refusal.status ∧
                reply.closes = false ∧ Numbers request (refusal.reply listed) reply)) := by
  have lists := handlers.lists_methods
  rcases Obstacle.decides_or_clear handlers session request with ⟨obstacle, decides⟩ | clear
  · have same (others : Handlers)
        (alike : ∀ method, (others method).isSome = (handlers method).isSome) :
        relay.route others session request =
          (relay, numbered request (obstacle.reply handlers.methods)) := by
      rw [(decides.congr alike).route relay, Handlers.methods_congr alike]
    exact ⟨_, _, _, decides.route relay, lists, fun _ => called_numbered _,
      .inl ⟨obstacle, decides, rfl, numbers_numbered _ _, same⟩⟩
  · obtain ⟨method, handler, named, found, asked⟩ := dispatch_of_clear clear relay
    rcases answered : handler handlers.methods relay session request with ⟨after, answer⟩
    rw [answered] at asked
    cases answer with
    | ok given =>
        have routed : relay.route handlers session request = (after, numbered request given) := by
          rw [route, asked]
        exact ⟨_, _, _, routed, lists, fun _ => called_numbered _,
          .inr ⟨clear, method, handler, _, named, found, answered,
            .inl ⟨given, rfl, numbers_numbered _ _⟩⟩⟩
    | error refusal =>
        have routed : relay.route handlers session request =
            (after, numbered request (refusal.reply handlers.methods)) := by
          rw [route, asked]
        have numbers := numbers_numbered request (refusal.reply handlers.methods)
        exact ⟨_, _, _, routed, lists, fun _ => called_numbered _,
          .inr ⟨clear, method, handler, _, named, found, answered,
            .inr ⟨refusal, rfl, numbers.status.trans (status_reply _ _),
              numbers.closes.trans (closes_reply _ _), numbers⟩⟩⟩

/-- A request that names another session and comes too early is refused for the session. -/
example : ((Relay.new {}).route Handlers.standard ⟨"A".toList, ⟨1, 4000⟩, none, true, .initial⟩
      ⟨"PLAY".toList, "/live".toList, protocolVersion,
        [("session".toList, "B;timeout=60".toList), ("cseq".toList, "7".toList)], []⟩).2 =
    ⟨⟨.sessionNotFound, [("Server".toList, Response.serverAgent), ("CSeq".toList, "7".toList)],
      []⟩, false⟩ := by
  decide

end Relay

end MediaRelay
