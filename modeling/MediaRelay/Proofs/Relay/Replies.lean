import MediaRelay.Proofs.Message.Receiving
import MediaRelay.Proofs.Message.Wording
import MediaRelay.Proofs.Relay.Runs
import Mathlib.Algebra.Group.Nat.Defs

/-! # Replies on the wire

Much of a reply comes from the peer: the number of its request, the target it asked for, the
transport it proposed and the body that was announced. A request that was read holds no line feed
outside its body (`Request.unbroken_of_read`), the handlers put their texts under a few names of
their own (`Relay.orderly_dispatch`), and so every reply is received as it was meant
(`Relay.answers_reached`).
-/

namespace MediaRelay

/-! ## What a reply can hold -/

namespace Decimal

theorem unbroken_digits (number : Nat) : '\n' ∉ digits number := by
  intro member
  exact absurd (isDigit_of_mem_digits member) (by decide)

end Decimal

namespace Transport

theorem unbroken_renderPair {name : Text} (unbroken : '\n' ∉ name) (pair : Option (Nat × Nat)) :
    '\n' ∉ renderPair name pair := by
  cases pair with
  | none => exact List.not_mem_nil
  | some pair => simp [renderPair, unbroken, Decimal.unbroken_digits]

theorem unbroken_render (transport : Transport) : '\n' ∉ transport.render := by
  have delivered :
      '\n' ∉ (if transport.multicast then ";multicast".toList else ";unicast".toList) := by
    cases transport.multicast <;> decide
  have directed : '\n' ∉ (if transport.record then ";mode=record".toList else []) := by
    cases transport.record <;> decide
  unfold render
  simp only [List.mem_append, not_or]
  refine ⟨⟨⟨⟨⟨?_, delivered⟩, unbroken_renderPair (by decide) _⟩,
    unbroken_renderPair (by decide) _⟩, unbroken_renderPair (by decide) _⟩, directed⟩
  cases transport.carrier <;> decide

end Transport

namespace Response

variable {response : Response} {name value : Text}

/-- The names of the fields that the handlers set. -/
def handledNames : List Text :=
  ["Server".toList, "Public".toList, "Content-Type".toList, "Content-Base".toList,
    "Transport".toList, "Session".toList, "Range".toList]

/-- Fields of a handler, each in one line. -/
def Orderly (response : Response) : Prop :=
  ∀ field ∈ response.headers, field.1 ∈ handledNames ∧ '\n' ∉ field.2

theorem orderly_new (status : Status) : (new status).Orderly := by
  intro field member
  obtain rfl := List.mem_singleton.mp member
  exact ⟨List.mem_cons_self, show '\n' ∉ serverAgent by decide⟩

theorem Orderly.add (orderly : response.Orderly) (named : name ∈ handledNames)
    (unbroken : '\n' ∉ value) : (response.add name value).Orderly := by
  intro field member
  rcases List.mem_append.mp member with earlier | added
  · exact orderly field earlier
  · obtain rfl := List.mem_singleton.mp added
    exact ⟨named, unbroken⟩

end Response

namespace Relay

variable {relay : Relay} {session : Session} {request : Request}

theorem unbroken_sessionValue (relay : Relay) (named : '\n' ∉ session.id) :
    '\n' ∉ relay.sessionValue session := by
  simp [sessionValue, Session.headerValue, named, Decimal.unbroken_digits]

theorem orderly_granted (relay : Relay) (named : '\n' ∉ session.id) :
    (relay.granted session).Orderly :=
  (Response.orderly_new .ok).add (by decide) (unbroken_sessionValue relay named)

theorem unbroken_publicValue : '\n' ∉ publicValue Handlers.standard.methods := by
  decide

theorem orderly_reply (refusal : Refusal) :
    (refusal.reply Handlers.standard.methods).response.Orderly := by
  have plain := Response.orderly_new refusal.status
  cases refusal with
  | methodNotAllowed _ => exact plain.add (by decide) unbroken_publicValue
  | _ => exact plain

/-- The answer to a query is in order. -/
theorem orderly_query {method : Method} {reply : Reply} (admitted : session.Admits method request)
    (query : method.isQuery = true) (named : '\n' ∉ session.id) (located : '\n' ∉ request.uri)
    (answered : (relay.dispatch Handlers.standard session request).2 = .ok reply) :
    reply.response.Orderly := by
  have plain := Response.orderly_new .ok
  cases method with
  | options =>
      rw [dispatch_of_admits admitted rfl] at answered
      cases answered
      exact plain.add (by decide) unbroken_publicValue
  | describe =>
      rw [dispatch_of_admits admitted rfl] at answered
      obtain ⟨_, _, _, -, -, -, rfl⟩ := describeReply_ok answered
      have typed : ((Response.new .ok).add "Content-Type".toList descriptionType).Orderly :=
        plain.add (by decide) (by decide)
      exact typed.add (by decide) located
  | getParameter =>
      rw [dispatch_of_admits admitted rfl] at answered
      cases answered
      by_cases asked : request.sessionId?.isSome = true
      · simp only [asked, ↓reduceIte]
        exact orderly_granted relay named
      · simp only [asked, Bool.false_eq_true, ↓reduceIte]
        exact plain
  | _ => exact nomatch query

/-- **The handlers answer under names of their own, and in lines.** -/
theorem orderly_dispatch (relay : Relay) (named : '\n' ∉ session.id)
    (located : '\n' ∉ request.uri) :
    (unnumbered (relay.dispatch Handlers.standard session request).2).response.Orderly := by
  have outcome := outcome_dispatch relay session request
  cases answered : (relay.dispatch Handlers.standard session request).2 with
  | error refusal => exact orderly_reply refusal
  | ok reply =>
      rw [answered] at outcome
      generalize (relay.dispatch Handlers.standard session request).1 = after at outcome
      cases outcome with
      | informed admitted query _ _ => exact orderly_query admitted query named located answered
      | announced _ _ _ => exact orderly_granted relay named
      | @setUp _ _ transport _ _ _ _ _ =>
          have placed : ((Response.new .ok).add "Transport".toList transport.render).Orderly :=
            (Response.orderly_new .ok).add (by decide) transport.unbroken_render
          exact placed.add (by decide) (unbroken_sessionValue relay named)
      | recorded _ _ _ => exact orderly_granted relay named
      | played _ _ => exact (orderly_granted relay named).add (by decide) (by decide)
      | paused _ => exact orderly_granted relay named
      | tornDown _ => exact orderly_granted relay named

end Relay

/-! ## What is written of a reply -/

namespace Headers

variable {headers : Headers} {name : Text}

theorem called_map_withTrimmed (headers : Headers) (name : Text) :
    called (headers.map withTrimmed) name = (headers.called name).map withTrimmed :=
  List.filter_map

/-- A field that stands at most once is found wherever it stands. -/
theorem called_eq_of_perm {first second : Headers} (same : first.Perm second)
    (once : (second.called name).length ≤ 1) : first.called name = second.called name := by
  have kept : (first.called name).Perm (second.called name) := same.filter _
  match found : second.called name with
  | [] => exact (found ▸ kept).eq_nil
  | [field] => exact List.perm_singleton.mp (found ▸ kept)
  | _ :: _ :: _ => simp [found] at once

/-- Fields of one name are called by it or not at all. -/
theorem called_of_name {other : Text} (named : ∀ field ∈ headers, field.1 = other) :
    headers.called name = if Text.sameFolded other name then headers else [] := by
  by_cases same : Text.sameFolded other name = true
  · rw [if_pos same]
    exact List.filter_eq_self.mpr fun field member => named field member ▸ same
  · rw [if_neg same]
    exact List.filter_eq_nil_iff.mpr fun field member => named field member ▸ same

end Headers

namespace Request

variable {request : Request}

/-- The field that repeats the number of a request. -/
def numberField (request : Request) : Headers :=
  (request.cseq?.map fun number => ("CSeq".toList, number)).toList

theorem length_lengthField_le (body : Bytes) : (lengthField body).length ≤ 1 := by
  unfold lengthField
  split
  · exact Nat.zero_le 1
  · exact Nat.le_refl 1

theorem length_numberField_le (request : Request) : request.numberField.length ≤ 1 := by
  unfold numberField
  cases request.cseq? with
  | none => exact Nat.zero_le 1
  | some number => exact Nat.le_refl 1

theorem name_of_mem_lengthField {body : Bytes} {field : Text × Text}
    (member : field ∈ lengthField body) : field.1 = Headers.contentLength := by
  unfold lengthField at member
  split at member
  · exact absurd member List.not_mem_nil
  · rw [List.mem_singleton.mp member]

theorem name_of_mem_numberField {field : Text × Text} (member : field ∈ request.numberField) :
    field.1 = "CSeq".toList := by
  obtain ⟨number, -, rfl⟩ := Option.map_eq_some_iff.mp (Option.mem_toList.mp member)
  rfl

theorem Unbroken.plain_numberField (unbroken : request.Unbroken) :
    ∀ field ∈ request.numberField, Headers.Plain field := by
  intro field member
  obtain ⟨number, numbered, rfl⟩ := Option.map_eq_some_iff.mp (Option.mem_toList.mp member)
  obtain ⟨trimmed, whole⟩ := unbroken.number numbered
  exact {
    named := show "CSeq".toList ≠ [] by decide
    name_trimmed := show Text.trimmed "CSeq".toList = "CSeq".toList by decide
    name_uncut := show ':' ∉ "CSeq".toList by decide
    name_unbroken := show '\n' ∉ "CSeq".toList by decide
    value_trimmed := trimmed
    value_unbroken := whole }

theorem called_numberField_contentLength (request : Request) :
    request.numberField.called Headers.contentLength = [] := by
  rw [Headers.called_of_name fun _ => name_of_mem_numberField]
  rfl

theorem called_numberField (request : Request) :
    request.numberField.called "CSeq".toList = request.numberField := by
  rw [Headers.called_of_name fun _ => name_of_mem_numberField]
  rfl

theorem called_lengthField (body : Bytes) :
    (lengthField body).called Headers.contentLength = lengthField body := by
  rw [Headers.called_of_name fun _ => name_of_mem_lengthField]
  rfl

theorem called_lengthField_number (body : Bytes) :
    (lengthField body).called "CSeq".toList = [] := by
  rw [Headers.called_of_name fun _ => name_of_mem_lengthField]
  rfl

end Request

namespace Response

variable {response : Response} {request : Request} {reply : Reply}

theorem Orderly.called_eq_nil (orderly : response.Orderly) {name : Text}
    (apart : ∀ other ∈ handledNames, Text.sameFolded other name = false) :
    response.headers.called name = [] := by
  refine List.filter_eq_nil_iff.mpr fun field member => ?_
  simp [apart field.1 (orderly field member).1]

theorem Orderly.numberless (orderly : response.Orderly) :
    response.headers.called "CSeq".toList = [] :=
  orderly.called_eq_nil (by decide)

theorem Orderly.lengthless (orderly : response.Orderly) :
    response.headers.called Headers.contentLength = [] :=
  orderly.called_eq_nil (by decide)

/-- The fields of a response to a request before they are put in order. -/
def stated (response : Response) (request : Request) : Headers :=
  response.headers ++ (request.numberField ++ Request.lengthField response.body)

theorem headers_numbered (orderly : reply.response.Orderly) (request : Request) :
    (Relay.numbered request reply).response.headers =
      reply.response.headers ++ request.numberField := by
  unfold Relay.numbered Request.numberField
  cases request.cseq? with
  | none => exact (List.append_nil _).symm
  | some number =>
      show (reply.response.headers.without "CSeq".toList).add "CSeq".toList number = _
      rw [Headers.without_eq_self orderly.numberless]
      rfl

theorem stated_numbered (orderly : reply.response.Orderly) (request : Request) :
    (Relay.numbered request reply).response.headers ++
        Request.lengthField (Relay.numbered request reply).response.body =
      reply.response.stated request := by
  rw [headers_numbered orderly, Relay.body_numbered, List.append_assoc, stated]

theorem writtenHeaders_numbered (orderly : reply.response.Orderly) (request : Request) :
    (Relay.numbered request reply).response.writtenHeaders =
      (reply.response.stated request).sortedByName := by
  have lengthless :
      (Relay.numbered request reply).response.headers.called Headers.contentLength = [] := by
    rw [headers_numbered orderly, Headers.called_append, orderly.lengthless, List.nil_append]
    exact request.called_numberField_contentLength
  rw [writtenHeaders, Headers.without_eq_self lengthless, stated_numbered orderly]

theorem Orderly.clean (orderly : response.Orderly) :
    ∀ field ∈ response.headers, Headers.Clean field := by
  have filled : ∀ name ∈ handledNames, name ≠ [] := by decide
  have trimmed : ∀ name ∈ handledNames, Text.trimmed name = name := by decide
  have uncut : ∀ name ∈ handledNames, ':' ∉ name := by decide
  have unbroken : ∀ name ∈ handledNames, '\n' ∉ name := by decide
  intro field member
  obtain ⟨among, whole⟩ := orderly field member
  exact ⟨filled _ among, trimmed _ among, uncut _ among, unbroken _ among, whole⟩

theorem Orderly.clean_stated (orderly : response.Orderly) (unbroken : request.Unbroken) :
    ∀ field ∈ response.stated request, Headers.Clean field := by
  intro field member
  rcases List.mem_append.mp member with said | added
  · exact orderly.clean field said
  · rcases List.mem_append.mp added with repeated | measured
    · exact (unbroken.plain_numberField field repeated).clean
    · exact (Request.plain_lengthField _ field measured).clean

theorem map_stated (response : Response) (unbroken : request.Unbroken) :
    (response.stated request).map Headers.withTrimmed =
      response.headers.map Headers.withTrimmed ++
        (request.numberField ++ Request.lengthField response.body) := by
  rw [stated, List.map_append, List.map_append, Headers.map_withTrimmed unbroken.plain_numberField,
    Headers.map_withTrimmed (Request.plain_lengthField _)]

/-- How a response to a request is received: as a status line, the fields of the response in the
order of their names, their values trimmed, and its body. One field states the length of a body
that is not empty, and one repeats the number of the request. -/
structure Answers (response : Response) (request : Request) (received : Received) : Prop where
  read : receive? response.encode = some received
  status : received.statusLine = protocolVersion ++ ' ' :: response.status.line
  ordered : received.headers.Pairwise fun first second => first.1 ≤ second.1
  /-- Fields of one name keep their order. -/
  fields (name : Text) : received.headers.filter (fun field => field.1 = name) =
    ((response.headers ++ Request.lengthField response.body).map Headers.withTrimmed).filter
      fun field => field.1 = name
  length : received.headers.called Headers.contentLength =
    if response.body = [] then []
    else [(Headers.contentLength, Decimal.digits response.body.length)]
  number : received.headers.called "CSeq".toList =
    (request.cseq?.map fun number => ("CSeq".toList, number)).toList
  body : received.body = response.body

theorem Orderly.length_stated (orderly : response.Orderly) (unbroken : request.Unbroken) :
    Headers.called ((response.stated request).map Headers.withTrimmed) Headers.contentLength =
      Request.lengthField response.body := by
  rw [map_stated response unbroken, Headers.called_append, Headers.called_append,
    Headers.called_map_withTrimmed, orderly.lengthless, request.called_numberField_contentLength,
    Request.called_lengthField, List.map_nil, List.nil_append, List.nil_append]

theorem Orderly.number_stated (orderly : response.Orderly) (unbroken : request.Unbroken) :
    Headers.called ((response.stated request).map Headers.withTrimmed) "CSeq".toList =
      request.numberField := by
  rw [map_stated response unbroken, Headers.called_append, Headers.called_append,
    Headers.called_map_withTrimmed, orderly.numberless, request.called_numberField,
    Request.called_lengthField_number, List.map_nil, List.nil_append, List.append_nil]

/-- **What a handler says is received as it was meant**, with the number of the request. -/
theorem Orderly.answers (orderly : reply.response.Orderly) (unbroken : request.Unbroken) :
    ∃ received, (Relay.numbered request reply).response.Answers request received := by
  have stated := stated_numbered orderly request
  have written := writtenHeaders_numbered orderly request
  have body := Relay.body_numbered request reply
  have clean : ∀ field ∈ (Relay.numbered request reply).response.writtenHeaders,
      Headers.Clean field := by
    intro field member
    rw [written] at member
    exact orderly.clean_stated unbroken field
      ((Headers.perm_sortedByName _).mem_iff.mp member)
  have shuffled : ((reply.response.stated request).sortedByName.map Headers.withTrimmed).Perm
      ((reply.response.stated request).map Headers.withTrimmed) :=
    (Headers.perm_sortedByName _).map _
  have length := orderly.length_stated unbroken
  have number := orderly.number_stated unbroken
  refine ⟨_, {
    read := receive?_encode clean
    status := rfl
    ordered := ?_
    fields := fun name => ?_
    length := ?_
    number := ?_
    body := rfl }⟩
  · rw [written, List.pairwise_map]
    exact Headers.pairwise_sortedByName _
  · rw [stated, written, List.filter_map, List.filter_map]
    exact congrArg _ (Headers.filter_sortedByName _ name)
  · have once := length ▸ Request.length_lengthField_le reply.response.body
    rw [written, Headers.called_eq_of_perm shuffled once, length, body, Request.lengthField]
    cases reply.response.body <;> rfl
  · have once := number ▸ request.length_numberField_le
    rw [written, Headers.called_eq_of_perm shuffled once, number]
    rfl

end Response

/-! ## Replies of a run -/

namespace SessionId

/-- The id that is made from a number: its sixteen digits to the base sixteen. -/
def spelled (number : UInt64) : SessionId :=
  (List.range 16).reverse.map fun place =>
    (Nat.digitChar (number.toNat / 16 ^ place % 16)).toUpper

example : spelled 0xBEEF05 = "0000000000BEEF05".toList := by decide

theorem unbroken_spelled (number : UInt64) : '\n' ∉ spelled number := by
  have printed : ∀ digit < 16, (Nat.digitChar digit).toUpper ≠ '\n' := by decide
  intro member
  obtain ⟨place, -, same⟩ := List.mem_map.mp member
  exact printed _ (Nat.mod_lt _ (by decide)) same

end SessionId

namespace Relay

variable {relay : Relay} {session : Session} {request : Request} {id : SessionId}

theorem answers_route (relay : Relay) (named : '\n' ∉ session.id) (unbroken : request.Unbroken) :
    ∃ received, (relay.route Handlers.standard session request).2.response.Answers request
      received := by
  rw [route_eq]
  exact (orderly_dispatch relay named unbroken.uri).answers unbroken

/-- **The reply to every request that is read is received as it was meant**, in every state that is
reached and for every open session. Ids of sessions are spelled from numbers. -/
theorem answers_reached (config : RelayConfig) {events : List Event}
    (spelled : ∀ id peer, .opened id peer ∈ events → ∃ number, id = SessionId.spelled number)
    (found : (reached config events).session? id = some session)
    {input rest : Bytes} (heard : Request.read input = .ok (some (request, rest))) :
    ∃ received, ((reached config events).route Handlers.standard session request).2.response.Answers
      request received := by
  obtain ⟨peer, opened⟩ := opened_of_session? found
  obtain ⟨number, rfl⟩ := spelled id peer opened
  have same := identified_reached config events _ _ found
  refine answers_route _ ?_ (Request.unbroken_of_read heard)
  rw [same]
  exact SessionId.unbroken_spelled number

end Relay

namespace Sample

/-- A description with what looks like a response behind it. -/
def craftedBody : Bytes :=
  Utf8.encode "v=0\r\nm=video 0 RTP/AVP 96\r\n\r\nRTSP/1.0 500 Oops\r\n".toList

/-- A recorder has described its channel, and a viewer has come. -/
def described : List Event :=
  [.opened (SessionId.spelled 10) address,
    .requested (SessionId.spelled 10) { announce with body := craftedBody },
    .opened (SessionId.spelled 11) distant]

/-- A request with carriage returns and colons and with two numbers. -/
def crafted : Bytes :=
  Utf8.encode ("DESCRIBE rtsp://h\r:8/cam RTSP/1.0\r\n".toList ++
    "X:\rCSeq: 9\r\ncSEQ: \r1\r:2é \r\nCSeq: 7\r\n\r\n".toList)

/-- The request as it is read: the first number counts. -/
def craftedRequest : Request where
  method := "DESCRIBE".toList
  uri := "rtsp://h\r:8/cam".toList
  headers := [("X".toList, "CSeq: 9".toList), ("cSEQ".toList, "1\r:2é".toList),
    ("CSeq".toList, "7".toList)]

/-- What is received in answer to it. -/
def craftedAnswer : Received where
  statusLine := "RTSP/1.0 200 OK".toList
  headers :=
    [("CSeq".toList, "1\r:2é".toList), ("Content-Base".toList, "rtsp://h\r:8/cam".toList),
      ("Content-Length".toList, "48".toList), ("Content-Type".toList, "application/sdp".toList),
      ("Server".toList, "rtsp-relay/0.1".toList)]
  body := craftedBody

end Sample

namespace Relay

set_option maxRecDepth 100000 in
theorem answers_reached_crafted :
    ∃ session, (∀ id peer, .opened id peer ∈ Sample.described →
        ∃ number, id = SessionId.spelled number) ∧
      (reached Sample.config Sample.described).session? (SessionId.spelled 11) = some session ∧
      Request.read Sample.crafted = .ok (some (Sample.craftedRequest, [])) ∧
      ((reached Sample.config Sample.described).route Handlers.standard session
        Sample.craftedRequest).2.response.Answers Sample.craftedRequest Sample.craftedAnswer := by
  have spelled : ∀ id peer, .opened id peer ∈ Sample.described →
      ∃ number, id = SessionId.spelled number := by
    intro id peer opened
    simp only [Sample.described, List.mem_cons, Event.opened.injEq, reduceCtorEq, false_or,
      List.not_mem_nil, or_false] at opened
    rcases opened with ⟨rfl, -⟩ | ⟨rfl, -⟩
    · exact ⟨10, rfl⟩
    · exact ⟨11, rfl⟩
  have heard : Request.read Sample.crafted = .ok (some (Sample.craftedRequest, [])) := by
    decide +kernel
  have seen : ((reached Sample.config Sample.described).session? (SessionId.spelled 11)).map
      (fun session => Response.receive? ((reached Sample.config Sample.described).route
        Handlers.standard session Sample.craftedRequest).2.response.encode) =
      some (some Sample.craftedAnswer) := by decide +kernel
  obtain ⟨session, found, seen⟩ := Option.map_eq_some_iff.mp seen
  obtain ⟨received, answers⟩ := answers_reached Sample.config spelled found heard
  obtain rfl : received = Sample.craftedAnswer := Option.some.inj (answers.read.symm.trans seen)
  exact ⟨session, spelled, found, heard, answers⟩

end Relay

end MediaRelay
