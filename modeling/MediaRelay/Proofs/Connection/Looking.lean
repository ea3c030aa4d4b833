import MediaRelay.Connection
import MediaRelay.Proofs.Relay.Packages

/-! # What a connection finds

A connection has a reader for frames and one for requests. Which of them looks at the input depends
on whether the session records in frames, and on the first byte. `Connection.look` says what the two
find together, and `Connection.turn_eq` that a turn does nothing but act on it.
-/

namespace MediaRelay

/-- What stands next in the input of a connection. -/
inductive Found where
  | frame (frame : Frame) (rest : Bytes)
  | request (request : Request) (rest : Bytes)
  | nothing
  /-- A frame that cannot be read. -/
  | badFrame (error : RelayError)
  /-- A request that cannot be read. -/
  | badRequest (error : RelayError)
  deriving DecidableEq

namespace Found

/-- Why a connection ends that finds no message. -/
def ending? : Found → Option Ending
  | frame _ _ | request _ _ => none
  | nothing => some .closedByPeer
  | badFrame .truncated | badRequest .truncated => some .midMessage
  | badRequest (.malformed _) | badRequest (.unsupportedVersion _) => some .malformedRequest
  | badFrame _ | badRequest _ => some .malformedFrame

/-- What a connection answers that finds no message, if it answers at all. -/
def refusal? : Found → Option Status
  | badRequest (.malformed _) => some .badRequest
  | badRequest (.unsupportedVersion _) => some .versionNotSupported
  | _ => none

/-- Whether a message may still come of what is found, with more input. -/
def isOpen : Found → Bool
  | nothing | badFrame .truncated | badRequest .truncated => true
  | _ => false

/-- What a connection refuses is a request that cannot be read. -/
theorem ending?_of_refusal? {found : Found} {status : Status}
    (refused : found.refusal? = some status) : found.ending? = some .malformedRequest := by
  cases found with
  | badRequest error =>
      cases error with
      | malformed _ => rfl
      | unsupportedVersion _ => rfl
      | _ => cases refused
  | _ => cases refused

theorem isSome_refusal?_iff (found : Found) :
    found.refusal?.isSome ↔ found.ending? = some .malformedRequest := by
  constructor
  · intro refused
    obtain ⟨status, refused⟩ := Option.isSome_iff_exists.mp refused
    exact ending?_of_refusal? refused
  · intro ended
    cases found with
    | badFrame error => cases error <;> cases ended
    | badRequest error => cases error <;> first | rfl | cases ended
    | _ => cases ended

end Found

/-- The message that a connection writes on its own. -/
def Act.response? : Act → Option Parcel
  | answered _ reply => some (.written reply.response.encode)
  | rejected status => some (.written (Response.new status).encode)
  | _ => none

/-- The idle packages after a connection has looked for a frame, if it is to look for one. -/
def PackagePool.glanced (pool : PackagePool) (awaited : Bool) : PackagePool :=
  if awaited then pool.acquire.2.release pool.acquire.1 else pool

theorem PackagePool.Full.glanced {pool : PackagePool} (full : pool.Full) (awaited : Bool) :
    (pool.glanced awaited).Full := by
  cases awaited with
  | false => exact full
  | true => exact full.acquire.2.release full.acquire.1

namespace Connection

/-- What the reader of requests finds. -/
def requestIn (input : Bytes) : Found :=
  match Request.read input with
  | .ok (some (request, rest)) => .request request rest
  | .ok none => .nothing
  | .error error => .badRequest error

/-- What a connection finds. It looks for a frame first, where its session records in frames or one
begins. -/
def look (records : Bool) (input : Bytes) : Found :=
  if records ∨ input.head? = some Frame.marker then
    match Frame.read maxPayload input with
    | .ok (some (frame, rest)) => .frame frame rest
    | .ok none => requestIn input
    | .error error => .badFrame error
  else
    requestIn input

/-- What becomes of a frame. -/
def takeFrame (connection : Connection) (relay : Relay) (frame : Frame) (rest : Bytes) : Progress :=
  match connection.feeding? relay with
  | none => ⟨relay, { connection with input := rest }, [.skipped frame], [], none⟩
  | some (session, name, channel) =>
    let package := { relay.packagePool.acquire.1.fill frame.payload with
      interleaved := true
      channel := frame.channel
      order := session.negotiation.ordinalForChannel frame.channel }
    let pushed := (relay.withPackages relay.packagePool.acquire.2).push channel package
    ⟨pushed.1, { connection with input := rest }, [.fed name package], pushed.2, none⟩

/-- How a connection ends that finds no message, unless it waits for one. -/
def stop (connection : Connection) (relay : Relay) (found : Found) : Option Progress :=
  found.ending?.bind fun ending =>
    if found.isOpen ∧ connection.finished = false then
      none
    else
      match found.refusal? with
      | some status => some (connection.reject relay status)
      | none => some (connection.endedBy relay ending)

/-- What comes of anything but a frame. -/
def respond (running : Bool) (connection : Connection) (relay : Relay) : Found → Option Progress
  | .request request rest => some (connection.answer running relay request rest)
  | found => connection.stop relay found

variable {connection : Connection} {relay : Relay} {running : Bool}

theorem broken_eq (connection : Connection) (relay : Relay) (error : RelayError) :
    connection.broken relay error = connection.stop relay (.badFrame error) := by
  cases error with
  | truncated =>
      unfold broken stop
      cases connection.finished <;> rfl
  | _ => rfl

theorem requestTurn_eq (running : Bool) (connection : Connection) (relay : Relay) :
    connection.requestTurn running relay =
      connection.respond running relay (requestIn connection.input) := by
  unfold requestTurn requestIn
  rcases Request.read connection.input with error | _ | ⟨request, rest⟩
  · cases error with
    | truncated =>
        dsimp only [respond, stop, broken]
        cases connection.finished <;> rfl
    | _ => rfl
  · dsimp only [respond, stop]
    cases connection.finished <;> rfl
  · rfl

theorem requestIn_ne_frame (input : Bytes) (frame : Frame) (rest : Bytes) :
    requestIn input ≠ .frame frame rest := by
  unfold requestIn
  rcases Request.read input with _ | _ | _ <;> exact fun same => nomatch same

/-- A frame is found by the reader of frames. -/
theorem read_of_look {records : Bool} {input rest : Bytes} {frame : Frame}
    (found : look records input = .frame frame rest) :
    Frame.read maxPayload input = .ok (some (frame, rest)) ∧
      (records = true ∨ input.head? = some Frame.marker) := by
  unfold look at found
  split at found
  · rename_i looks
    split at found
    · rename_i read
      obtain ⟨rfl, rfl⟩ := Found.frame.inj found
      exact ⟨read, looks⟩
    · exact absurd found (requestIn_ne_frame input frame rest)
    · cases found
  · exact absurd found (requestIn_ne_frame input frame rest)

/-- A request is found by the reader of requests. -/
theorem read_of_look_request {records : Bool} {input rest : Bytes} {request : Request}
    (found : look records input = .request request rest) :
    Request.read input = .ok (some (request, rest)) := by
  have heard (found : requestIn input = .request request rest) :
      Request.read input = .ok (some (request, rest)) := by
    unfold requestIn at found
    split at found
    · rename_i read
      obtain ⟨rfl, rfl⟩ := Found.request.inj found
      exact read
    · cases found
    · cases found
  unfold look at found
  split at found
  · split at found
    · cases found
    · exact heard found
    · cases found
  · exact heard found

theorem turn_of_frame {frame : Frame} {rest : Bytes} (full : relay.packagePool.Full)
    (found : look (connection.feeding? relay).isSome connection.input = .frame frame rest) :
    connection.turn running relay = some (connection.takeFrame relay frame rest) := by
  obtain ⟨read, looks⟩ := read_of_look found
  unfold turn takeFrame
  cases feeding : connection.feeding? relay with
  | none =>
      rw [feeding] at looks
      have marked := looks.resolve_left Bool.false_ne_true
      simp only [plainTurn, marked, read, ↓reduceIte]
  | some target =>
      obtain ⟨session, name, channel⟩ := target
      rw [← full.acquire.1] at read
      simp only [feedTurn, read]
      rfl

/-- **A turn acts on what is found**, and on nothing else of the input. -/
theorem turn_of_no_frame {found : Found} (full : relay.packagePool.Full)
    (same : look (connection.feeding? relay).isSome connection.input = found)
    (other : ∀ frame rest, found ≠ .frame frame rest) :
    connection.turn running relay =
      connection.respond running
        (relay.withPackages (relay.packagePool.glanced (connection.feeding? relay).isSome))
        found := by
  subst same
  unfold turn
  cases feeding : connection.feeding? relay with
  | none =>
      rw [feeding] at other
      by_cases marked : connection.input.head? = some Frame.marker
      · simp only [look, marked, or_true, ↓reduceIte] at other ⊢
        rcases read : Frame.read maxPayload connection.input with error | _ | ⟨frame, rest⟩
        · simp only [plainTurn, marked, read, ↓reduceIte]
          exact broken_eq connection relay error
        · simp only [plainTurn, marked, read, ↓reduceIte]
          exact requestTurn_eq running connection relay
        · exact absurd (by rw [read]) (other frame rest)
      · simp only [plainTurn, look, marked, or_false, Option.isSome_none, Bool.false_eq_true,
          ↓reduceIte]
        exact requestTurn_eq running connection relay
  | some target =>
      obtain ⟨session, name, channel⟩ := target
      rw [feeding] at other
      have whole := full.acquire.1
      simp only [look, Option.isSome_some, true_or, ↓reduceIte] at other ⊢
      rcases read : Frame.read maxPayload connection.input with error | _ | ⟨frame, rest⟩
      · simp only [feedTurn, whole, read]
        exact broken_eq connection _ error
      · simp only [feedTurn, whole, read]
        exact requestTurn_eq running connection _
      · exact absurd (by rw [read]) (other frame rest)

end Connection

end MediaRelay
