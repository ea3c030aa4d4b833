import MediaRelay.Message.Status
import MediaRelay.Session.State

/-!
# Refused requests

Why a request that was read is not carried out, with the status and the text of each reason.
-/

namespace MediaRelay

inductive Refusal where
  /-- The request's content is missing or malformed, or names another channel than its session. -/
  | badRequest (detail : Text)
  /-- There is no such channel or no such medium. -/
  | notFound (detail : Text)
  /-- No handler serves the method. -/
  | methodNotAllowed (method : Text)
  /-- The request names another session than its own. -/
  | sessionNotFound (id : Text)
  /-- The session's state does not allow the method. -/
  | invalidState (method : Text) (state : SessionState)
  /-- The media cannot travel as asked. -/
  | unsupportedTransport (detail : Text)
  /-- The channel has no description or another producer. -/
  | internal (detail : Text)
  deriving DecidableEq, Repr

namespace Refusal

def status : Refusal → Status
  | badRequest _ => .badRequest
  | notFound _ => .notFound
  | methodNotAllowed _ => .methodNotAllowed
  | sessionNotFound _ => .sessionNotFound
  | invalidState _ _ => .methodNotValidInThisState
  | unsupportedTransport _ => .unsupportedTransport
  | internal _ => .internalServerError

def message : Refusal → Text
  | badRequest detail => "bad request: ".toList ++ detail
  | notFound detail => "not found: ".toList ++ detail
  | methodNotAllowed method => "method not allowed: ".toList ++ method
  | sessionNotFound id => "session not found: ".toList ++ id
  | invalidState method state => method ++ " not valid in state ".toList ++ state.name
  | unsupportedTransport detail => "unsupported transport: ".toList ++ detail
  | internal detail => "internal error: ".toList ++ detail

/-- No refusal answers with success. -/
theorem status_ne_ok (refusal : Refusal) : refusal.status ≠ .ok := by
  cases refusal <;> simp [status]

end Refusal

end MediaRelay
