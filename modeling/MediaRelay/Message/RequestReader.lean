import MediaRelay.Message.Line
import MediaRelay.Message.Request

/-!
# Reading requests

A request is read from the front of the input, which also holds what follows it. Rules are
checked in the order of the input: the request line, each header field, then the length of the
body and the body.
-/

namespace MediaRelay.Request

/-- The most header fields that a request may have. -/
def maxHeaders : Nat := 64

/-- The longest body. -/
def maxBody : Nat := 65536

/-- The largest number that a length may spell: what 64 bits hold. -/
def maxLength : Nat := UInt64.size - 1

/-- The three parts of a request line, which are not empty and stand one blank apart. -/
def parts? (line : Text) : Option (Text × Text × Text) :=
  match Text.pieces ' ' line with
  | [method, uri, version] =>
    if method.isEmpty ∨ uri.isEmpty ∨ version.isEmpty then none else some (method, uri, version)
  | _ => none

/-- The name and the value in a header line. -/
def field? (line : Text) : Option (Text × Text) :=
  match Text.cut? ':' line with
  | some (name, value) =>
    if (Text.trimmed name).isEmpty then none else some (Text.trimmed name, Text.trimmed value)
  | none => none

/-- Reads header lines up to the empty line that ends them, at most `allowed` of them. -/
def readHeaders : (allowed : Nat) → Bytes → Except RelayError (Headers × Bytes)
  | allowed, input =>
    match Line.read input with
    | .error error => .error error
    | .ok none => .error .truncated
    | .ok (some ([], rest)) => .ok ([], rest)
    | .ok (some (line, rest)) =>
      match allowed with
      | 0 => .error (.malformed .tooManyHeaders)
      | allowed + 1 =>
        match field? line with
        | none => .error (.malformed .header)
        | some field =>
          match readHeaders allowed rest with
          | .error error => .error error
          | .ok (fields, rest) => .ok (field :: fields, rest)

/-- The length of the body that the first length field states; none states no body. -/
def bodyLength (headers : Headers) : Except RelayError Nat :=
  match headers.get? Headers.contentLength with
  | none => .ok 0
  | some value =>
    match Decimal.read? maxLength value with
    | none => .error (.malformed .contentLength)
    | some length => if maxBody < length then .error (.malformed .bodyTooLarge) else .ok length

/-- Reads a body of a given length. -/
def readBody (length : Nat) (input : Bytes) : Except RelayError (Bytes × Bytes) :=
  let body := input.take length
  if body.length < length then .error .truncated else .ok (body, input.drop length)

theorem readBody_append (body rest : Bytes) :
    readBody body.length (body ++ rest) = .ok (body, rest) := by
  simp [readBody]

/-- A body that is read is what the input begins with. -/
theorem eq_append_of_readBody {length : Nat} {input body rest : Bytes}
    (found : readBody length input = .ok (body, rest)) :
    input = body ++ rest ∧ body.length = length := by
  simp only [readBody] at found
  split at found
  · simp at found
  · rename_i long
    simp only [Except.ok.injEq, Prod.mk.injEq] at found
    obtain ⟨rfl, rfl⟩ := found
    exact ⟨(List.take_append_drop length input).symm, by
      have bound := List.length_take_le length input
      omega⟩

/-- Reads the header fields and the body that belong to a request line. -/
def readAfterLine (method uri version : Text) (input : Bytes) :
    Except RelayError (Request × Bytes) := do
  let (headers, input) ← readHeaders maxHeaders input
  let length ← bodyLength headers
  let (body, rest) ← readBody length input
  return (⟨method, uri, version, headers, body⟩, rest)

/-- Reads a request and the input after it. Empty lines before it are skipped; nothing is read if
no more than those is left. -/
def read (input : Bytes) : Except RelayError (Option (Request × Bytes)) := do
  match ← Line.read (Line.skipEmpty input) with
  | none => return none
  | some (line, rest) =>
    match parts? line with
    | none => throw (.malformed .requestLine)
    | some (method, uri, version) =>
      if version ≠ protocolVersion then
        throw (.unsupportedVersion version)
      return some (← readAfterLine method uri version rest)

/-- Reads the request that a message holds; what follows it is left out. -/
def parse (message : Bytes) : Except RelayError Request := do
  match ← read message with
  | none => throw .truncated
  | some (request, _) => return request

end MediaRelay.Request
