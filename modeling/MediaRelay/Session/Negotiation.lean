import MediaRelay.Description
import MediaRelay.Refusal
import MediaRelay.Session.Media
import MediaRelay.Table

/-!
# What a session has negotiated

The state of a session, the channel it is bound to and the media it has set up, with the changes
that requests make to them.
-/

namespace MediaRelay

structure Negotiation where
  state : SessionState := .init
  /-- The media by their controls. -/
  media : Table Text Media := {}
  /-- Whether media travel in frames on the connection; fixed when streaming starts. -/
  interleaved : Bool := false
  /-- The channel that the session is bound to. -/
  channel : Option Text := none
  deriving DecidableEq

namespace Negotiation

/-- What every session begins with and returns to. -/
def initial : Negotiation := {}

instance : Inhabited Negotiation := ⟨initial⟩

/-- Forgets everything. -/
def clear (negotiation : Negotiation) : Negotiation :=
  { negotiation with state := .init, media := {}, interleaved := false, channel := none }

def isPlaying (negotiation : Negotiation) : Bool := negotiation.state = .playing

def isRecording (negotiation : Negotiation) : Bool := negotiation.state = .recording

/-- Whether the session may be bound to a channel: it is unbound, or bound to that one. -/
def mayBind (negotiation : Negotiation) (name : Text) : Bool :=
  match negotiation.channel with
  | some current => current = name
  | none => true

/-- Binds the session to a channel. -/
def bind (negotiation : Negotiation) (name : Text) : Negotiation :=
  { negotiation with channel := some name }

/-- Whether another medium than that of the control travels in the other way. -/
def mixes (negotiation : Negotiation) (control : Text) (media : Media) : Bool :=
  negotiation.media.entries.any fun held =>
    held.1 ≠ control && held.2.isInterleaved ≠ media.isInterleaved

/-- Whether every medium of a description is set up. -/
def covers (negotiation : Negotiation) (description : Description) : Bool :=
  description.controls.all fun control => negotiation.media.contains control

/-- Whether the session is now to become ready: the description is covered, and nothing has
happened yet. -/
def completes (negotiation : Negotiation) (description : Description) : Bool :=
  negotiation.covers description && negotiation.state = .init

/-- Becomes ready, if it is to. -/
def settle (negotiation : Negotiation) (description : Description) : Negotiation :=
  if negotiation.completes description then
    { negotiation with state := .ready }
  else
    negotiation

/-- Sets up a medium, in place of an earlier one with its control, and tells whether that made the
session ready. -/
def addMedia (negotiation : Negotiation) (control : Text) (media : Media)
    (description : Description) : Except Refusal (Negotiation × Bool) :=
  if negotiation.mixes control media then
    .error (.unsupportedTransport
      "cannot mix interleaved and UDP media in one session".toList)
  else
    let changed := { negotiation with media := negotiation.media.set control media }
    .ok (changed.settle description, changed.completes description)

/-- How the media of a description travel, if all are set up for a direction and travel alike. -/
def framing? (negotiation : Negotiation) (description : Description) (direction : Direction) :
    Option Bool :=
  match description.controls.mapM fun control => negotiation.media.get? control with
  | some (first :: rest) =>
    if (first :: rest).all fun media =>
        media.record = (direction = .record) && media.isInterleaved = first.isInterleaved then
      some first.isInterleaved
    else
      none
  | _ => none

/-- How the media of a description travel; refused if they cannot stream in a direction. -/
def checkMedia (negotiation : Negotiation) (description : Description) (direction : Direction) :
    Except Refusal Bool :=
  match negotiation.framing? description direction with
  | some interleaved => .ok interleaved
  | none => .error (.invalidState direction.methodName negotiation.state)

/-- Starts streaming in a direction. -/
def start (negotiation : Negotiation) (direction : Direction) (interleaved : Bool) : Negotiation :=
  { negotiation with state := direction.state, interleaved := interleaved }

/-- Stops streaming; the media stay set up. -/
def pause (negotiation : Negotiation) : Negotiation :=
  if negotiation.state.isStreaming then { negotiation with state := .ready } else negotiation

/-- The ordinal of the medium that a received channel number belongs to. -/
def ordinalForChannel (negotiation : Negotiation) (channel : UInt8) : Ordinal :=
  Media.ordinalForChannel negotiation.media.values channel

/-- The ordinal of the medium that the peer sends from a port. -/
def ordinalForPort? (negotiation : Negotiation) (port : UInt16) : Option Ordinal :=
  Media.ordinalForPort? negotiation.media.values port

/-- Where a package leaves the session. -/
def outlet? (negotiation : Negotiation) (package : Package) : Option Outlet :=
  Outlet.of? negotiation.media.values negotiation.interleaved package

/-! ## What setting up a medium does -/

variable {negotiation changed : Negotiation} {control : Text} {media : Media}
  {description : Description} {completed : Bool}

theorem completes_iff : negotiation.completes description = true ↔
    negotiation.covers description = true ∧ negotiation.state = .init := by
  simp only [completes, Bool.and_eq_true, decide_eq_true_eq]

theorem addMedia_of_mixes (mixed : negotiation.mixes control media = true) :
    negotiation.addMedia control media description =
      .error (.unsupportedTransport
        "cannot mix interleaved and UDP media in one session".toList) :=
  if_pos mixed

/-- A medium is set up just if it travels as those of the other controls do. -/
theorem addMedia_eq_ok_iff :
    negotiation.addMedia control media description = .ok (changed, completed) ↔
      negotiation.mixes control media = false ∧
        changed = settle { negotiation with media := negotiation.media.set control media }
          description ∧
        completed = completes { negotiation with media := negotiation.media.set control media }
          description := by
  cases mixed : negotiation.mixes control media with
  | true => simp [addMedia_of_mixes mixed]
  | false => simp [addMedia, mixed, eq_comm]

end Negotiation

end MediaRelay
