import MediaRelay.Text.Basic

/-!
# Session states

A session begins in `init`, becomes ready once every medium of its channel is set up, and then
streams in one direction or pauses.
-/

namespace MediaRelay

inductive SessionState where
  | init
  | ready
  | playing
  | recording
  deriving DecidableEq, Repr

namespace SessionState

def name : SessionState → Text
  | init => "INIT".toList
  | ready => "READY".toList
  | playing => "PLAYING".toList
  | recording => "RECORDING".toList

/-- Whether media flow. -/
def isStreaming (state : SessionState) : Bool := state = playing || state = recording

end SessionState

/-- Which way media flow, as the peer sees it. -/
inductive Direction where
  | record
  | play
  deriving DecidableEq, Repr

namespace Direction

/-- The method that starts media in a direction. -/
def methodName : Direction → Text
  | record => "RECORD".toList
  | play => "PLAY".toList

/-- The state of a session that streams in a direction. -/
def state : Direction → SessionState
  | record => .recording
  | play => .playing

end Direction

end MediaRelay
