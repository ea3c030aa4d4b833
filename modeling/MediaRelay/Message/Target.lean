import MediaRelay.Text.Basic

/-!
# Request targets

A target names a channel and, within it, a control: `rtsp://host/cam1/track1` addresses the
control `track1` of the channel `cam1`. Host, query and fragment are left out.
-/

namespace MediaRelay

structure Target where
  channel : Text
  control : Text
  deriving DecidableEq, Repr

namespace Target

/-- The schemes of targets that name a host. -/
def schemes : List Text := ["rtsp://".toList, "rtsps://".toList, "rtspu://".toList]

/-- What follows the host of an absolute target, or a target that is a path itself. -/
def hostPath (uri : Text) : Text :=
  match schemes.findSome? fun scheme => Text.after? scheme uri with
  | some rest => rest.dropWhile fun c => c ≠ '/'
  | none =>
    match uri with
    | '/' :: _ => uri
    | _ => []

/-- The path without query, fragment and the slashes at its ends. -/
def path (uri : Text) : Text :=
  Text.trimmedOf (fun c => c = '/') ((hostPath uri).takeWhile fun c => c ≠ '?' && c ≠ '#')

/-- The first part of the path is the channel, the rest is the control. -/
def ofUri (uri : Text) : Target :=
  match Text.cut? '/' (path uri) with
  | some (channel, control) => ⟨channel, control⟩
  | none => ⟨path uri, []⟩

end Target

end MediaRelay
