import MediaRelay.Message.Target
import MediaRelay.Text.Blank
import MediaRelay.Text.Utf8

/-!
# Channel descriptions

A producer describes its channel in the lines of the session description format. The relay passes
the description on as it came and takes from it only the media: each `m=` line opens one, and the
last `a=control:` line before the next names its control.
-/

namespace MediaRelay

/-- Why a description is refused. -/
inductive DescriptionError where
  | notUtf8
  | missingVersion
  | noMedia
  deriving DecidableEq, Repr

namespace DescriptionError

def message : DescriptionError → Text
  | notUtf8 => "description is not valid UTF-8".toList
  | missingVersion => "description does not start with v=0".toList
  | noMedia => "description has no media section".toList

end DescriptionError

/-- One medium of a description. -/
structure MediaSection where
  /-- The media type, such as `video`. -/
  kind : Text
  /-- What a target calls the medium; empty if the description does not name it. -/
  control : Text := []
  deriving DecidableEq, Repr

structure Description where
  sections : List MediaSection
  deriving DecidableEq, Repr

namespace Description

/-- The control that an attribute names: of an absolute target its control, else the value without
the slashes it begins with. -/
def controlOf (value : Text) : Text :=
  if Text.hasPhrase "://".toList value then
    (Target.ofUri value).control
  else
    value.dropWhile fun c => c = '/'

/-- Takes in one line. The sections are listed last first. -/
def takeLine (sections : List MediaSection) (line : Text) : List MediaSection :=
  match Text.after? "m=".toList line with
  | some rest => ⟨Text.firstWord rest, []⟩ :: sections
  | none =>
    match Text.after? "a=control:".toList line, sections with
    | some value, current :: earlier =>
      { current with control := controlOf (Text.trimmed value) } :: earlier
    | _, _ => sections

/-- The lines of a text, trimmed, without the blank ones. -/
def contentLines (text : Text) : List Text :=
  ((Text.pieces '\n' text).map Text.trimmed).filter fun line => !line.isEmpty

/-- Reads the description that a body holds. -/
def parse (raw : Bytes) : Except DescriptionError Description :=
  match Utf8.decode? raw with
  | none => .error .notUtf8
  | some text =>
    match contentLines text with
    | [] => .error .missingVersion
    | first :: lines =>
      if first ≠ "v=0".toList then
        .error .missingVersion
      else
        match (lines.foldl takeLine []).reverse with
        | [] => .error .noMedia
        | sections => .ok ⟨sections⟩

/-- The controls of the media, in order. -/
def controls (description : Description) : List Text :=
  description.sections.map MediaSection.control

/-- The position of the first medium with a control. -/
def position? (description : Description) (control : Text) : Option Nat :=
  description.controls.findIdx? fun held => held = control

end Description

end MediaRelay
