import MediaRelay.Text.Basic

/-!
# Header fields

A message carries its header fields as a list of names and values. Names are compared without
regard to the case of ASCII letters, and a name may stand more than once: the first one counts.
-/

namespace MediaRelay

abbrev Headers := List (Text × Text)

namespace Headers

/-- The value of the first field with a name. -/
def get? (headers : Headers) (name : Text) : Option Text :=
  (headers.find? fun field => Text.sameFolded field.1 name).map Prod.snd

/-- The fields with other names. -/
def without (headers : Headers) (name : Text) : Headers :=
  headers.filter fun field => !Text.sameFolded field.1 name

/-- Adds a field at the end. -/
def add (headers : Headers) (name value : Text) : Headers := headers ++ [(name, value)]

/-- Replaces all fields with a name by one at the end. -/
def set (headers : Headers) (name value : Text) : Headers := (headers.without name).add name value

/-- The line of one field, terminator included. -/
def fieldLine (field : Text × Text) : Text := field.1 ++ ": ".toList ++ field.2 ++ "\r\n".toList

/-- The lines of the fields. -/
def lines (headers : Headers) : Text := headers.flatMap fieldLine

/-- Puts a field before the fields whose names are not smaller. -/
def insertByName (field : Text × Text) : Headers → Headers
  | [] => [field]
  | other :: rest =>
    if other.1 < field.1 then other :: insertByName field rest else field :: other :: rest

/-- The fields in the order of their names; fields of one name keep their order. -/
def sortedByName (headers : Headers) : Headers := headers.foldr insertByName []

/-- The name of the field that gives the length of the body. -/
def contentLength : Text := "Content-Length".toList

end Headers

end MediaRelay
