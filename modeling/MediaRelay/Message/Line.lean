import MediaRelay.Error
import MediaRelay.Text.Utf8

/-!
# Lines

The head of a message consists of lines. A line ends with a line feed, before which one carriage
return may stand, and the line feed has to come within the first `maxLine` bytes.
-/

namespace MediaRelay.Line

/-- The longest line, terminator included. -/
def maxLine : Nat := 4096

def lineFeed : UInt8 := 10

def carriageReturn : UInt8 := 13

/-- Drops one carriage return at the end. -/
def withoutReturn (line : Bytes) : Bytes :=
  if line.getLast? = some carriageReturn then line.dropLast else line

/-- Reads a line and the input after it; nothing if the input is empty. -/
def read (input : Bytes) : Except RelayError (Option (Text × Bytes)) :=
  if input.isEmpty then
    .ok none
  else
    let line := input.takeWhile fun b => b ≠ lineFeed
    if maxLine ≤ line.length then
      .error (.malformed .lineTooLong)
    else
      match input.drop line.length with
      | [] => .error .truncated
      | _ :: rest =>
        match Utf8.decode? (withoutReturn line) with
        | some text => .ok (some (text, rest))
        | none => .error (.malformed .notUtf8)

/-- Drops the empty lines that the input begins with. -/
def skipEmpty : Bytes → Bytes
  | 10 :: rest => skipEmpty rest
  | 13 :: 10 :: rest => skipEmpty rest
  | input => input

end MediaRelay.Line
