/-!
# Ordinals and channel numbers

The media of a description are counted from zero. On a connection that carries media itself, each
medium takes a pair of channel numbers, of which the even one carries the stream and the odd one
its control packets. `join?` and `split` turn an ordinal and a half into such a number and back.
-/

namespace MediaRelay

/-- The position of a medium in its description. -/
abbrev Ordinal := UInt64

/-- What half of a pair carries: the stream or its control packets. -/
inductive Half where
  | rtp
  | rtcp
  deriving DecidableEq, Repr

namespace Half

/-- The half that a channel number carries. -/
def ofParity (channel : UInt8) : Half := if channel % 2 = 0 then rtp else rtcp

def index : Half → UInt8
  | rtp => 0
  | rtcp => 1

/-- The member of a pair that belongs to a half. -/
def pick {α : Type} (half : Half) (pair : α × α) : α :=
  match half with
  | rtp => pair.1
  | rtcp => pair.2

end Half

namespace Ordinal

/-- The ordinal and the half that a channel number stands for. -/
def split (channel : UInt8) : Ordinal × Half := ((channel / 2).toUInt64, Half.ofParity channel)

/-- Twice an ordinal, unless that overflows. -/
def double? (ordinal : Ordinal) : Option Ordinal :=
  if ordinal ≤ 0x7FFFFFFFFFFFFFFF then some (ordinal * 2) else none

/-- The channel number of an ordinal and a half, if there is one. -/
def join? (ordinal : Ordinal) (half : Half) : Option UInt8 :=
  (double? ordinal).bind fun first =>
    let number := first + half.index.toUInt64
    if number ≤ 0xFF then some number.toUInt8 else none

end Ordinal

end MediaRelay
