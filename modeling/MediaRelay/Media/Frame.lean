import MediaRelay.Error

/-!
# Interleaved frames

Media that share a connection with requests travel in frames: a marker, a channel number, the
length of the payload in two bytes and the payload. An uppercase letter in place of the marker
opens a request and ends the run of frames.
-/

namespace MediaRelay

/-- The longest payload of a frame or a datagram. -/
def maxPayload : Nat := 2048

structure Frame where
  channel : UInt8
  payload : Bytes
  deriving DecidableEq, Repr

namespace Frame

/-- The byte that opens a frame. -/
def marker : UInt8 := 0x24

/-- Whether a byte can open a request: method words are in uppercase letters. -/
def opensRequest (b : UInt8) : Bool := 0x41 ≤ b && b ≤ 0x5A

/-- The length that two bytes spell, the high one first. -/
def lengthOf (high low : UInt8) : Nat := high.toNat * 256 + low.toNat

/-- Reads a frame with at most `room` bytes of payload, and the input after it. Nothing is read at
the end of the input and where a request opens. -/
def read (room : Nat) (input : Bytes) : Except RelayError (Option (Frame × Bytes)) :=
  match input with
  | [] => .ok none
  | lead :: rest =>
    if opensRequest lead then
      .ok none
    else if lead ≠ marker then
      .error (.badMarker lead)
    else
      match rest with
      | channel :: high :: low :: rest =>
        let length := lengthOf high low
        let payload := rest.take length
        if maxPayload < length ∨ room < length then
          .error (.frameTooLarge length)
        else if payload.length < length then
          .error .truncated
        else
          .ok (some (⟨channel, payload⟩, rest.drop length))
      | _ => .error .truncated

/-- The four bytes before the payload. -/
def head (frame : Frame) : Bytes :=
  [marker, frame.channel, .ofNat (frame.payload.length / 256), .ofNat frame.payload.length]

/-- The length that a head states is that of the payload. -/
theorem lengthOf_ofNat {length : Nat} (fits : length < 65536) :
    lengthOf (.ofNat (length / 256)) (.ofNat length) = length := by
  simp only [lengthOf, UInt8.toNat_ofNat']
  omega

/-- The frame as it is sent. -/
def encode (frame : Frame) : Except RelayError Bytes :=
  if maxPayload < frame.payload.length then
    .error (.frameTooLarge frame.payload.length)
  else
    .ok (frame.head ++ frame.payload)

theorem encode_of_short {frame : Frame} (short : frame.payload.length ≤ maxPayload) :
    frame.encode = .ok (frame.head ++ frame.payload) :=
  if_neg (Nat.not_lt.mpr short)

end Frame

end MediaRelay
