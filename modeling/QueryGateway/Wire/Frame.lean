import QueryGateway.Text.Utf8
import QueryGateway.Wire.Error

/-! # Frames

A frame is a text with its byte count in front of it, in two bytes, the high one first. The decoder
takes the count as soon as both of its bytes are there, and the payload when it is complete.
-/

namespace QueryGateway

/-- The most bytes that the payload of a frame can have. -/
def maxFrameLength : Nat := 0xFFFF

/-- The two bytes that announce a payload of `n` bytes. -/
def lengthBytes (n : Nat) : Bytes :=
  [UInt8.ofNat (n / 256), UInt8.ofNat n]

/-- The frame of a payload of bytes. -/
def frameBytes (payload : Bytes) : Bytes :=
  lengthBytes payload.length ++ payload

/-- The frame of a text, unless the text is too long. -/
def encodeFrame (text : String) : Except WireError Bytes :=
  if text.utf8ByteSize ≤ maxFrameLength then .ok (frameBytes (.ofText text))
  else .error (.frameTooLarge text.utf8ByteSize maxFrameLength)

/-- Bytes on their way to being frames. -/
structure FrameDecoder where
  /-- The byte count of the next payload, if it was read already. -/
  expected : Option Nat
  /-- What follows the count, or else what follows the frame before. -/
  buffer : Bytes
  deriving DecidableEq, Repr

namespace FrameDecoder

/-- A decoder that has seen no bytes. -/
def empty : FrameDecoder := ⟨none, []⟩

/-- More bytes arrive. -/
def append (d : FrameDecoder) (bytes : Bytes) : FrameDecoder :=
  { d with buffer := d.buffer ++ bytes }

/-- Takes the byte count of the next payload out of the buffer, if both bytes are there. -/
def takeLength : FrameDecoder → FrameDecoder
  | ⟨none, high :: low :: rest⟩ => ⟨some (high.toNat * 256 + low.toNat), rest⟩
  | d => d

/-- The next frame if its payload is complete. A payload that is no text takes up its frame too. -/
def next (d : FrameDecoder) : Option (Except WireError String) × FrameDecoder :=
  match d.takeLength with
  | ⟨some n, buffer⟩ =>
    if n ≤ buffer.length then
      (some ((Bytes.text? (buffer.take n)).elim (.error .invalidUtf8) .ok), ⟨none, buffer.drop n⟩)
    else (none, ⟨some n, buffer⟩)
  | d => (none, d)

/-- The next frame when no more bytes will arrive. Bytes that are left over form no frame. -/
def nextAtEnd (d : FrameDecoder) : Option (Except WireError String) × FrameDecoder :=
  match d.next with
  | (some frame, d) => (some frame, d)
  | (none, d) =>
    if d.buffer.isEmpty then (none, d) else (some (.error (.truncated d.buffer.length)), d)

/-- The bytes that still have to be read. A frame that is taken out makes it smaller. -/
def size (d : FrameDecoder) : Nat :=
  d.buffer.length + if d.expected.isSome then 2 else 0

theorem size_takeLength (d : FrameDecoder) : d.takeLength.size = d.size := by
  unfold takeLength
  split <;> simp [size]

theorem size_next_lt {d : FrameDecoder} {frame : Except WireError String}
    (h : d.next.1 = some frame) : d.next.2.size < d.size := by
  rw [← size_takeLength d]
  unfold next at h ⊢
  split at h
  · next n buffer heq =>
    split at h
    · next hn => simp [heq, hn, size]; omega
    · cases h
  · cases h

/-- Every frame that is complete, and the decoder after them. -/
def drain (d : FrameDecoder) : List (Except WireError String) × FrameDecoder :=
  match _hnext : d.next with
  | (some frame, rest) =>
    let (frames, last) := drain rest
    (frame :: frames, last)
  | (none, rest) => ([], rest)
termination_by d.size
decreasing_by
  have := size_next_lt (show d.next.1 = some frame by rw [_hnext])
  rw [_hnext] at this
  exact this

end FrameDecoder

end QueryGateway
