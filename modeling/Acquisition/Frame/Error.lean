import Acquisition.Text.Hex

/-!
# Why a frame or a queued record is refused
-/

namespace Acquisition

inductive FrameError
  | headMismatch
  | tailMismatch
  | lengthMismatch
  /-- The stored checksum is `expected`, that of the bytes present is `actual`. -/
  | checksumMismatch (expected actual : UInt16)
  | bufferTooSmall (needed capacity : Nat)
  | payloadTooLarge (size max : Nat)
  /-- The queue has not enough room; nothing was written. -/
  | queueFull (needed free : Nat)
  /-- A queued record is larger than the reader's buffer; it has been consumed. -/
  | recordTooLarge (size capacity : Nat)
deriving DecidableEq

namespace FrameError

/-- What kind of fault an error is. -/
inductive Category
  /-- Malformed markers or length. -/
  | format
  /-- A wrong checksum. -/
  | integrity
  /-- A buffer or queue that cannot hold the data. -/
  | capacity
deriving DecidableEq

def category : FrameError → Category
  | headMismatch | tailMismatch | lengthMismatch => .format
  | checksumMismatch .. => .integrity
  | bufferTooSmall .. | payloadTooLarge .. | queueFull .. | recordTooLarge .. => .capacity

def message : FrameError → String
  | headMismatch => "invalid frame head (expected 0xAA 0x55)"
  | tailMismatch => "invalid frame tail (expected 0x55 0xAA)"
  | lengthMismatch => "frame length mismatch"
  | checksumMismatch expected actual =>
    s!"frame checksum mismatch (expected {checksum expected}, got {checksum actual})"
  | bufferTooSmall needed capacity =>
    s!"buffer too small ({needed} bytes needed, capacity {capacity})"
  | payloadTooLarge size max => s!"payload too large ({size} bytes, max {max})"
  | queueFull needed free => s!"tx queue full ({needed} bytes needed, {free} free)"
  | recordTooLarge size capacity =>
    s!"queued record too large ({size} bytes, capacity {capacity})"
where
  checksum (v : UInt16) : String := Text.Hex.padded 4 v.toNat

end FrameError

end Acquisition
