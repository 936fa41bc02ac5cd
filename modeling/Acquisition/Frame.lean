import Acquisition.Checksum
import Acquisition.Frame.Error

/-!
# Frames

```text
head    length     command  sequence  payload  checksum   tail
AA 55   2 bytes    1 byte   1 byte    n bytes  2 bytes    55 AA
```

`length` counts the bytes from the command to the end of the checksum, and the checksum covers the
command to the end of the payload; both fields are little-endian.

A frame is written in two ways, over the front of a fixed buffer (`writeInto`) and at the end of a
growing one (`appendTo`), and read back by `decode`.
-/

namespace Acquisition

structure Frame where
  /-- Says what the frame asks or tells, see `Command`. -/
  command : UInt8
  /-- Echoed by the reply to a request. -/
  seq : UInt8
  payload : Bytes
deriving DecidableEq

namespace Frame

def head : Bytes := [0xAA, 0x55]

def tail : Bytes := [0x55, 0xAA]

/-- Bytes that `length` does not count: head, length and tail. -/
def overhead : Nat := 6

/-- Bytes that `length` counts besides the payload: command, sequence number and checksum. -/
def fixedLength : Nat := 4

/-- The size of a frame without payload. -/
def minSize : Nat := overhead + fixedLength

/-- The largest frame that a receiver accepts. -/
def maxSize : Nat := 8192

def maxPayload : Nat := maxSize - minSize

def wireSize (f : Frame) : Nat := minSize + f.payload.length

/-- The length field of a frame with a payload of `size` bytes. -/
def lengthField (size : Nat) : Except FrameError UInt16 :=
  if fixedLength + size < UInt16.size then .ok (UInt16.ofNat (fixedLength + size))
  else .error (.payloadTooLarge size (UInt16.size - 1 - fixedLength))

/-- Writes the frame over the front of `out` and gives its size. A refusal leaves `out` alone. -/
def writeInto (f : Frame) (out : Bytes) : Except FrameError Nat × Bytes :=
  match lengthField f.payload.length with
  | .error e => (.error e, out)
  | .ok length =>
    let total := overhead + length.toNat
    if out.length < total then (.error (.bufferTooSmall total out.length), out)
    else
      let bodyEnd := 6 + f.payload.length
      let out := out.overwrite 0 head
      let out := out.overwrite 2 (Bytes.ofUInt16 length)
      let out := out.overwrite 4 [f.command, f.seq]
      let out := out.overwrite 6 f.payload
      let crc := Checksum.frameChecksum ((out.take bodyEnd).drop 4)
      let out := out.overwrite bodyEnd (Bytes.ofUInt16 crc)
      (.ok total, out.overwrite (bodyEnd + 2) tail)

/-- Writes the frame after `dst`. Refuses one that a receiver would discard for its size, and
leaves `dst` alone then. -/
def appendTo (f : Frame) (dst : Bytes) : Except FrameError Unit × Bytes :=
  if maxPayload < f.payload.length then
    (.error (.payloadTooLarge f.payload.length maxPayload), dst)
  else
    match lengthField f.payload.length with
    | .error e => (.error e, dst)
    | .ok length =>
      let start := dst ++ head ++ Bytes.ofUInt16 length
      let body := start ++ [f.command] ++ [f.seq] ++ f.payload
      let crc := Checksum.frameChecksum (body.drop start.length)
      (.ok (), body ++ Bytes.ofUInt16 crc ++ tail)

def encode (f : Frame) : Except FrameError Bytes :=
  match f.appendTo [] with
  | (.ok (), wire) => .ok wire
  | (.error e, _) => .error e

/-- The number that stands in the two bytes of `input` at `offset`. -/
def fieldAt (input : Bytes) (offset : Nat) : Nat :=
  Bytes.toNat ((input.drop offset).take 2)

/-- Reads exactly one frame. The checks run in the order size, head, tail, length, checksum. -/
def decode (input : Bytes) : Except FrameError Frame :=
  let n := input.length
  if n < minSize then .error .lengthMismatch
  else if input.take 2 ≠ head then .error .headMismatch
  else if input.drop (n - 2) ≠ tail then .error .tailMismatch
  else
    let length := fieldAt input 2
    if overhead + length ≠ n ∨ length < fixedLength then .error .lengthMismatch
    else
      let bodyEnd := n - 4
      let expected := UInt16.ofNat (fieldAt input bodyEnd)
      let actual := Checksum.frameChecksum ((input.take bodyEnd).drop 4)
      if expected ≠ actual then .error (.checksumMismatch expected actual)
      else
        .ok {
          command := input.getD 4 0
          seq := input.getD 5 0
          payload := (input.take bodyEnd).drop 6 }

/-- What is known of a frame whose payload went to the reader's buffer. -/
structure Header where
  command : UInt8
  seq : UInt8
  payloadLength : Nat
deriving DecidableEq

/-- Reads one frame and puts its payload over the front of `out`, which stays as it is until every
check has passed. The last check is for room in `out`. -/
def parseInto (input out : Bytes) : Except FrameError Header × Bytes :=
  match decode input with
  | .error e => (.error e, out)
  | .ok f =>
    let size := f.payload.length
    if out.length < size then (.error (.bufferTooSmall size out.length), out)
    else (.ok ⟨f.command, f.seq, size⟩, out.overwrite 0 f.payload)

end Frame

end Acquisition
