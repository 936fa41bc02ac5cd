import Acquisition.Frame.Error
import Acquisition.Ring

/-!
# A queue of whole records

Each record stands in a ring as its length, two bytes little-endian, and its bytes. A record enters
and leaves whole or not at all.
-/

namespace Acquisition

structure RecordQueue where
  ring : Ring
  /-- How many records are queued. -/
  length : Nat

namespace RecordQueue

def defaultCapacity : Nat := 65535

/-- The bytes of a record's length field. -/
def lengthBytes : Nat := 2

def ofCapacity (capacity : Nat) : RecordQueue :=
  { ring := Ring.ofSize capacity, length := 0 }

/-- Appends one record. A refusal leaves the queue alone. -/
def enqueue (q : RecordQueue) (record : Bytes) : Except FrameError Unit × RecordQueue :=
  if UInt16.size ≤ record.length then
    (.error (.payloadTooLarge record.length (UInt16.size - 1)), q)
  else
    let needed := record.length + lengthBytes
    let free := q.ring.free
    if free < needed then (.error (.queueFull needed free), q)
    else
      let ring := (q.ring.push (Bytes.ofNat lengthBytes record.length)).2
      let ring := (ring.push record).2
      (.ok (), { ring, length := q.length + 1 })

/-- Takes the oldest record, if there is a whole one. One of more than `room` bytes is consumed and
reported. -/
def dequeue (q : RecordQueue) (room : Nat) : Except FrameError (Option Bytes) × RecordQueue :=
  if q.ring.available < lengthBytes then (.ok none, q)
  else
    let size := Bytes.toNat (q.ring.read 0 lengthBytes)
    let ring := q.ring.advance lengthBytes
    if ring.available < size then (.ok none, { q with ring := ring.rewind lengthBytes })
    else
      let record := ring.read 0 size
      let q := { ring := ring.advance size, length := q.length - 1 }
      if room < size then (.error (.recordTooLarge size room), q) else (.ok (some record), q)

/-- A dequeued record leaves the ring, whether it fits into the room or not. -/
theorem available_lt_of_dequeue {q q' : RecordQueue} {room : Nat}
    {result : Except FrameError (Option Bytes)} (h : q.dequeue room = (result, q'))
    (hr : result ≠ .ok none) : q'.ring.available < q.ring.available := by
  rw [dequeue] at h
  split at h
  · cases h; exact absurd rfl hr
  · have hlength : lengthBytes = 2 := rfl
    dsimp only at h
    split at h
    · cases h; exact absurd rfl hr
    · split at h <;> cases h <;> simp only [Ring.available_advance] at * <;> omega

/-- `dequeue` over the front of a buffer. The number is the size of the record. -/
def dequeueInto (q : RecordQueue) (out : Bytes) :
    Except FrameError (Option Nat) × Bytes × RecordQueue :=
  match q.dequeue out.length with
  | (.ok (some record), q) => (.ok (some record.length), out.overwrite 0 record, q)
  | (.ok none, q) => (.ok none, out, q)
  | (.error e, q) => (.error e, out, q)

def isEmpty (q : RecordQueue) : Bool := q.ring.isEmpty

/-- The bytes in use, length fields included. -/
def used (q : RecordQueue) : Nat := q.ring.available

def free (q : RecordQueue) : Nat := q.ring.free

def reset (q : RecordQueue) : RecordQueue :=
  { ring := q.ring.reset, length := 0 }

end RecordQueue

end Acquisition
