import Acquisition.Frame
import Acquisition.Ring

/-!
# Reception

Bytes arrive in pieces of any size and are kept in a ring. `extract` cuts the next candidate frame
out of them: a head marker with a plausible length, all of it there. What stands before it is noise
and is dropped. Whether a candidate is a frame is for `Frame.decode` to say.
-/

namespace Acquisition

/-- What a look at the buffered bytes finds. -/
inductive Scan
  /-- A whole candidate of `size` bytes after `skipped` bytes of noise. -/
  | candidate (skipped size : Nat)
  /-- None; the first `skipped` bytes can be dropped. -/
  | waiting (skipped : Nat)
deriving DecidableEq

namespace Scan

/-- Looks for a candidate of at most `limit` bytes from `pos` on. A longer one counts as noise. -/
def run (byteAt : Nat → UInt8) (available limit pos : Nat) : Scan :=
  if pos + 1 < available then
    if [byteAt pos, byteAt (pos + 1)] ≠ Frame.head then run byteAt available limit (pos + 1)
    else if available < pos + 4 then .waiting pos
    else
      let size := Frame.overhead + Bytes.toNat [byteAt (pos + 2), byteAt (pos + 3)]
      if limit < size then run byteAt available limit (pos + 1)
      else if available < pos + size then .waiting pos
      else .candidate pos size
  else .waiting pos
termination_by available - pos

theorem run_candidate {byteAt : Nat → UInt8} {available limit pos skipped size : Nat}
    (h : run byteAt available limit pos = .candidate skipped size) :
    Frame.overhead ≤ size ∧ size ≤ limit ∧ skipped + size ≤ available := by
  fun_induction run byteAt available limit pos with
  | case1 pos _ _ ih => exact ih h
  | case2 => cases h
  | case3 pos _ _ _ _ _ ih => exact ih h
  | case4 => cases h
  | case5 => simp only [candidate.injEq] at h; omega
  | case6 => cases h

end Scan

structure Receiver where
  ring : Ring
  /-- The largest frame that is accepted. -/
  maxFrame : Nat
  /-- How many received bytes found no room. -/
  dropped : Nat

namespace Receiver

def defaultCapacity : Nat := 65535

/-- Fewer buffered bytes than this are not looked at. -/
def minScan : Nat := 8

def ofCapacity (capacity maxFrame : Nat) : Receiver :=
  { ring := Ring.ofSize capacity, maxFrame, dropped := 0 }

/-- Takes as many bytes as fit and drops the rest. The number says how many were taken. -/
def feed (rx : Receiver) (data : Bytes) : Nat × Receiver :=
  let (accepted, ring) := rx.ring.push data
  (accepted, { rx with ring, dropped := rx.dropped + (data.length - accepted) })

/-- Cuts out the next candidate of at most `room` bytes. An incomplete one stays buffered from its
head on. -/
def extract (rx : Receiver) (room : Nat) : Option Bytes × Receiver :=
  let available := rx.ring.available
  if available < minScan then (none, rx)
  else
    match Scan.run rx.ring.peek available (min rx.maxFrame room) 0 with
    | .candidate skipped size =>
      (some (rx.ring.read skipped size), { rx with ring := rx.ring.advance (skipped + size) })
    | .waiting skipped => (none, { rx with ring := rx.ring.advance skipped })

/-- `extract` over the front of a buffer. The number is the size of the candidate. -/
def extractInto (rx : Receiver) (scratch : Bytes) : Option Nat × Bytes × Receiver :=
  match rx.extract scratch.length with
  | (some frame, rx) => (some frame.length, scratch.overwrite 0 frame, rx)
  | (none, rx) => (none, scratch, rx)

theorem available_lt_of_extract {rx rx' : Receiver} {room : Nat} {frame : Bytes}
    (h : rx.extract room = (some frame, rx')) :
    rx'.ring.available < rx.ring.available := by
  rw [extract] at h
  split at h
  · cases h
  · split at h
    · rename_i hscan
      have hsize := Scan.run_candidate hscan
      cases h
      rw [Ring.available_advance]
      have : Frame.overhead = 6 := rfl
      omega
    · cases h

/-- Cuts out candidates until none is left, in the order of their arrival. -/
def drain (rx : Receiver) (room : Nat) : List Bytes × Receiver :=
  match _h : rx.extract room with
  | (some frame, rx') =>
    let (rest, rx'') := drain rx' room
    (frame :: rest, rx'')
  | (none, rx') => ([], rx')
termination_by rx.ring.available
decreasing_by exact available_lt_of_extract _h

def reset (rx : Receiver) : Receiver :=
  { rx with ring := rx.ring.reset, dropped := 0 }

end Receiver

end Acquisition
