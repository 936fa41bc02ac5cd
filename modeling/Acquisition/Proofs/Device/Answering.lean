import Mathlib
import Acquisition.Proofs.Device.Readable
import Acquisition.Proofs.Frame.Format
import Acquisition.Proofs.Queue.Bounded

/-!
# One frame in, one answer or no trace

Received bytes that are no frame are counted and change nothing else. A frame gets one answer, which
the queue takes if there is room (`handleFrame_eq`).
-/

namespace Acquisition.Device

variable {wire : Bytes} {f : Frame}

/-! ## What is received -/

theorem received?_eq (wire : Bytes) :
    received? wire =
      match Frame.decode wire with
      | .ok f => if f.payload.length ≤ Frame.maxPayload then some f else none
      | .error _ => none := by
  have hroom : payloadRoom.length = Frame.maxPayload := List.length_replicate
  rw [received?, Frame.parseInto]
  cases Frame.decode wire with
  | error e => rfl
  | ok f =>
    dsimp only
    rw [hroom]
    by_cases hsize : f.payload.length ≤ Frame.maxPayload
    · rw [if_neg (Nat.not_lt_of_le hsize), if_pos hsize, Bytes.overwrite_zero]
      dsimp only
      rw [List.take_left]
    · rw [if_pos (Nat.lt_of_not_le hsize), if_neg hsize]

theorem received?_eq_some_iff :
    received? wire = some f ↔ f.payload.length ≤ Frame.maxPayload ∧ f.Encodes wire := by
  have hdecode : Frame.decode wire = .ok f ↔ f.Encodes wire := by
    rw [Frame.decode_eq_ok_iff, Frame.encodes_iff, eq_comm (a := wire)]
  rw [received?_eq, ← hdecode]
  cases Frame.decode wire with
  | error e => exact iff_of_false nofun fun h => nomatch h.2
  | ok g =>
    rw [Option.ite_none_right_eq_some, Except.ok.injEq, Option.some.injEq]
    constructor
    · rintro ⟨hsize, rfl⟩
      exact ⟨hsize, rfl⟩
    · rintro ⟨hsize, rfl⟩
      exact ⟨hsize, rfl⟩

/-! ## Its answer -/

/-- The response to a frame and the device after it. -/
def responseTo (d : Device) (f : Frame) (now : Nat) : Response × Device :=
  match Request.parse f.command f.payload with
  | .ok request => d.handleRequest request now
  | .error refusal => (.ofRefusal refusal, d)

theorem reply_eq (d : Device) (f : Frame) (now : Nat) :
    d.reply f now = ((d.responseTo f now).1.toFrame f.seq, (d.responseTo f now).2) := by
  rw [reply, responseTo]
  cases Request.parse f.command f.payload <;> rfl

theorem handleFrame_of_not_received (h : received? wire = none) (d : Device) (now : Nat)
    (q : RecordQueue) : d.handleFrame wire now q = (d.tally { framesRejected := 1 }, q) := by
  rw [handleFrame, respond_of_not_received h]
  rfl

theorem handleFrame_of_received (h : received? wire = some f) (d : Device) (now : Nat)
    (q : RecordQueue) :
    d.handleFrame wire now q =
      ((d.responseTo f now).2.tally { framesHandled := 1 }).send
        ((d.responseTo f now).1.toFrame f.seq) q := by
  rw [handleFrame, respond_of_received h, reply_eq]
  rfl

/-! ## What becomes of the answer -/

section

variable {q : RecordQueue}

theorem send_of_room (d : Device) (hsize : f.wireSize ≤ Frame.maxSize) {records : List Bytes}
    (h : q.Holds records) (hroom : f.wire.length + 2 ≤ q.free) :
    ∃ q', d.send f q = (d.tally { framesQueued := 1 }, q') ∧ q'.Holds (records ++ [f.wire]) := by
  obtain ⟨q', hq, hrecords, -⟩ := h.enqueue_of_room (Frame.length_wire_lt hsize) hroom
  refine ⟨q', ?_, hrecords⟩
  rw [send_eq_enqueue d hsize, hq]

theorem send_of_full (d : Device) (hsize : f.wireSize ≤ Frame.maxSize)
    (hfull : q.free < f.wire.length + 2) :
    d.send f q = (d.tally { framesDropped := 1 }, q) := by
  rw [send_eq_enqueue d hsize, RecordQueue.enqueue_of_full (Frame.length_wire_lt hsize) hfull]

end

theorem responseTo_keeps (d : Device) (f : Frame) (now : Nat) :
    (d.responseTo f now).2.stats = d.stats := by
  have hkeeps := (reply_keeps d f now).2
  rwa [reply_eq] at hkeeps

end Acquisition.Device
