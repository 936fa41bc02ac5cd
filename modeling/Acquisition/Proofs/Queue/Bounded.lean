import Mathlib
import Acquisition.Proofs.Queue.Records

/-!
# A queue as a bounded list of records

Whatever is done to a queue, it answers as a list of records would that has room for a fixed number
of bytes (`run_ofCapacity`). The ring and the count of records do not show.
-/

namespace Acquisition.RecordQueue

inductive Op
  | enqueue (record : Bytes)
  /-- Over the front of a buffer. -/
  | dequeue (out : Bytes)
  | reset

inductive Answer
  | enqueued (result : Except FrameError Unit)
  /-- The size of the record, and the buffer. -/
  | dequeued (result : Except FrameError (Option Nat)) (out : Bytes)
  | reset

/-- The operations on a queue. -/
def step (q : RecordQueue) : Op → Answer × RecordQueue
  | .enqueue record =>
    let (result, q) := q.enqueue record
    (.enqueued result, q)
  | .dequeue out =>
    let (result, out, q) := q.dequeueInto out
    (.dequeued result out, q)
  | .reset => (.reset, q.reset)

/-- The same operations on a list of records, oldest first, with room for `room` bytes. -/
def listStep (room : Nat) (records : List Bytes) : Op → Answer × List Bytes
  | .enqueue record =>
    let needed := record.length + lengthBytes
    let free := room - footprint records
    if 65535 < record.length then
      (.enqueued (.error (.payloadTooLarge record.length 65535)), records)
    else if free < needed then (.enqueued (.error (.queueFull needed free)), records)
    else (.enqueued (.ok ()), records ++ [record])
  | .dequeue out =>
    match records with
    | [] => (.dequeued (.ok none) out, [])
    | record :: rest =>
      if out.length < record.length then
        (.dequeued (.error (.recordTooLarge record.length out.length)) out, rest)
      else (.dequeued (.ok (some record.length)) (record ++ out.drop record.length), rest)
  | .reset => (.reset, [])

/-- All answers to a sequence of operations, and what is left. -/
def run {σ : Type} (step : σ → Op → Answer × σ) (s : σ) : List Op → List Answer × σ
  | [] => ([], s)
  | op :: rest =>
    let (answer, s) := step s op
    let (answers, s) := run step s rest
    (answer :: answers, s)

/-- The queue holds `records` and has room for `room` bytes in all. -/
structure Bounded (room : Nat) (q : RecordQueue) (records : List Bytes) : Prop where
  holds : q.Holds records
  capacity : q.ring.capacity = room

variable {room : Nat} {q : RecordQueue} {records : List Bytes}

theorem footprint_eq_zero_iff (records : List Bytes) : footprint records = 0 ↔ records = [] := by
  cases records with
  | nil => simp [footprint]
  | cons record rest => simp [footprint, lengthBytes]

theorem bounded_ofCapacity (capacity : Nat) :
    Bounded (max capacity 2 - 1) (ofCapacity capacity) [] := by
  refine ⟨holds_ofCapacity capacity, ?_⟩
  rw [ofCapacity, Ring.capacity, Ring.size, Ring.ofSize, Array.size_replicate]

theorem Bounded.free (h : Bounded room q records) : q.ring.free = room - footprint records := by
  rw [Ring.free, h.capacity, h.holds.available]

theorem capacity_enqueue (q : RecordQueue) (record : Bytes) :
    (q.enqueue record).2.ring.capacity = q.ring.capacity := by
  rw [enqueue]
  dsimp only
  split_ifs
  · rfl
  · rfl
  · simp only [Ring.capacity, Ring.size_push]

theorem capacity_dequeue (q : RecordQueue) (room : Nat) :
    (q.dequeue room).2.ring.capacity = q.ring.capacity := by
  rw [dequeue]
  dsimp only
  split_ifs <;> rfl

/-! ## One operation -/

theorem Bounded.enqueue (h : Bounded room q records) (record : Bytes) :
    (q.step (.enqueue record)).1 = (listStep room records (.enqueue record)).1 ∧
      Bounded room (q.step (.enqueue record)).2 (listStep room records (.enqueue record)).2 := by
  have hfree := h.free
  rw [step, listStep]
  dsimp only
  by_cases hlong : 65535 < record.length
  · rw [enqueue_of_long hlong, if_pos hlong]
    exact ⟨rfl, h⟩
  · have hshort : record.length < UInt16.size := Nat.lt_succ_of_le (Nat.le_of_not_lt hlong)
    rw [if_neg hlong]
    by_cases hfull : q.ring.free < record.length + lengthBytes
    · rw [enqueue_of_full hshort hfull, if_pos (hfree ▸ hfull), hfree]
      exact ⟨rfl, h⟩
    · obtain ⟨q', hq, hrecords, hcapacity⟩ :=
        h.holds.enqueue_of_room hshort (Nat.le_of_not_lt hfull)
      rw [hq, if_neg (hfree ▸ hfull)]
      exact ⟨rfl, hrecords, hcapacity.trans h.capacity⟩

theorem Bounded.dequeue (h : Bounded room q records) (out : Bytes) :
    (q.step (.dequeue out)).1 = (listStep room records (.dequeue out)).1 ∧
      Bounded room (q.step (.dequeue out)).2 (listStep room records (.dequeue out)).2 := by
  have hcapacity := capacity_dequeue q out.length
  rw [step, dequeueInto]
  cases records with
  | nil =>
    rw [h.holds.dequeue_nil]
    exact ⟨rfl, h⟩
  | cons record rest =>
    obtain ⟨q', hrest, hq⟩ := h.holds.dequeue_cons out.length
    rw [hq] at hcapacity ⊢
    rw [listStep]
    have hq' : Bounded room q' rest := ⟨hrest, hcapacity.trans h.capacity⟩
    by_cases hsize : out.length < record.length
    · rw [if_pos hsize, if_pos hsize]
      exact ⟨rfl, hq'⟩
    · rw [if_neg hsize, if_neg hsize]
      refine ⟨?_, hq'⟩
      change Answer.dequeued (.ok (some record.length)) (out.overwrite 0 record) = _
      rw [Bytes.overwrite_zero]

theorem Bounded.reset (h : Bounded room q records) : Bounded room q.reset [] := by
  refine ⟨⟨?_, by simp, rfl⟩, h.capacity⟩
  exact Ring.toList_reset q.ring

theorem Bounded.step (h : Bounded room q records) (op : Op) :
    (q.step op).1 = (listStep room records op).1 ∧
      Bounded room (q.step op).2 (listStep room records op).2 := by
  cases op with
  | enqueue record => exact h.enqueue record
  | dequeue out => exact h.dequeue out
  | reset => exact ⟨rfl, h.reset⟩

/-! ## Any number of operations -/

theorem Bounded.run (h : Bounded room q records) (ops : List Op) :
    (RecordQueue.run RecordQueue.step q ops).1 = (RecordQueue.run (listStep room) records ops).1 ∧
      Bounded room (RecordQueue.run RecordQueue.step q ops).2
        (RecordQueue.run (listStep room) records ops).2 := by
  induction ops generalizing q records with
  | nil => exact ⟨rfl, h⟩
  | cons op rest ih =>
    obtain ⟨hanswer, hstep⟩ := h.step op
    obtain ⟨hanswers, hrun⟩ := ih hstep
    exact ⟨congrArg₂ List.cons hanswer hanswers, hrun⟩

/-- A queue of any capacity answers any operations as a list of records does that has room for as
many bytes as the ring can hold. Its length, the bytes in use and whether it is empty are those of
the list, and no length field is without its record. -/
theorem run_ofCapacity (capacity : Nat) (ops : List Op) :
    let room := max capacity 2 - 1
    let q := (run step (ofCapacity capacity) ops).2
    let records := (run (listStep room) [] ops).2
    (run step (ofCapacity capacity) ops).1 = (run (listStep room) [] ops).1 ∧
      q.length = records.length ∧ q.used = footprint records ∧
      q.free = room - footprint records ∧ (q.isEmpty = true ↔ records = []) ∧ ¬ q.Torn := by
  intro room q records
  obtain ⟨hanswers, hbounded⟩ := (bounded_ofCapacity capacity).run ops
  have hused := hbounded.holds.available
  refine ⟨hanswers, hbounded.holds.length, hused, hbounded.free, ?_, hbounded.holds.not_torn⟩
  rw [isEmpty, Ring.isEmpty_iff, hused]
  exact footprint_eq_zero_iff records

end Acquisition.RecordQueue
