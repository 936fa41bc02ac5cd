import Mathlib
import Acquisition.Bytes.Lemmas
import Acquisition.RecordQueue
import Acquisition.Proofs.Ring.Contents

/-!
# The records of a queue

The value behind a queue is the list of its records, oldest first. `toList` reads it off by taking
one record after the other, and `Holds` says that the ring stands for exactly such a list: no byte
of it is outside a record.
-/

namespace Acquisition.RecordQueue

/-- The records that are left, in the order in which they will be taken. -/
def toList (q : RecordQueue) : List Bytes :=
  match _h : q.dequeue UInt16.size with
  | (.ok (some record), q') => record :: toList q'
  | (.ok none, _) | (.error _, _) => []
termination_by q.ring.available
decreasing_by exact available_lt_of_dequeue _h (by simp)

/-- A record as it stands in the ring. -/
def stored (record : Bytes) : Bytes := Bytes.ofNat lengthBytes record.length ++ record

structure Holds (q : RecordQueue) (records : List Bytes) : Prop where
  contents : q.ring.toList = records.flatMap stored
  short : ∀ record ∈ records, record.length < UInt16.size
  length : q.length = records.length

theorem holds_ofCapacity (capacity : Nat) : Holds (ofCapacity capacity) [] :=
  ⟨Ring.toList_ofSize _, by simp, rfl⟩

/-- The bytes that records take up in a queue. -/
def footprint (records : List Bytes) : Nat := (records.map fun r => r.length + lengthBytes).sum

theorem Holds.available {q : RecordQueue} {records : List Bytes} (h : q.Holds records) :
    q.ring.available = footprint records := by
  have hstored (record : Bytes) : (stored record).length = record.length + lengthBytes := by
    rw [stored, List.length_append, Bytes.length_ofNat, Nat.add_comm]
  rw [← Ring.length_toList, h.contents, List.length_flatMap, footprint]
  simp only [hstored]

theorem enqueue_of_long {record : Bytes} (h : UInt16.size ≤ record.length) (q : RecordQueue) :
    q.enqueue record = (.error (.payloadTooLarge record.length (UInt16.size - 1)), q) := by
  rw [enqueue, if_pos h]

theorem enqueue_of_full {q : RecordQueue} {record : Bytes} (hshort : record.length < UInt16.size)
    (hfull : q.ring.free < record.length + lengthBytes) :
    q.enqueue record = (.error (.queueFull (record.length + lengthBytes) q.ring.free), q) := by
  rw [enqueue, if_neg (Nat.not_le_of_lt hshort)]
  exact if_pos hfull

-- A refusal leaves the queue alone.
theorem enqueue_eq_error {q q' : RecordQueue} {record : Bytes} {e : FrameError}
    (h : q.enqueue record = (.error e, q')) : q' = q := by
  rw [RecordQueue.enqueue] at h
  dsimp only at h
  split_ifs at h <;> cases h <;> rfl

theorem Holds.enqueue_of_room {q : RecordQueue} {records : List Bytes} (h : q.Holds records)
    {record : Bytes} (hshort : record.length < UInt16.size)
    (hroom : record.length + lengthBytes ≤ q.ring.free) :
    ∃ q', q.enqueue record = (.ok (), q') ∧ q'.Holds (records ++ [record]) ∧
      q'.ring.capacity = q.ring.capacity := by
  have hlen : (Bytes.ofNat lengthBytes record.length).length = lengthBytes := Bytes.length_ofNat ..
  have hfirst : ((q.ring.push (Bytes.ofNat lengthBytes record.length)).2).free =
      q.ring.free - lengthBytes := by
    rw [Ring.free_push, hlen, Nat.min_eq_left (by omega)]
  refine ⟨{ ring := ((q.ring.push (Bytes.ofNat lengthBytes record.length)).2.push record).2
            length := q.length + 1 }, ?_, ⟨?_, ?_, ?_⟩, ?_⟩
  · rw [enqueue, if_neg (Nat.not_le_of_lt hshort)]
    exact if_neg (Nat.not_lt_of_le hroom)
  · dsimp only
    rw [Ring.toList_push_of_le _ (by omega), Ring.toList_push_of_le _ (by omega), h.contents,
      List.flatMap_append, List.flatMap_singleton, stored, List.append_assoc]
  · intro r hr
    rcases List.mem_append.mp hr with hr | hr
    · exact h.short r hr
    · rwa [List.mem_singleton.mp hr]
  · simp [h.length]
  · rw [Ring.capacity, Ring.size_push, Ring.size_push, Ring.capacity]

-- An enqueue puts the record at the end, or changes nothing.
theorem Holds.enqueue {q : RecordQueue} {records : List Bytes} (h : q.Holds records)
    (record : Bytes) :
    (∃ e, q.enqueue record = (.error e, q)) ∨
      ∃ q', q.enqueue record = (.ok (), q') ∧ q'.Holds (records ++ [record]) := by
  by_cases hshort : record.length < UInt16.size
  · by_cases hroom : record.length + lengthBytes ≤ q.ring.free
    · obtain ⟨q', hq, hrecords, -⟩ := h.enqueue_of_room hshort hroom
      exact .inr ⟨q', hq, hrecords⟩
    · exact .inl ⟨_, enqueue_of_full hshort (Nat.lt_of_not_le hroom)⟩
  · exact .inl ⟨_, enqueue_of_long (Nat.le_of_not_lt hshort) q⟩

theorem Holds.dequeue_nil {q : RecordQueue} (h : q.Holds []) (room : Nat) :
    q.dequeue room = (.ok none, q) := by
  have hempty : q.ring.available = 0 := (Ring.toList_eq_nil_iff _).mp h.contents
  rw [RecordQueue.dequeue, if_pos (by rw [hempty]; decide)]

-- The length field of the oldest record stands in front, and the whole record behind it.
theorem Holds.front {q : RecordQueue} {record : Bytes} {rest : List Bytes}
    (h : q.Holds (record :: rest)) :
    lengthBytes ≤ q.ring.available ∧
      Bytes.toNat (q.ring.read 0 lengthBytes) = record.length ∧
      (q.ring.advance lengthBytes).toList = record ++ rest.flatMap stored := by
  have hshort : record.length < 256 ^ lengthBytes := h.short record List.mem_cons_self
  have hlen : (Bytes.ofNat lengthBytes record.length).length = lengthBytes := Bytes.length_ofNat ..
  have hcontents : q.ring.toList =
      Bytes.ofNat lengthBytes record.length ++ (record ++ rest.flatMap stored) := by
    rw [h.contents, List.flatMap_cons, stored, List.append_assoc]
  have hfield : lengthBytes ≤ q.ring.available := by
    rw [← Ring.length_toList, hcontents, List.length_append, hlen]
    omega
  refine ⟨hfield, ?_, ?_⟩
  · rw [Ring.read_eq _ (by omega), List.drop_zero, hcontents, List.take_left' hlen,
      Bytes.toNat_ofNat, Nat.mod_eq_of_lt hshort]
  · rw [Ring.toList_advance, hcontents, List.drop_left' hlen]

theorem Holds.length_le_available {q : RecordQueue} {record : Bytes} {rest : List Bytes}
    (h : q.Holds (record :: rest)) :
    record.length ≤ (q.ring.advance lengthBytes).available := by
  rw [← Ring.length_toList, h.front.2.2, List.length_append]
  exact Nat.le_add_right ..

-- A dequeue takes the oldest record whole. What it does not have room for is lost.
theorem Holds.dequeue_cons {q : RecordQueue} {record : Bytes} {rest : List Bytes}
    (h : q.Holds (record :: rest)) (room : Nat) :
    ∃ q', q'.Holds rest ∧ q.dequeue room =
      (if room < record.length then .error (.recordTooLarge record.length room)
        else .ok (some record), q') := by
  obtain ⟨hfield, hsize, hbody⟩ := h.front
  have havail := h.length_le_available
  refine ⟨{ ring := (q.ring.advance lengthBytes).advance record.length, length := q.length - 1 },
    ⟨?_, fun r hr => h.short r (List.mem_cons_of_mem _ hr), ?_⟩, ?_⟩
  · rw [Ring.toList_advance, hbody, List.drop_left]
  · simp [h.length]
  · rw [RecordQueue.dequeue, if_neg (Nat.not_lt_of_le hfield)]
    dsimp only
    rw [hsize, if_neg (Nat.not_lt_of_le havail), Ring.read_eq _ (by omega), List.drop_zero, hbody,
      List.take_left]
    split <;> rfl

/-- A length field stands in front whose record is not all there. Reading it is taken back. -/
def Torn (q : RecordQueue) : Prop :=
  lengthBytes ≤ q.ring.available ∧
    (q.ring.advance lengthBytes).available < Bytes.toNat (q.ring.read 0 lengthBytes)

theorem dequeue_of_torn {q : RecordQueue} (h : q.Torn) (room : Nat) :
    q.dequeue room =
      (.ok none, { q with ring := (q.ring.advance lengthBytes).rewind lengthBytes }) := by
  rw [dequeue, if_neg (Nat.not_lt_of_le h.1)]
  exact if_pos h.2

theorem Holds.not_torn {q : RecordQueue} {records : List Bytes} (h : q.Holds records) :
    ¬ q.Torn := by
  rintro ⟨hfield, htorn⟩
  cases records with
  | nil =>
    rw [h.available] at hfield
    exact absurd hfield (by decide)
  | cons record rest =>
    rw [h.front.2.1] at htorn
    exact absurd h.length_le_available (Nat.not_le_of_lt htorn)

theorem Holds.toList_eq {q : RecordQueue} {records : List Bytes} (h : q.Holds records) :
    q.toList = records := by
  induction records generalizing q with
  | nil =>
    rw [toList]
    split
    · rename_i heq
      rw [h.dequeue_nil] at heq
      cases heq
    · rfl
    · rfl
  | cons record rest ih =>
    obtain ⟨q', hrest, hq⟩ := h.dequeue_cons UInt16.size
    have hshort := h.short record List.mem_cons_self
    rw [if_neg (by omega)] at hq
    rw [toList]
    split
    · rename_i heq
      rw [hq] at heq
      cases heq
      rw [ih hrest]
    · rename_i heq
      rw [hq] at heq
      cases heq
    · rename_i heq
      rw [hq] at heq
      cases heq

end Acquisition.RecordQueue
