import Mathlib
import Acquisition.Ring

/-!
# What a ring holds

The machine is a memory with two positions; the value behind it is the byte string `toList`. Each
operation is described by what it does to that value, so that nothing outside this module has to
go round the end of the memory again.
-/

namespace Acquisition.Ring

/-! ## Positions -/

theorem tail_eq (r : Ring) : r.tail = (r.head + r.available) % r.size := by
  have hh : r.head < r.size := r.head_lt
  have ht : r.tail < r.size := r.tail_lt
  rw [available_eq]
  split
  · rw [show r.head + (r.tail - r.head) = r.tail by omega, Nat.mod_eq_of_lt ht]
  · rw [show r.head + (r.tail + r.size - r.head) = r.tail + r.size by omega, Nat.add_mod_right,
      Nat.mod_eq_of_lt ht]

theorem available_add_free (r : Ring) : r.available + r.free = r.capacity := by
  have h := r.available_lt
  rw [free, capacity]
  omega

-- Going on from a position by less than a whole turn leads somewhere else.
private theorem mod_ne_start {start k size : Nat} (hstart : start < size) (hpos : 0 < k)
    (hk : k < size) : (start + k) % size ≠ start := by
  by_cases h : start + k < size
  · rw [Nat.mod_eq_of_lt h]
    omega
  · rw [Nat.mod_eq_sub_mod (by omega), Nat.mod_eq_of_lt (by omega)]
    omega

/-! ## Writing -/

-- The cell `k` places after `start` holds byte `k` of what was stored there, and what it held
-- before if there is no such byte.
theorem getD_store (memory : Array UInt8) (start : Nat) (bytes : Bytes) (k : Nat)
    (hstart : start < memory.size) (hbytes : bytes.length ≤ memory.size) (hk : k < memory.size) :
    (store memory start bytes).getD ((start + k) % memory.size) 0 =
      bytes.getD k (memory.getD ((start + k) % memory.size) 0) := by
  induction bytes generalizing memory start k with
  | nil => rfl
  | cons b rest ih =>
    have hsize : (memory.setIfInBounds start b).size = memory.size := Array.size_setIfInBounds
    have hlen : rest.length + 1 ≤ memory.size := by simpa using hbytes
    have hnext : (start + 1) % memory.size < memory.size := Nat.mod_lt _ (by omega)
    have step := fun k (hk : k < memory.size) =>
      ih (memory.setIfInBounds start b) ((start + 1) % memory.size) k
        (by rw [hsize]; exact hnext) (by rw [hsize]; omega) (by rw [hsize]; exact hk)
    simp only [hsize, Nat.mod_add_mod] at step
    rw [store]
    cases k with
    | zero =>
      -- The rest goes less than once round, so the first cell is not written again.
      have hround : (start + 1 + (memory.size - 1)) % memory.size = start := by
        rw [show start + 1 + (memory.size - 1) = start + memory.size by omega, Nat.add_mod_right,
          Nat.mod_eq_of_lt hstart]
      have h := step (memory.size - 1) (by omega)
      rw [hround, List.getD_eq_default _ _ (by omega)] at h
      rw [show start + 0 = start from rfl, Nat.mod_eq_of_lt hstart, h, List.getD_cons_zero]
      simp [Array.getD, hstart]
    | succ k =>
      have hne := mod_ne_start hstart (Nat.succ_pos k) hk
      have hcell : (memory.setIfInBounds start b).getD ((start + (k + 1)) % memory.size) 0 =
          memory.getD ((start + (k + 1)) % memory.size) 0 := by
        have hpos : (start + (k + 1)) % memory.size < memory.size := Nat.mod_lt _ (by omega)
        simp [Array.getD, hpos, hne.symm]
      have h := step k (by omega)
      rw [show start + 1 + k = start + (k + 1) by omega] at h
      rw [h, List.getD_cons_succ, hcell]

/-! ## The contents -/

@[simp] theorem length_toList (r : Ring) : r.toList.length = r.available := by
  rw [toList, length_read]

@[simp] theorem getElem_toList (r : Ring) (i : Nat) (h : i < r.toList.length) :
    r.toList[i] = r.peek i := by
  simp [toList, read]

theorem toList_eq_nil_iff (r : Ring) : r.toList = [] ↔ r.available = 0 := by
  rw [← List.length_eq_zero_iff, length_toList]

theorem isEmpty_iff (r : Ring) : r.isEmpty = true ↔ r.available = 0 := by
  have hh : r.head < r.size := r.head_lt
  have ht : r.tail < r.size := r.tail_lt
  rw [isEmpty, beq_iff_eq, available_eq]
  split <;> omega

theorem toList_reset (r : Ring) : r.reset.toList = [] := by
  rw [toList_eq_nil_iff, available_eq]
  rfl

theorem size_ofSize (size : Nat) : (ofSize size).size = max size 2 :=
  Array.size_replicate

theorem available_ofSize (size : Nat) : (ofSize size).available = 0 := by
  rw [available_eq]
  rfl

theorem toList_ofSize (size : Nat) : (ofSize size).toList = [] :=
  (toList_eq_nil_iff _).mpr (available_ofSize size)

theorem read_eq (r : Ring) {offset count : Nat} (h : offset + count ≤ r.available) :
    r.read offset count = (r.toList.drop offset).take count := by
  apply List.ext_getElem
  · simp only [length_read, List.length_take, List.length_drop, length_toList]
    omega
  · intro i _ _
    simp [read]

/-! ## Appending -/

@[simp] theorem size_push (r : Ring) (data : Bytes) : (r.push data).2.size = r.size :=
  size_store ..

theorem available_push (r : Ring) (data : Bytes) :
    (r.push data).2.available = r.available + min data.length r.free := by
  have hh : r.head < r.size := r.head_lt
  have ht : r.tail < r.size := r.tail_lt
  have ha := r.available_eq
  have hcap : r.available + r.free = r.size - 1 := r.available_add_free
  generalize hn : min data.length r.free = n
  have hle : n ≤ r.free := hn ▸ Nat.min_le_right ..
  have hmod : (r.tail + n) % r.size =
      if r.tail + n < r.size then r.tail + n else r.tail + n - r.size := by
    split
    · exact Nat.mod_eq_of_lt ‹_›
    · rw [Nat.mod_eq_sub_mod (by omega), Nat.mod_eq_of_lt (by omega)]
  have hpush := (r.push data).2.available_eq
  rw [size_push, show (r.push data).2.head = r.head from rfl,
    show (r.push data).2.tail = (r.tail + n) % r.size by rw [← hn]; rfl, hmod] at hpush
  rw [hpush]
  split at ha <;> repeat' split
  all_goals omega

theorem peek_push_of_lt (r : Ring) (data : Bytes) {i : Nat} (h : i < r.available) :
    (r.push data).2.peek i = r.peek i := by
  have hcap : r.available + r.free = r.size - 1 := r.available_add_free
  have hlt := r.available_lt
  -- Seen from the write position, the cell lies behind all that is written.
  have hpos : (r.tail + (r.size - r.available + i)) % r.size = (r.head + i) % r.size := by
    rw [tail_eq, Nat.mod_add_mod,
      show r.head + r.available + (r.size - r.available + i) = r.head + i + r.size by omega,
      Nat.add_mod_right]
  have hcell := getD_store r.memory r.tail (data.take (min data.length r.free))
    (r.size - r.available + i) r.tail_lt
    (by rw [List.length_take]; change _ ≤ r.size; omega)
    (by change _ < r.size; omega)
  rw [show r.memory.size = r.size from rfl, hpos,
    List.getD_eq_default _ _ (by rw [List.length_take]; omega)] at hcell
  rw [peek, size_push]
  exact hcell

theorem peek_push_add (r : Ring) {data : Bytes} {k : Nat} (hk : k < data.length)
    (hfree : k < r.free) : (r.push data).2.peek (r.available + k) = data[k] := by
  have hcap : r.available + r.free = r.size - 1 := r.available_add_free
  have hcell := getD_store r.memory r.tail (data.take (min data.length r.free)) k r.tail_lt
    (by rw [List.length_take]; change _ ≤ r.size; omega)
    (by change _ < r.size; omega)
  have hpos : (r.tail + k) % r.size = (r.head + (r.available + k)) % r.size := by
    rw [tail_eq, Nat.mod_add_mod, Nat.add_assoc]
  rw [show r.memory.size = r.size from rfl, hpos,
    List.getD_eq_getElem _ _ (by rw [List.length_take]; omega), List.getElem_take] at hcell
  rw [peek, size_push]
  exact hcell

theorem toList_push (r : Ring) (data : Bytes) :
    (r.push data).2.toList = r.toList ++ data.take (min data.length r.free) := by
  apply List.ext_getElem
  · simp only [length_toList, available_push, List.length_append, List.length_take]
    omega
  · intro i hi _
    rw [length_toList, available_push] at hi
    rw [getElem_toList]
    by_cases h : i < r.available
    · rw [peek_push_of_lt r data h, List.getElem_append_left (by rw [length_toList]; exact h),
        getElem_toList]
    · obtain ⟨k, rfl⟩ := Nat.exists_eq_add_of_le (Nat.le_of_not_lt h)
      rw [peek_push_add r (by omega) (by omega),
        List.getElem_append_right (by rw [length_toList]; omega), List.getElem_take]
      simp only [length_toList, Nat.add_sub_cancel_left]

-- What fits is appended as a whole.
theorem toList_push_of_le (r : Ring) {data : Bytes} (h : data.length ≤ r.free) :
    (r.push data).2.toList = r.toList ++ data := by
  rw [toList_push, Nat.min_eq_left h, List.take_length]

theorem push_nil (r : Ring) : (r.push []).2 = r := by
  have htail : (r.tail + min 0 r.free) % r.memory.size = r.tail := by
    rw [Nat.zero_min, Nat.add_zero, Nat.mod_eq_of_lt r.tail_lt]
  simp only [push, List.take_nil, store, List.length_nil, htail]

theorem free_push (r : Ring) (data : Bytes) :
    (r.push data).2.free = r.free - min data.length r.free := by
  have h := r.available_add_free
  have h' := (r.push data).2.available_add_free
  rw [available_push, capacity, size_push, ← capacity] at h'
  omega

/-! ## Consuming -/

@[simp] theorem size_advance (r : Ring) (n : Nat) : (r.advance n).size = r.size := rfl

theorem advance_zero (r : Ring) : r.advance 0 = r := by
  have hhead : (r.head + min 0 r.available) % r.memory.size = r.head := by
    rw [Nat.zero_min, Nat.add_zero, Nat.mod_eq_of_lt r.head_lt]
  simp only [advance, hhead]

theorem peek_advance (r : Ring) (n i : Nat) :
    (r.advance n).peek i = r.peek (min n r.available + i) := by
  rw [peek, peek, size_advance]
  change r.memory.getD (((r.head + min n r.available) % r.size + i) % r.size) 0 = _
  rw [Nat.mod_add_mod, Nat.add_assoc]

theorem toList_advance (r : Ring) (n : Nat) : (r.advance n).toList = r.toList.drop n := by
  apply List.ext_getElem
  · rw [length_toList, available_advance, List.length_drop, length_toList]
  · intro i hi _
    rw [length_toList, available_advance] at hi
    rw [getElem_toList, peek_advance, List.getElem_drop, getElem_toList, Nat.min_eq_left (by omega)]

end Acquisition.Ring
