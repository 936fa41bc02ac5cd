import Acquisition.Bytes

/-!
# A ring of bytes

A fixed memory with a read position `head` and a write position `tail`. One cell always stays
empty, which tells a full ring from an empty one. Consumed bytes stay in the memory until they are
overwritten, so that `rewind` can bring them back.
-/

namespace Acquisition

structure Ring where
  memory : Array UInt8
  head : Nat
  tail : Nat
  two_le_size : 2 ≤ memory.size
  head_lt : head < memory.size
  tail_lt : tail < memory.size

namespace Ring

/-- An empty ring of `size` cells, of 2 if `size` is less. -/
def ofSize (size : Nat) : Ring where
  memory := Array.replicate (max size 2) 0
  head := 0
  tail := 0
  two_le_size := by rw [Array.size_replicate]; omega
  head_lt := by rw [Array.size_replicate]; omega
  tail_lt := by rw [Array.size_replicate]; omega

def size (r : Ring) : Nat := r.memory.size

/-- The most bytes that the ring can hold. -/
def capacity (r : Ring) : Nat := r.size - 1

/-- How many bytes are written and not yet consumed. -/
def available (r : Ring) : Nat := (r.tail + r.size - r.head) % r.size

def free (r : Ring) : Nat := r.capacity - r.available

def isEmpty (r : Ring) : Bool := r.head == r.tail

/-- Puts `bytes` into consecutive cells from `start` on, going round at the end. -/
def store (memory : Array UInt8) (start : Nat) : Bytes → Array UInt8
  | [] => memory
  | b :: rest =>
    let next := (start + 1) % memory.size
    store (memory.setIfInBounds start b) next rest

@[simp] theorem size_store (memory : Array UInt8) (start : Nat) (bytes : Bytes) :
    (store memory start bytes).size = memory.size := by
  induction bytes generalizing memory start with
  | nil => rfl
  | cons b rest ih => rw [store, ih, Array.size_setIfInBounds]

/-- Appends as much of `data` as fits. The number says how much that is. -/
def push (r : Ring) (data : Bytes) : Nat × Ring :=
  let n := min data.length r.free
  (n, {
    memory := store r.memory r.tail (data.take n)
    head := r.head
    tail := (r.tail + n) % r.memory.size
    two_le_size := by rw [size_store]; exact r.two_le_size
    head_lt := by rw [size_store]; exact r.head_lt
    tail_lt := by
      rw [size_store]
      exact Nat.mod_lt _ (Nat.lt_of_lt_of_le (by decide) r.two_le_size) })

/-- The byte `offset` cells after the read position. Callers keep `offset` below `available`. -/
def peek (r : Ring) (offset : Nat) : UInt8 :=
  r.memory.getD ((r.head + offset) % r.size) 0

/-- The `count` bytes that start `offset` cells after the read position. -/
def read (r : Ring) (offset count : Nat) : Bytes :=
  (List.range' offset count).map r.peek

/-- Everything written and not yet consumed, oldest first. -/
def toList (r : Ring) : Bytes := r.read 0 r.available

/-- What a build of the program makes of a sum that does not fit a machine word. -/
inductive Overflow
  | stops
  | wraps
deriving DecidableEq

/-- As `copyOut`, for a range whose end has gone round, as the position of its start may have too.
The cells are copied in two parts, up to the end of the memory and from its beginning, and the
program stops if the second part is longer than the memory. -/
def copyWrapped (r : Ring) (offset : Nat) (out : Bytes) : Option (Bool × Bytes) :=
  if r.available < offset + out.length - UInt64.size then some (false, out)
  else
    let start := (r.head + offset) % UInt64.size % r.size
    if r.size < start + out.length - r.size then none
    else
      some (true, (List.range' start out.length).map fun cell => r.memory.getD (cell % r.size) 0)

/-- Fills `out` from `offset` on without consuming. Refuses, and leaves `out` alone, if the ring
does not hold that many bytes. There is no answer if the program stops. -/
def copyOut (r : Ring) (overflow : Overflow) (offset : Nat) (out : Bytes) :
    Option (Bool × Bytes) :=
  let stop := offset + out.length
  if stop < UInt64.size then
    if r.available < stop then some (false, out) else some (true, r.read offset out.length)
  else
    match overflow with
    | .stops => none
    | .wraps => r.copyWrapped offset out

theorem size_pos (r : Ring) : 0 < r.memory.size :=
  Nat.lt_of_lt_of_le (by decide) r.two_le_size

/-- Consumes `n` bytes, or all if there are fewer. -/
def advance (r : Ring) (n : Nat) : Ring :=
  { r with
    head := (r.head + min n r.available) % r.memory.size
    head_lt := Nat.mod_lt _ r.size_pos }

/-- Takes back the consumption of `n` bytes, or of as many as there are free cells. -/
def rewind (r : Ring) (n : Nat) : Ring :=
  { r with
    head := (r.head + r.size - min n r.free % r.size) % r.memory.size
    head_lt := Nat.mod_lt _ r.size_pos }

/-- Drops the contents. The memory keeps its old bytes. -/
def reset (r : Ring) : Ring :=
  { r with head := 0, tail := 0, head_lt := r.size_pos, tail_lt := r.size_pos }

theorem available_eq (r : Ring) :
    r.available = if r.head ≤ r.tail then r.tail - r.head else r.tail + r.size - r.head := by
  have hh : r.head < r.size := r.head_lt
  have ht : r.tail < r.size := r.tail_lt
  rw [available]
  split
  · rw [show r.tail + r.size - r.head = r.tail - r.head + r.size by omega, Nat.add_mod_right,
      Nat.mod_eq_of_lt (by omega)]
  · exact Nat.mod_eq_of_lt (by omega)

theorem available_lt (r : Ring) : r.available < r.size :=
  Nat.mod_lt _ r.size_pos

theorem available_advance (r : Ring) (n : Nat) :
    (r.advance n).available = r.available - n := by
  have hh : r.head < r.size := r.head_lt
  have ht : r.tail < r.size := r.tail_lt
  have ha := r.available_eq
  have hmod : (r.head + min n r.available) % r.size =
      if r.head + min n r.available < r.size then r.head + min n r.available
      else r.head + min n r.available - r.size := by
    split
    · exact Nat.mod_eq_of_lt ‹_›
    · rw [Nat.mod_eq_sub_mod (by omega), Nat.mod_eq_of_lt (by split at ha <;> omega)]
  have hadv := (r.advance n).available_eq
  simp only [show (r.advance n).head = (r.head + min n r.available) % r.size from rfl,
    show (r.advance n).tail = r.tail from rfl, show (r.advance n).size = r.size from rfl,
    hmod] at hadv
  rw [hadv]
  split at ha <;> repeat' split
  all_goals omega

@[simp] theorem length_read (r : Ring) (offset count : Nat) :
    (r.read offset count).length = count := by
  simp [read]

end Ring

end Acquisition
