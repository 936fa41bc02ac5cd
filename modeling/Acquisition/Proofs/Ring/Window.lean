import Mathlib
import Acquisition.Proofs.Ring.Contents

/-!
# A ring as a window of a stream

The bytes that a ring accepts make up a stream, of which the ring shows a window. The memory has
more of the stream than that: it holds the bytes that were accepted last, as many as there are
cells. So a window that is moved back shows what was consumed before, also when more was pushed in
the meantime (`run_window`).
-/

namespace Acquisition.Ring

/-- What moves a ring; looking into it leaves it as it is. -/
inductive Op
  | push (data : Bytes)
  | advance (n : Nat)
  | rewind (n : Nat)

def step (r : Ring) : Op → Ring
  | .push data => (r.push data).2
  | .advance n => r.advance n
  | .rewind n => r.rewind n

def run (r : Ring) (ops : List Op) : Ring := ops.foldl step r

/-- A ring of `size` cells that was just made or reset. -/
inductive Fresh : (size : Nat) → Ring → Prop
  | new (requested : Nat) : Fresh (max requested 2) (ofSize requested)
  | reset (r : Ring) : Fresh r.size r.reset

structure Window where
  /-- What the memory held before anything was pushed. -/
  past : Bytes
  /-- All accepted bytes, oldest first. -/
  stream : Bytes
  /-- The position in the stream of the next byte to be read. It is negative for a window that was
  moved back to before the stream. -/
  start : Int

namespace Window

def ofMemory (memory : Array UInt8) : Window := ⟨memory.toList, [], 0⟩

def length (w : Window) : Nat := (w.stream.length - w.start).toNat

def free (w : Window) : Nat := w.past.length - 1 - w.length

def step (w : Window) : Op → Window
  | .push data => { w with stream := w.stream ++ data.take (min data.length w.free) }
  | .advance n => { w with start := w.start + (min n w.length : Nat) }
  | .rewind n => { w with start := w.start - (min n w.free : Nat) }

def run (w : Window) (ops : List Op) : Window := ops.foldl step w

/-- The byte at a position of the stream. Before the stream there is what the memory held. -/
def byteAt (w : Window) (p : Int) : UInt8 :=
  if 0 ≤ p then w.stream.getD p.toNat 0 else w.past.getD (w.past.length + p).toNat 0

/-- The `count` bytes from a position on. -/
def slice (w : Window) (p : Int) (count : Nat) : Bytes :=
  (List.range count).map fun i : Nat => w.byteAt (p + i)

theorem byteAt_eq (w : Window) {p : Int} (h : 0 ≤ w.past.length + p) :
    w.byteAt p = (w.past ++ w.stream).getD (w.past.length + p).toNat 0 := by
  unfold byteAt
  split
  · rw [List.getD_append_right _ _ _ _ (by omega)]
    congr 1
    omega
  · rw [List.getD_append _ _ _ _ (by omega)]

theorem slice_eq (w : Window) {p : Int} {count : Nat} (hp : 0 ≤ p)
    (h : p + count ≤ w.stream.length) :
    w.slice p count = (w.stream.drop p.toNat).take count := by
  apply List.ext_getElem
  · simp only [slice, List.length_map, List.length_range, List.length_take, List.length_drop]
    omega
  · intro i hi _
    simp only [slice, List.length_map, List.length_range] at hi
    simp only [slice, byteAt, List.getElem_map, List.getElem_range, List.getElem_take,
      List.getElem_drop, if_pos (show 0 ≤ p + i by omega)]
    rw [List.getD_eq_getElem _ _ (by omega)]
    congr 1
    omega

end Window

/-- The ring stands for the window. The cells are counted along the stream, going round. -/
structure Shows (r : Ring) (w : Window) : Prop where
  size : w.past.length = r.size
  start_le : w.start ≤ w.stream.length
  lt_start : w.stream.length < w.start + r.size
  head : (r.head : Int) = w.start % r.size
  tail : r.tail = w.stream.length % r.size
  /-- The memory ends where the stream ends. -/
  memory : ∀ q < r.size, r.memory.getD ((w.stream.length + q) % r.size) 0 =
    (w.past ++ w.stream).getD (w.stream.length + q) 0

variable {size : Nat} {r : Ring} {w : Window}

theorem shows_of_head_tail (hhead : r.head = 0) (htail : r.tail = 0) :
    r.Shows (.ofMemory r.memory) where
  size := Array.length_toList
  start_le := Int.le_refl _
  lt_start := by
    have hpos : 0 < r.size := r.size_pos
    simp only [Window.ofMemory, List.length_nil]
    omega
  head := by rw [hhead]; rfl
  tail := by rw [htail]; rfl
  memory q hq := by
    simp only [Window.ofMemory, List.length_nil, List.append_nil, Nat.zero_add]
    rw [Nat.mod_eq_of_lt hq, Array.getD_eq_getD_getElem?, List.getD_eq_getElem?_getD,
      Array.getElem?_toList]

theorem Fresh.shows (h : Fresh size r) : r.size = size ∧ r.Shows (.ofMemory r.memory) := by
  cases h with
  | new requested => exact ⟨Array.size_replicate, shows_of_head_tail rfl rfl⟩
  | reset r => exact ⟨rfl, shows_of_head_tail rfl rfl⟩

/-! ## Looking into a ring -/

theorem Shows.available (h : r.Shows w) : (r.available : Int) = w.stream.length - w.start := by
  have hhead : r.head < r.size := r.head_lt
  have hstart := h.start_le
  have hlt := h.lt_start
  have hmod : (r.tail + r.size - r.head : Int) % r.size =
      (w.stream.length - w.start) % r.size := by
    rw [h.head, h.tail, Int.natCast_mod, add_sub_right_comm, Int.add_emod_right]
    exact (Int.mod_modEq ..).sub (Int.mod_modEq ..)
  rw [Ring.available, Int.natCast_mod, Nat.cast_sub (by omega), Nat.cast_add, hmod,
    Int.emod_eq_of_lt (by omega) (by omega)]

theorem Shows.length (h : r.Shows w) : w.length = r.available := by
  rw [Window.length, ← h.available, Int.toNat_natCast]

theorem Shows.free (h : r.Shows w) : w.free = r.free := by
  rw [Window.free, h.size, h.length]
  rfl

theorem Shows.peek (h : r.Shows w) {i : Nat} (hi : i < r.available) :
    r.peek i = w.byteAt (w.start + i) := by
  have havailable := h.available
  have hlt := h.lt_start
  have hsize := h.size
  -- Counted from the end of the stream, so many cells on.
  obtain ⟨q, hq⟩ := Int.eq_ofNat_of_zero_le
    (show 0 ≤ w.start + i + r.size - w.stream.length by omega)
  have hcell : (r.head + i) % r.size = (w.stream.length + q) % r.size := by
    have hmod : ((r.head + i : Nat) : Int) % r.size = (w.stream.length + q : Nat) % r.size := by
      rw [Nat.cast_add, h.head, Int.emod_add_emod, Nat.cast_add, ← hq,
        show w.stream.length + (w.start + i + r.size - w.stream.length) = w.start + i + r.size by
          omega, Int.add_emod_right]
    exact_mod_cast hmod
  have hmemory := h.memory q (by omega)
  rw [Ring.peek, hcell, hmemory, w.byteAt_eq (by omega)]
  congr 1
  omega

theorem Shows.read (h : r.Shows w) {offset count : Nat} (hall : offset + count ≤ r.available) :
    r.read offset count = w.slice (w.start + offset) count := by
  apply List.ext_getElem
  · rw [length_read, Window.slice, List.length_map, List.length_range]
  · intro i hi _
    rw [length_read] at hi
    simp only [Ring.read, Window.slice, List.getElem_map, List.getElem_range, List.getElem_range']
    rw [h.peek (by omega)]
    congr 1
    push_cast
    omega

theorem Shows.toList (h : r.Shows w) (hstart : 0 ≤ w.start) :
    r.toList = w.stream.drop w.start.toNat := by
  have havailable := h.available
  rw [Ring.toList, h.read (by omega), Nat.cast_zero, add_zero,
    w.slice_eq hstart (by omega), List.take_of_length_le (by rw [List.length_drop]; omega)]

section

variable {offset : Nat} {out : Bytes}

theorem Shows.copyOut (h : r.Shows w) (hword : offset + out.length < UInt64.size)
    (overflow : Overflow) :
    r.copyOut overflow offset out = some
      (if offset + out.length ≤ w.length then (true, w.slice (w.start + offset) out.length)
      else (false, out)) := by
  have hcopy : r.copyOut overflow offset out = if r.available < offset + out.length then
      some (false, out) else some (true, r.read offset out.length) := if_pos hword
  rw [hcopy, h.length]
  by_cases hall : offset + out.length ≤ r.available
  · rw [if_neg (by omega), if_pos hall, h.read hall]
  · rw [if_pos (by omega), if_neg hall]

theorem copyOut_stops (hoverflow : UInt64.size ≤ offset + out.length) :
    r.copyOut .stops offset out = none :=
  if_neg (Nat.not_lt_of_le hoverflow)

theorem copyOut_wraps_eq_refused_iff (hoverflow : UInt64.size ≤ offset + out.length) :
    r.copyOut .wraps offset out = some (false, out) ↔
      r.available < offset + out.length - UInt64.size := by
  have hcopy : r.copyOut .wraps offset out = r.copyWrapped offset out :=
    if_neg (Nat.not_lt_of_le hoverflow)
  rw [hcopy, copyWrapped]
  split
  case isTrue hmore => exact iff_of_true rfl hmore
  case isFalse hpassed => exact iff_of_false (by dsimp only; split <;> simp) hpassed

end

/-! ## Moving a ring -/

theorem Shows.push (h : r.Shows w) (data : Bytes) :
    (r.push data).2.Shows (w.step (.push data)) := by
  have havailable := h.available
  have hsum : r.available + r.free = r.size - 1 := r.available_add_free
  have hlt := r.available_lt
  have hsize := h.size
  have hsize' := r.size_push data
  generalize hbytes : data.take (min data.length r.free) = bytes
  have hlen : bytes.length = min data.length r.free := by
    rw [← hbytes, List.length_take]
    omega
  have hstep : w.step (.push data) = { w with stream := w.stream ++ bytes } := by
    rw [Window.step, h.free, hbytes]
  have hmemory : (r.push data).2.memory = store r.memory r.tail bytes := by rw [← hbytes]; rfl
  have hstart := h.start_le
  rw [hstep]
  refine ⟨by rw [hsize', hsize], ?_, ?_, by rw [hsize']; exact h.head, ?_, ?_⟩
  · simp only [List.length_append]
    omega
  · simp only [List.length_append, hsize']
    omega
  · change (r.tail + min data.length r.free) % r.size = _
    rw [List.length_append, hsize', h.tail, Nat.mod_add_mod, hlen]
  · intro q hq
    rw [hsize'] at hq ⊢
    simp only [hmemory, List.length_append]
    have hcell (k : Nat) (hk : k < r.size) := getD_store r.memory r.tail bytes k r.tail_lt
      (by change _ ≤ r.size; omega) hk
    simp only [show r.memory.size = r.size from rfl, h.tail, Nat.mod_add_mod] at hcell
    rw [← List.append_assoc, Nat.add_assoc]
    -- The cells that come after the new bytes are those of older ones.
    by_cases hold : bytes.length + q < r.size
    · rw [h.tail, hcell _ hold, List.getD_eq_default _ _ (by omega), h.memory _ hold,
        List.getD_append (w.past ++ w.stream) _ _ _ (by rw [List.length_append]; omega)]
    · obtain ⟨k, hk⟩ := Nat.exists_eq_add_of_le (Nat.le_of_not_lt hold)
      have hround : (w.stream.length + (bytes.length + q)) % r.size =
          (w.stream.length + k) % r.size := by
        rw [hk, show w.stream.length + (r.size + k) = w.stream.length + k + r.size by omega,
          Nat.add_mod_right]
      rw [h.tail, hround, hcell k (by omega),
        List.getD_append_right (w.past ++ w.stream) _ _ _ (by rw [List.length_append]; omega),
        List.length_append, show w.stream.length + (bytes.length + q) -
          (w.past.length + w.stream.length) = k by omega,
        List.getD_eq_getElem _ _ (by omega), List.getD_eq_getElem _ _ (by omega)]

-- Only the read position moves.
theorem Shows.move (h : r.Shows w) {head : Nat} {start : Int} (hlt : head < r.memory.size)
    (hhead : (head : Int) = start % r.size) (hstart : start ≤ w.stream.length)
    (hroom : w.stream.length < start + r.size) :
    Shows { r with head, head_lt := hlt } { w with start } :=
  ⟨h.size, hstart, hroom, hhead, h.tail, h.memory⟩

theorem Shows.advance (h : r.Shows w) (n : Nat) : (r.advance n).Shows (w.step (.advance n)) := by
  have havailable := h.available
  have hlt := h.lt_start
  rw [Window.step, h.length]
  refine h.move _ ?_ (by omega) (by omega)
  change ((r.head + min n r.available) % r.size : Nat) = (_ : Int)
  rw [Int.natCast_mod, Nat.cast_add, h.head, Int.emod_add_emod]

theorem Shows.rewind (h : r.Shows w) (n : Nat) : (r.rewind n).Shows (w.step (.rewind n)) := by
  have havailable := h.available
  have hsum : r.available + r.free = r.size - 1 := r.available_add_free
  have hlt := h.lt_start
  have hstart := h.start_le
  have hpos : 0 < r.size := r.size_pos
  have hless : min n r.free < r.size := by omega
  rw [Window.step, h.free]
  refine h.move _ ?_ (by omega) (by omega)
  change ((r.head + r.size - min n r.free % r.size) % r.size : Nat) = (_ : Int)
  rw [Nat.mod_eq_of_lt hless, Int.natCast_mod, Nat.cast_sub (by omega), Nat.cast_add, h.head,
    add_sub_right_comm, Int.add_emod_right, Int.emod_sub_emod]

theorem Shows.step (h : r.Shows w) (op : Op) : (r.step op).Shows (w.step op) := by
  cases op with
  | push data => exact h.push data
  | advance n => exact h.advance n
  | rewind n => exact h.rewind n

theorem Shows.run (h : r.Shows w) (ops : List Op) : (r.run ops).Shows (w.run ops) := by
  induction ops generalizing r w with
  | nil => exact h
  | cons op rest ih => exact ih (h.step op)

theorem size_run (r : Ring) (ops : List Op) : (r.run ops).size = r.size := by
  induction ops generalizing r with
  | nil => rfl
  | cons op rest ih =>
    refine (ih (r.step op)).trans ?_
    cases op with
    | push data => exact size_push r data
    | advance | rewind => rfl

/-- A ring that was made or reset, and then moved in any way, shows the window of its stream that
ends where the stream ends: it tells how long the window is and what room is left, reads the bytes
of the window, and, moved back by as much as has room, begins again with what was consumed last. A
range that is not in the window is refused as long as its end fits a machine word. Otherwise the
program stops, or the range is refused only if what its end has gone round to is not in the window
either. -/
theorem run_window {r₀ : Ring} (h : Fresh size r₀) (ops : List Op) :
    let r := r₀.run ops
    let w := (Window.ofMemory r₀.memory).run ops
    let stop : Int := w.stream.length
    r.size = size ∧ w.start ≤ stop ∧ stop - w.start ≤ size - 1 ∧
    r.available = stop - w.start ∧ r.free = size - 1 - (stop - w.start) ∧
    (r.isEmpty = true ↔ stop = w.start) ∧
    (∀ data, (r.push data).1 = min data.length w.free) ∧
    (∀ i : Nat, i < stop - w.start → r.peek i = w.byteAt (w.start + i)) ∧
    (∀ (offset : Nat) (out : Bytes),
      (offset + out.length < UInt64.size → ∀ overflow, r.copyOut overflow offset out = some
        (if offset + out.length ≤ stop - w.start then
          (true, w.slice (w.start + offset) out.length)
        else (false, out))) ∧
      (UInt64.size ≤ offset + out.length →
        r.copyOut .stops offset out = none ∧
        (r.copyOut .wraps offset out = some (false, out) ↔
          stop - w.start < (offset + out.length - UInt64.size : Nat)))) ∧
    (∀ n, 0 ≤ w.start - (min n w.free : Nat) →
      (r.rewind n).toList = w.stream.drop (w.start - (min n w.free : Nat)).toNat) ∧
    (∀ (p : Int) (count : Nat), 0 ≤ p → p + count ≤ stop →
      w.slice p count = (w.stream.drop p.toNat).take count) := by
  intro r w stop
  obtain ⟨hfresh, hstart⟩ := h.shows
  have hshows : r.Shows w := hstart.run ops
  have hsize : r.size = size := (size_run r₀ ops).trans hfresh
  have havailable : (r.available : Int) = stop - w.start := hshows.available
  have hle : w.start ≤ stop := hshows.start_le
  have hlt := r.available_lt
  refine ⟨hsize, hle, by omega, havailable, ?_, ?_, fun data => ?_, fun i hi => ?_,
    fun offset out => ⟨fun hword overflow => ?_, fun hoverflow => ⟨copyOut_stops hoverflow, ?_⟩⟩,
    fun n hn => ?_, fun p count => w.slice_eq⟩
  · have hsum : r.available + r.free = r.size - 1 := r.available_add_free
    omega
  · rw [isEmpty_iff]
    omega
  · rw [hshows.free]
    rfl
  · exact hshows.peek (by omega)
  · have hall : offset + out.length ≤ w.length ↔ offset + out.length ≤ stop - w.start := by
      rw [hshows.length]
      omega
    rw [hshows.copyOut hword, if_congr hall rfl rfl]
  · rw [copyOut_wraps_eq_refused_iff hoverflow, ← havailable, Nat.cast_lt]
  · exact (hshows.rewind n).toList hn

-- Two pushes with the end of the memory between them, and back over more than the second.
theorem run_window_rewind :
    let ops := [.push [1, 2, 3], .advance 3, .push [4, 5], .advance 1]
    Fresh 4 (ofSize 4) ∧ (((ofSize 4).run ops).rewind 2).toList = [3, 4, 5] :=
  ⟨.new 4, (run_window (.new 4) [.push [1, 2, 3], .advance 3, .push [4, 5], .advance 1])
    |>.2.2.2.2.2.2.2.2.2.1 2 (by decide)⟩

-- Three bytes are held, and twenty are asked for, far behind them. The end of the range goes round
-- to one, which passes, but there are not so many cells. A single byte at the last position there is
-- passes too, and comes from a cell that holds none.
theorem not_refused_copyOut_overflow :
    let r := (ofSize 8).run [.push [1, 2, 3]]
    let offset := UInt64.size - 19
    let out : Bytes := List.replicate 20 0xEE
    r.available < offset + out.length ∧
      r.copyOut .stops offset out = none ∧ r.copyOut .wraps offset out = none ∧
      r.copyOut .wraps (UInt64.size - 1) [0xEE] = some (true, [0]) := by
  decide +kernel

end Acquisition.Ring
