import Mathlib
import Acquisition.Receiver
import Acquisition.Proofs.Ring.Contents

/-!
# The scan of a byte string

What a receiver does with its ring, said of the byte string that the ring stands for: `ofList`
looks for the next candidate, `Receiver.extract_eq` says that an extraction is this look, and `cut`
cuts out all candidates that there are.
-/

namespace Acquisition

namespace Scan

/-! ## One look -/

/-- The size that the length field of a candidate gives to it. -/
def frameSize (b : Bytes) : Nat := Frame.overhead + Frame.fieldAt b 2

/-- Whether a scan goes past the first byte of `b`. Bytes that follow cannot change that. -/
def Skips (limit : Nat) (b : Bytes) : Prop :=
  2 ≤ b.length ∧ (b.take 2 ≠ Frame.head ∨ 4 ≤ b.length ∧ limit < frameSize b)

/-- Whether a candidate at the front of `b` has arrived to its end. -/
def Whole (b : Bytes) : Prop := 4 ≤ b.length ∧ frameSize b ≤ b.length

instance (limit : Nat) (b : Bytes) : Decidable (Skips limit b) :=
  inferInstanceAs (Decidable (_ ∧ _))

instance (b : Bytes) : Decidable (Whole b) := inferInstanceAs (Decidable (_ ∧ _))

/-- The same find `n` bytes further on. -/
def shift (n : Nat) : Scan → Scan
  | candidate skipped size => candidate (n + skipped) size
  | waiting skipped => waiting (n + skipped)

/-- Looks for a candidate of at most `limit` bytes. -/
def ofList (limit : Nat) : Bytes → Scan
  | [] => .waiting 0
  | b :: rest =>
    if Skips limit (b :: rest) then (ofList limit rest).shift 1
    else if Whole (b :: rest) then .candidate 0 (frameSize (b :: rest))
    else .waiting 0

@[simp] theorem shift_zero (s : Scan) : s.shift 0 = s := by
  cases s <;> simp [shift]

theorem shift_shift (m n : Nat) (s : Scan) : (s.shift n).shift m = s.shift (m + n) := by
  cases s <;> simp [shift, Nat.add_assoc]

theorem overhead_le_frameSize (b : Bytes) : Frame.overhead ≤ frameSize b :=
  Nat.le_add_right ..

theorem frameSize_append {b : Bytes} (h : 4 ≤ b.length) (later : Bytes) :
    frameSize (b ++ later) = frameSize b := by
  rw [frameSize, frameSize, Frame.fieldAt, Frame.fieldAt, List.drop_append_of_le_length (by omega),
    List.take_append_of_le_length (by rw [List.length_drop]; omega)]

theorem Skips.append {limit : Nat} {b : Bytes} (h : Skips limit b) (later : Bytes) :
    Skips limit (b ++ later) := by
  obtain ⟨hlen, h⟩ := h
  refine ⟨by rw [List.length_append]; omega, ?_⟩
  rw [List.take_append_of_le_length hlen]
  rcases h with h | ⟨h4, h⟩
  · exact .inl h
  · rw [frameSize_append h4]
    exact .inr ⟨by rw [List.length_append]; omega, h⟩

theorem Whole.append {b : Bytes} (h : Whole b) (later : Bytes) : Whole (b ++ later) := by
  obtain ⟨h4, h⟩ := h
  rw [Whole, frameSize_append h4, List.length_append]
  omega

theorem Whole.not_skips_append {limit : Nat} {b : Bytes} (h : Whole b) (hstop : ¬ Skips limit b)
    (later : Bytes) : ¬ Skips limit (b ++ later) := by
  have h4 := h.1
  rintro ⟨-, hskip⟩
  rw [List.take_append_of_le_length (by omega), frameSize_append h4] at hskip
  exact hstop ⟨by omega, hskip.imp_right fun ⟨_, hlong⟩ => ⟨h4, hlong⟩⟩

theorem ofList_of_skips {limit : Nat} {b : Bytes} (h : Skips limit b) :
    ofList limit b = (ofList limit (b.drop 1)).shift 1 := by
  cases b with
  | nil => exact absurd h.1 (by simp)
  | cons b rest => rw [ofList, if_pos h, List.drop_one, List.tail_cons]

theorem ofList_of_not_skips {limit : Nat} {b : Bytes} (h : ¬ Skips limit b) :
    ofList limit b = if Whole b then .candidate 0 (frameSize b) else .waiting 0 := by
  cases b with
  | nil => rfl
  | cons b rest => rw [ofList, if_neg h]

/-! ## Where a scan stops -/

/-- A scan of `b` goes past the first `skipped` bytes and no further. -/
structure StopsAt (limit : Nat) (b : Bytes) (skipped : Nat) : Prop where
  skips : ∀ i < skipped, Skips limit (b.drop i)
  stops : ¬ Skips limit (b.drop skipped)

theorem exists_stopsAt (limit : Nat) (b : Bytes) : ∃ skipped, StopsAt limit b skipped := by
  induction b with
  | nil => exact ⟨0, by simp, fun h => absurd h.1 (by simp)⟩
  | cons b rest ih =>
    by_cases h : Skips limit (b :: rest)
    · obtain ⟨skipped, hskips, hstops⟩ := ih
      refine ⟨skipped + 1, fun i hi => ?_, hstops⟩
      cases i with
      | zero => exact h
      | succ i => exact hskips i (by omega)
    · exact ⟨0, by simp, h⟩

theorem le_length_of_skips {limit skipped : Nat} {b : Bytes}
    (h : ∀ i < skipped, Skips limit (b.drop i)) : skipped ≤ b.length := by
  cases skipped with
  | zero => exact Nat.zero_le _
  | succ n =>
    have hlast := (h n (by omega)).1
    rw [List.length_drop] at hlast
    omega

theorem ofList_eq_shift {limit skipped : Nat} {b : Bytes}
    (h : ∀ i < skipped, Skips limit (b.drop i)) :
    ofList limit b = (ofList limit (b.drop skipped)).shift skipped := by
  induction skipped with
  | zero => simp
  | succ n ih =>
    rw [ih fun i hi => h i (by omega), ofList_of_skips (h n (by omega)), shift_shift,
      List.drop_drop]

theorem StopsAt.ofList_eq {limit skipped : Nat} {b : Bytes} (h : StopsAt limit b skipped) :
    ofList limit b = if Whole (b.drop skipped) then .candidate skipped (frameSize (b.drop skipped))
      else .waiting skipped := by
  rw [ofList_eq_shift h.skips, ofList_of_not_skips h.stops]
  split <;> simp [shift]

theorem of_ofList_candidate {limit skipped size : Nat} {b : Bytes}
    (h : ofList limit b = .candidate skipped size) :
    StopsAt limit b skipped ∧ Whole (b.drop skipped) ∧ size = frameSize (b.drop skipped) := by
  obtain ⟨n, hn⟩ := exists_stopsAt limit b
  rw [hn.ofList_eq] at h
  split at h
  · cases h
    exact ⟨hn, ‹_›, rfl⟩
  · cases h

theorem of_ofList_waiting {limit skipped : Nat} {b : Bytes}
    (h : ofList limit b = .waiting skipped) :
    StopsAt limit b skipped ∧ ¬ Whole (b.drop skipped) := by
  obtain ⟨n, hn⟩ := exists_stopsAt limit b
  rw [hn.ofList_eq] at h
  split at h
  · cases h
  · cases h
    exact ⟨hn, ‹_›⟩

theorem ofList_candidate_bounds {limit skipped size : Nat} {b : Bytes}
    (h : ofList limit b = .candidate skipped size) :
    Frame.overhead ≤ size ∧ skipped + size ≤ b.length := by
  obtain ⟨-, hwhole, rfl⟩ := of_ofList_candidate h
  have h4 := hwhole.1
  have hsize := hwhole.2
  rw [List.length_drop] at h4 hsize
  exact ⟨overhead_le_frameSize _, by omega⟩

-- A candidate that is there stays there, whatever arrives after it.
theorem ofList_append {limit skipped size : Nat} {b : Bytes}
    (h : ofList limit b = .candidate skipped size) (later : Bytes) :
    ofList limit (b ++ later) = .candidate skipped size := by
  have hle := (ofList_candidate_bounds h).2
  obtain ⟨hstop, hwhole, rfl⟩ := of_ofList_candidate h
  have hdrop : ∀ i ≤ skipped, (b ++ later).drop i = b.drop i ++ later := fun i hi =>
    List.drop_append_of_le_length (by omega)
  have hstop' : StopsAt limit (b ++ later) skipped := by
    constructor
    · intro i hi
      rw [hdrop i (by omega)]
      exact (hstop.skips i hi).append later
    · rw [hdrop skipped (by omega)]
      exact hwhole.not_skips_append hstop.stops later
  rw [hstop'.ofList_eq, hdrop skipped (by omega), if_pos (hwhole.append later),
    frameSize_append hwhole.1]

/-! ## The look of a receiver -/

private theorem take_two_drop {b : Bytes} {pos : Nat} (h : pos + 1 < b.length) :
    (b.drop pos).take 2 = [b.getD pos 0, b.getD (pos + 1) 0] := by
  rw [List.drop_eq_getElem_cons (by omega), List.drop_eq_getElem_cons h,
    List.getD_eq_getElem _ _ (by omega), List.getD_eq_getElem _ _ h]
  rfl

private theorem frameSize_drop {b : Bytes} {pos : Nat} (h : pos + 3 < b.length) :
    frameSize (b.drop pos) =
      Frame.overhead + Bytes.toNat [b.getD (pos + 2) 0, b.getD (pos + 3) 0] := by
  rw [frameSize, Frame.fieldAt, List.drop_drop, take_two_drop (by omega)]

-- Looking at single bytes and looking at the whole string give the same.
theorem run_eq (byteAt : Nat → UInt8) (b : Bytes) (hbyte : ∀ i < b.length, byteAt i = b.getD i 0)
    (limit pos : Nat) :
    run byteAt b.length limit pos = (ofList limit (b.drop pos)).shift pos := by
  have htwo : ∀ pos, pos + 1 < b.length →
      [byteAt pos, byteAt (pos + 1)] = (b.drop pos).take 2 := fun pos h => by
    rw [take_two_drop h, hbyte pos (by omega), hbyte (pos + 1) h]
  have hsize : ∀ pos, ¬ b.length < pos + 4 →
      Frame.overhead + Bytes.toNat [byteAt (pos + 2), byteAt (pos + 3)] =
        frameSize (b.drop pos) := fun pos h => by
    rw [frameSize_drop (by omega), hbyte (pos + 2) (by omega), hbyte (pos + 3) (by omega)]
  have hpass : ∀ pos, Skips limit (b.drop pos) →
      (ofList limit (b.drop (pos + 1))).shift (pos + 1) = (ofList limit (b.drop pos)).shift pos :=
    fun pos h => by rw [ofList_of_skips h, shift_shift, List.drop_drop]
  fun_induction run byteAt b.length limit pos with
  | case1 pos hpos hne ih =>
    rw [htwo pos hpos] at hne
    rw [ih, hpass pos ⟨by rw [List.length_drop]; omega, .inl hne⟩]
  | case2 pos hpos heq hshort =>
    rw [htwo pos hpos] at heq
    have hstop : ¬ Skips limit (b.drop pos) := fun h =>
      h.2.elim heq fun h4 => by have := h4.1; rw [List.length_drop] at this; omega
    rw [ofList_of_not_skips hstop, if_neg fun h => by
      have := h.1; rw [List.length_drop] at this; omega]
    rfl
  | case3 pos hpos heq hlong size hlimit ih =>
    have hs : size = frameSize (b.drop pos) := hsize pos hlong
    have hlen : (b.drop pos).length = b.length - pos := List.length_drop
    rw [ih, hpass pos ⟨by omega, .inr ⟨by omega, by omega⟩⟩]
  | case4 pos hpos heq hlong size hlimit hmore =>
    have hs : size = frameSize (b.drop pos) := hsize pos hlong
    have hlen : (b.drop pos).length = b.length - pos := List.length_drop
    rw [htwo pos hpos] at heq
    rw [ofList_of_not_skips fun h => h.2.elim heq fun h4 => by have := h4.2; omega,
      if_neg fun h => by have := h.2; omega]
    rfl
  | case5 pos hpos heq hlong size hlimit hmore =>
    have hs : size = frameSize (b.drop pos) := hsize pos hlong
    have hlen : (b.drop pos).length = b.length - pos := List.length_drop
    rw [htwo pos hpos] at heq
    rw [ofList_of_not_skips fun h => h.2.elim heq fun h4 => by have := h4.2; omega,
      if_pos ⟨by omega, by omega⟩, hs]
    rfl
  | case6 pos hpos =>
    have hlen : (b.drop pos).length < 2 := by rw [List.length_drop]; omega
    rw [ofList_of_not_skips fun h => by have := h.1; omega, if_neg fun h => by have := h.1; omega]
    rfl

/-! ## All candidates -/

/-- The candidates in a byte string, one after the other, and what stands after the last. -/
def cut (limit : Nat) (b : Bytes) : List Bytes × Bytes :=
  match _h : ofList limit b with
  | .candidate skipped size =>
    let (more, rest) := cut limit (b.drop (skipped + size))
    ((b.drop skipped).take size :: more, rest)
  | .waiting _ => ([], b)
termination_by b.length
decreasing_by
  have hbounds := ofList_candidate_bounds _h
  have hpos : 0 < Frame.overhead := by decide
  rw [List.length_drop]
  omega

theorem cut_candidate {limit skipped size : Nat} {b : Bytes}
    (h : ofList limit b = .candidate skipped size) :
    cut limit b = ((b.drop skipped).take size :: (cut limit (b.drop (skipped + size))).1,
      (cut limit (b.drop (skipped + size))).2) := by
  rw [cut]
  split
  · rename_i heq
    rw [h] at heq
    cases heq
    rfl
  · rename_i heq
    rw [h] at heq
    cases heq

theorem cut_waiting {limit skipped : Nat} {b : Bytes} (h : ofList limit b = .waiting skipped) :
    cut limit b = ([], b) := by
  rw [cut]
  split
  · rename_i heq
    rw [h] at heq
    cases heq
  · rfl

end Scan

namespace Receiver

/-- The most bytes that a candidate may have. -/
def limit (rx : Receiver) (room : Nat) : Nat := min rx.maxFrame room

-- An extraction is the look at the buffered bytes, and consumes what it has gone past.
theorem extract_eq (rx : Receiver) (room : Nat) :
    rx.extract room =
      if rx.ring.available < minScan then (none, rx)
      else match Scan.ofList (rx.limit room) rx.ring.toList with
        | .candidate skipped size =>
          (some ((rx.ring.toList.drop skipped).take size),
            { rx with ring := rx.ring.advance (skipped + size) })
        | .waiting skipped => (none, { rx with ring := rx.ring.advance skipped }) := by
  have hscan := Scan.run_eq rx.ring.peek rx.ring.toList
    (fun i hi => by rw [List.getD_eq_getElem _ _ hi, Ring.getElem_toList]) (rx.limit room) 0
  rw [Ring.length_toList, List.drop_zero, Scan.shift_zero] at hscan
  rw [extract]
  split
  · rfl
  · rw [← limit, hscan]
    cases hfound : Scan.ofList (rx.limit room) rx.ring.toList with
    | candidate skipped size =>
      have hbounds := Scan.ofList_candidate_bounds hfound
      rw [Ring.length_toList] at hbounds
      dsimp only
      rw [Ring.read_eq _ hbounds.2]
    | waiting skipped => rfl

theorem drain_eq_of_some {rx rx' : Receiver} {room : Nat} {frame : Bytes}
    (h : rx.extract room = (some frame, rx')) :
    rx.drain room = (frame :: (rx'.drain room).1, (rx'.drain room).2) := by
  rw [drain]
  split
  · rename_i heq
    rw [h] at heq
    cases heq
    rfl
  · rename_i heq
    rw [h] at heq
    cases heq

theorem drain_eq_of_none {rx rx' : Receiver} {room : Nat} (h : rx.extract room = (none, rx')) :
    rx.drain room = ([], rx') := by
  rw [drain]
  split
  · rename_i heq
    rw [h] at heq
    cases heq
  · rename_i heq
    rw [h] at heq
    cases heq
    rfl

end Receiver

end Acquisition
