import Mathlib
import Acquisition.Proofs.Reception.Chunking

/-!
# What stays buffered

Whatever has arrived, after a drain less is buffered than the largest candidate has
(`available_drain_lt`): what is waited for is a candidate that is not too long and not yet whole.
-/

namespace Acquisition

namespace Scan

theorem length_lt_of_not_whole {limit : Nat} {b : Bytes} (hlimit : 4 ≤ limit)
    (hstop : ¬ Skips limit b) (hpart : ¬ Whole b) : b.length < limit := by
  by_cases h4 : 4 ≤ b.length
  · have hsize : frameSize b ≤ limit :=
      Nat.le_of_not_lt fun hlong => hstop ⟨by omega, .inr ⟨h4, hlong⟩⟩
    have hmore : b.length < frameSize b := Nat.lt_of_not_le fun hwhole => hpart ⟨h4, hwhole⟩
    omega
  · omega

end Scan

namespace Receiver

variable {room : Nat}

theorem available_extract_lt {rx : Receiver} (hlimit : minScan ≤ rx.limit room)
    (hnone : (rx.extract room).1 = none) :
    (rx.extract room).2.ring.available < rx.limit room := by
  rw [extract_eq] at hnone ⊢
  split at hnone
  · rename_i hshort
    rw [if_pos hshort]
    exact hshort.trans_le hlimit
  · rename_i hlong
    rw [if_neg hlong]
    cases hfound : Scan.ofList (rx.limit room) rx.ring.toList with
    | candidate skipped size =>
      rw [hfound] at hnone
      cases hnone
    | waiting skipped =>
      obtain ⟨hstop, hpart⟩ := Scan.of_ofList_waiting hfound
      dsimp only
      rw [← Ring.length_toList, Ring.toList_advance]
      exact Scan.length_lt_of_not_whole (le_trans (by decide) hlimit) hstop.stops hpart

theorem extract_keeps (rx : Receiver) (room : Nat) :
    (rx.extract room).2.ring.size = rx.ring.size ∧ (rx.extract room).2.maxFrame = rx.maxFrame := by
  rw [extract]
  split
  · exact ⟨rfl, rfl⟩
  · split <;> exact ⟨rfl, rfl⟩

theorem dropped_extract (rx : Receiver) (room : Nat) :
    (rx.extract room).2.dropped = rx.dropped := by
  rw [extract]
  split
  · rfl
  · split <;> rfl

-- A drain ends with a look that finds nothing.
theorem exists_extract_none (rx : Receiver) (room : Nat) :
    ∃ last : Receiver, last.ring.size = rx.ring.size ∧ last.maxFrame = rx.maxFrame ∧
      last.extract room = (none, (rx.drain room).2) := by
  fun_induction drain rx room with
  | case1 rx frame rx' h rest rx'' hrest ih =>
    have hkeeps := rx.extract_keeps room
    rw [h] at hkeeps
    rw [hrest] at ih
    obtain ⟨last, hsize, hframe, hlast⟩ := ih
    exact ⟨last, hsize.trans hkeeps.1, hframe.trans hkeeps.2, hlast⟩
  | case2 rx rx' h => exact ⟨rx, rfl, rfl, h⟩

theorem size_drain (rx : Receiver) (room : Nat) :
    (rx.drain room).2.ring.size = rx.ring.size := by
  obtain ⟨last, hsize, -, hlast⟩ := rx.exists_extract_none room
  have hkeeps := (last.extract_keeps room).1
  rw [hlast] at hkeeps
  exact hkeeps.trans hsize

theorem available_drain_lt {rx : Receiver} (hlimit : minScan ≤ rx.limit room) :
    (rx.drain room).2.ring.available < rx.limit room := by
  obtain ⟨last, -, hframe, hlast⟩ := rx.exists_extract_none room
  have hsame : last.limit room = rx.limit room := by rw [limit, limit, hframe]
  rw [← hsame] at hlimit ⊢
  have hlt := available_extract_lt hlimit (by rw [hlast])
  rwa [hlast] at hlt

-- Where a chunk fits beside what is left of the chunks before it, nothing is dropped.
theorem dropped_receive_of_room {rx : Receiver} {chunks : List Bytes}
    (hlimit : minScan ≤ rx.limit room) (hbacklog : rx.ring.available < rx.limit room)
    (hroom : ∀ chunk ∈ chunks, rx.limit room + chunk.length ≤ rx.ring.size) :
    (rx.receive room chunks).2.dropped = rx.dropped := by
  induction chunks generalizing rx with
  | nil => rfl
  | cons chunk rest ih =>
    have hfirst := hroom chunk List.mem_cons_self
    have hfed : (rx.feed chunk).2.dropped = rx.dropped := by
      rw [dropped_feed, Ring.free, Ring.capacity]
      omega
    have hdrained : ((rx.feed chunk).2.drain room).2.ring.available < rx.limit room :=
      available_drain_lt hlimit
    have hsize : ((rx.feed chunk).2.drain room).2.ring.size = rx.ring.size := by
      rw [size_drain]
      exact Ring.size_push ..
    rw [receive_cons, ih, dropped_drain, hfed]
    · rw [limit_drain]
      exact hlimit
    · rw [limit_drain]
      exact hdrained
    · intro next hnext
      rw [limit_drain, hsize]
      exact hroom next (List.mem_cons_of_mem _ hnext)

/-! ## Nothing new -/

theorem feed_nil (rx : Receiver) : (rx.feed []).2 = rx := by
  simp only [feed, Ring.push_nil, List.length_nil, Nat.zero_sub, Nat.add_zero]

-- A receiver that is looked at before anything more arrives.
theorem receive_nil_cons (rx : Receiver) (room : Nat) (chunks : List Bytes) :
    rx.receive room ([] :: chunks) =
      ((rx.drain room).1 ++ ((rx.drain room).2.receive room chunks).1,
        ((rx.drain room).2.receive room chunks).2) := by
  rw [receive_cons, feed_nil]

theorem extract_of_waiting {rx : Receiver}
    (h : Scan.ofList (rx.limit room) rx.ring.toList = .waiting 0) :
    rx.extract room = (none, rx) := by
  rw [extract_eq]
  split
  · rfl
  · rw [h]
    dsimp only
    rw [Ring.advance_zero]

-- A look that finds nothing goes past all that it can.
theorem extract_of_none {rx rx' : Receiver} (h : rx.extract room = (none, rx')) :
    rx'.extract room = (none, rx') := by
  rw [extract_eq] at h
  split at h
  · rename_i hshort
    cases h
    rw [extract_eq, if_pos hshort]
  · cases hfound : Scan.ofList (rx.limit room) rx.ring.toList with
    | candidate skipped size =>
      rw [hfound] at h
      cases h
    | waiting skipped =>
      rw [hfound] at h
      cases h
      obtain ⟨hstop, hpart⟩ := Scan.of_ofList_waiting hfound
      have hagain : Scan.ofList (rx.limit room) (rx.ring.advance skipped).toList = .waiting 0 := by
        rw [Ring.toList_advance, Scan.ofList_of_not_skips hstop.stops, if_neg hpart]
      exact extract_of_waiting hagain

-- As long as nothing arrives, a receiver that has been drained has nothing to deliver.
theorem receive_receive_nil (rx : Receiver) (room : Nat) (chunk : Bytes) :
    (rx.receive room [chunk]).2.receive room [[]] = ([], (rx.receive room [chunk]).2) := by
  obtain ⟨last, -, -, hlast⟩ := (rx.feed chunk).2.exists_extract_none room
  rw [receive_singleton, receive_singleton, feed_nil]
  exact drain_eq_of_none (extract_of_none hlast)

end Receiver

end Acquisition
