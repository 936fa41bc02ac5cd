import Mathlib
import Acquisition.Link.ChunkStream
import Acquisition.Proofs.Link.BlockPool

/-!
# What an inbox holds

An inbox stands for the bytes that it has `buffered`: the rest of the block being read, then the
ready blocks. Filling a block appends to them, and a reception takes from their front.
-/

namespace Acquisition

namespace Inbox

/-- The block being read. -/
def taken (box : Inbox) : List Nat := (box.current.map Prod.fst).toList

/-- What was not read of the block being read. -/
def unread (box : Inbox) : Bytes :=
  match box.current with
  | none => []
  | some (index, offset) => (box.pool.block index).drop offset

/-- What was pushed and not yet received. -/
def buffered (box : Inbox) : Bytes := box.unread ++ box.pool.filled.flatten

theorem taken_of_none {box : Inbox} (h : box.current = none) : box.taken = [] := by
  rw [taken, h]
  rfl

theorem taken_of_some {box : Inbox} {index offset : Nat} (h : box.current = some (index, offset)) :
    box.taken = [index] := by
  rw [taken, h]
  rfl

theorem mem_taken {box : Inbox} {index : Nat} :
    index ∈ box.taken ↔ ∃ offset, box.current = some (index, offset) := by
  simp [taken]

/-- The block being read has a rest to be read. -/
structure Sound (box : Inbox) : Prop where
  stocked : Chunk.Stocked box.pool box.chunkBytes box.taken
  current : ∀ index offset, box.current = some (index, offset) →
    offset < (box.pool.block index).length ∧ (box.pool.block index).length ≤ Chunk.maxBytes

variable {box next : Inbox} {data bytes : Bytes} {index offset max : Nat}

theorem sound_ofChunkBytes (requested : Nat) : (ofChunkBytes requested).Sound where
  stocked := .empty requested
  current := by simp [ofChunkBytes]

-- The block that is filled is the first free one.
theorem free_of_pushChunk? (hpush : box.pushChunk? data = some next) :
    ∃ index, box.pool.free = index :: next.pool.free ∧
      next.pool.ready = box.pool.ready ++ [index] := by
  obtain ⟨pool, hpool, rfl⟩ := Option.map_eq_some_iff.mp hpush
  obtain ⟨index, free, hfree, rfl⟩ := BlockPool.push?_eq_some hpool
  exact ⟨index, hfree, rfl⟩

theorem buffered_reset (box : Inbox) : box.reset.buffered = [] := rfl

namespace Sound

theorem reset (h : box.Sound) : box.reset.Sound where
  stocked := h.stocked.reset
  current := by simp [Inbox.reset]

theorem resize (h : box.Sound) (requested : Nat) :
    ({ box with
      chunkBytes := Chunk.clamp requested
      chunkBytes_pos := Chunk.clamp_pos requested } : Inbox).Sound :=
  { h with stocked := h.stocked.resize requested }

/-! ## Filling -/

theorem pushChunk?_eq_none (h : box.Sound) : box.pushChunk? data = none ↔ box.pool.free = [] := by
  rw [pushChunk?, Option.map_eq_none_iff]
  exact h.stocked.divided.push?_eq_none

theorem pushChunk? (h : box.Sound) (hdata : data ≠ []) (hpush : box.pushChunk? data = some next) :
    next.Sound ∧ next.buffered = box.buffered ++ data.take box.chunkBytes := by
  obtain ⟨pool, hpool, rfl⟩ := Option.map_eq_some_iff.mp hpush
  obtain ⟨hstocked, hfilled, hkept⟩ := h.stocked.push? hdata hpool
  have hcurrent (index offset : Nat) (hc : box.current = some (index, offset)) :
      pool.block index = box.pool.block index :=
    hkept index (by simp [taken, hc])
  refine ⟨⟨hstocked, fun index offset hc => ?_⟩, ?_⟩
  · change offset < (pool.block index).length ∧ (pool.block index).length ≤ _
    rw [hcurrent index offset hc]
    exact h.current index offset hc
  · have hunread : ({ box with pool } : Inbox).unread = box.unread := by
      cases hc : box.current with
      | none => simp only [unread, hc]
      | some c => simp only [unread, hc, hcurrent c.1 c.2 hc]
    rw [buffered, buffered, hunread, hfilled]
    simp

end Sound

/-! ## Receiving -/

/-- How many blocks hold something. -/
def occupied (box : Inbox) : Nat := box.taken.length + box.pool.ready.length

theorem next?_eq_none (h : box.occupied = 0) : box.next? = none := by
  have hready : box.pool.ready = [] := List.length_eq_zero_iff.mp (by unfold occupied at h; omega)
  cases hc : box.current with
  | none => simp only [next?, hc, BlockPool.takeReady?_eq_none.mpr hready, Option.map_none]
  | some c => simp [occupied, taken_of_some hc] at h

theorem buffered_eq_nil (h : box.next? = none) : box.buffered = [] := by
  unfold next? at h
  split at h
  · cases h
  case h_2 hc =>
    have hready := BlockPool.takeReady?_eq_none.mp (Option.map_eq_none_iff.mp h)
    simp [buffered, unread, hc, BlockPool.filled, hready]

-- The block that is next may as well have been the current one before.
theorem Sound.next? (h : box.Sound) (hnext : box.next? = some (index, offset, next)) :
    let held : Inbox := { next with current := some (index, offset) }
    held.Sound ∧ held.buffered = box.buffered ∧ held.occupied = box.occupied := by
  unfold Inbox.next? at hnext
  split at hnext
  case h_1 hc =>
    cases hnext
    have hheld : ({ box with current := some (index, offset) } : Inbox) = box := by rw [← hc]
    exact hheld.symm ▸ ⟨h, rfl, rfl⟩
  case h_2 hc =>
    obtain ⟨⟨index, pool⟩, htake, heq⟩ := Option.map_eq_some_iff.mp hnext
    cases heq
    have hstocked := h.stocked
    rw [taken_of_none hc] at hstocked
    obtain ⟨hstocked, hfilled, hfits⟩ := hstocked.takeReady? htake
    obtain ⟨ready, hready, rfl⟩ := BlockPool.takeReady?_eq_some htake
    refine ⟨⟨hstocked, ?_⟩, ?_, ?_⟩
    · rintro _ _ ⟨⟩
      exact hfits
    · simp [buffered, unread, hc, hfilled]
    · simp [occupied, taken, hc, hready, Nat.add_comm]

/-- A block is read to its end, and given back, or as much of it as was asked for. -/
theorem Sound.readBlock (h : box.Sound) (hcurrent : box.current = some (index, offset))
    (hread : box.readBlock index offset max = (bytes, next)) :
    next.Sound ∧ bytes.length ≤ max ∧ bytes ++ next.buffered = box.buffered ∧
      (bytes.length = max ∨ next.occupied + 1 = box.occupied) := by
  have htaken := taken_of_some hcurrent
  have hstocked := htaken ▸ h.stocked
  have hlength := (h.current index offset hcurrent).2
  have hunread : box.unread = (box.pool.block index).drop offset := by simp only [unread, hcurrent]
  simp only [Inbox.readBlock] at hread
  split at hread
  case isTrue hdone =>
    obtain ⟨hbytes, rfl⟩ := Prod.mk.inj hread
    have hall : bytes = box.unread := by
      rw [List.length_take, List.length_drop] at hdone
      rw [hunread, ← hbytes, List.take_of_length_le (by rw [List.length_drop]; omega)]
    obtain ⟨hback, hfilled⟩ := hstocked.giveBack
    refine ⟨⟨hback, by simp⟩, ?_, ?_, .inr ?_⟩
    · exact hbytes ▸ List.length_take_le ..
    · simp only [buffered, hfilled, hall]
      rfl
    · simp only [occupied, htaken]
      exact (Nat.zero_add _).symm ▸ Nat.add_comm ..
  case isFalse hmore =>
    obtain ⟨hbytes, rfl⟩ := Prod.mk.inj hread
    have hfull : bytes.length = max := by
      rw [List.length_take, List.length_drop] at hmore
      rw [← hbytes, List.length_take, List.length_drop]
      omega
    refine ⟨⟨hstocked, ?_⟩, hfull.le, ?_, .inl hfull⟩
    · rintro _ _ ⟨⟩
      exact ⟨Nat.lt_of_not_le hmore, hlength⟩
    · have hrest : bytes ++ (box.pool.block index).drop (offset + bytes.length) = box.unread := by
        rw [hfull, ← List.drop_drop, ← hbytes, List.take_append_drop, hunread]
      rw [buffered, buffered, ← hrest, List.append_assoc, hbytes]
      rfl

theorem receiveFrom_zero (box : Inbox) (blocks : Nat) : box.receiveFrom blocks 0 = ([], box) := by
  cases blocks with
  | zero => rfl
  | succ => simp [Inbox.receiveFrom]

theorem Sound.receiveFrom (h : box.Sound) {blocks : Nat} (hblocks : box.occupied ≤ blocks)
    (hreceive : Inbox.receiveFrom blocks box max = (bytes, next)) :
    next.Sound ∧ bytes ++ next.buffered = box.buffered ∧
      bytes.length = min max box.buffered.length := by
  -- Each block is looked at once: either it is given back, or nothing more is asked for.
  induction blocks generalizing box max bytes with
  | zero =>
    cases hreceive
    simp [h, buffered_eq_nil (next?_eq_none (Nat.le_zero.mp hblocks))]
  | succ blocks ih =>
    simp only [Inbox.receiveFrom] at hreceive
    split at hreceive
    case isTrue hmax =>
      cases hreceive
      simp [h, hmax]
    case isFalse hmax =>
    split at hreceive
    case h_1 hnone =>
      cases hreceive
      simp [h, buffered_eq_nil hnone]
    case h_2 index offset rest hnext =>
    obtain ⟨hheld, hbuffered, hoccupied⟩ := h.next? hnext
    generalize hread : rest.readBlock index offset max = r at hreceive
    obtain ⟨piece, after⟩ := r
    obtain ⟨hafter, hpiece, happend, hprogress⟩ := hheld.readBlock rfl hread
    generalize hmore : Inbox.receiveFrom blocks after (max - piece.length) = m at hreceive
    obtain ⟨more, last⟩ := m
    cases hreceive
    rw [← hbuffered, ← happend]
    rcases hprogress with hfull | hfewer
    · -- Nothing more is asked for, however many blocks are left.
      rw [hfull, Nat.sub_self, receiveFrom_zero] at hmore
      cases hmore
      simp [hafter, hfull]
    · obtain ⟨hlast, hrest, hlength⟩ := ih hafter (by omega) hmore
      refine ⟨hlast, by rw [List.append_assoc, hrest], ?_⟩
      simp only [List.length_append]
      omega

/-- A reception gives as many of the buffered bytes as were asked for, or all of them. -/
theorem Sound.receive (h : box.Sound) (max : Nat) :
    (box.receive max).2.Sound ∧ (box.receive max).1 = box.buffered.take max ∧
      (box.receive max).2.buffered = box.buffered.drop max := by
  have hfew : box.occupied ≤ box.pool.ready.length + 1 := by
    rw [occupied, taken, Nat.add_comm]
    exact Nat.add_le_add_left (Option.length_toList_le ..) _
  obtain ⟨hsound, happend, hlength⟩ :=
    h.receiveFrom hfew (Prod.eta (Inbox.receiveFrom _ box max)).symm
  change (box.receive max).1 ++ (box.receive max).2.buffered = _ at happend
  change (box.receive max).1.length = _ at hlength
  have hcut : box.buffered.take max = box.buffered.take (box.receive max).1.length := by
    rw [hlength, List.take_eq_take_iff]
    omega
  have hrest : box.buffered.drop max = box.buffered.drop (box.receive max).1.length := by
    rw [hlength, List.drop_eq_drop_iff]
    omega
  refine ⟨hsound, ?_, ?_⟩
  · rw [hcut, ← happend, List.take_left]
  · rw [hrest, ← happend, List.drop_left]

end Inbox

end Acquisition
