import Mathlib
import Acquisition.Link.ChunkStream

/-!
# Where the blocks of a pool are

Each block is free, ready, or was taken by someone who will give it back, and it is in one of these
places only (`Divided`). So a block that is filled is neither ready nor taken, and the contents of
the ready blocks are a queue (`filled`). Both sides of a link have such a pool (`Stocked`).
-/

namespace Acquisition

namespace BlockPool

/-- What the ready blocks hold, the oldest first. -/
def filled (p : BlockPool) : List Bytes := p.ready.map p.block

/-- There are `count` blocks, each of them in one place. -/
structure Divided (p : BlockPool) (count : Nat) (taken : List Nat) : Prop where
  places : (p.free ++ p.ready ++ taken).Perm (List.range count)
  size : p.contents.length = count
  limit : p.readyLimit = count

variable {p q : BlockPool} {count index : Nat} {taken : List Nat} {data : Bytes}

namespace Divided

theorem nodup (h : p.Divided count taken) : (p.free ++ p.ready ++ taken).Nodup :=
  h.places.nodup_iff.mpr List.nodup_range

theorem ready_length_add (h : p.Divided count taken) :
    p.free.length + p.ready.length + taken.length = count := by
  rw [← List.length_append, ← List.length_append, h.places.length_eq, List.length_range]

theorem ofCount (count : Nat) : (BlockPool.ofCount count count).Divided count [] where
  places := by simp [BlockPool.ofCount]
  size := List.length_replicate
  limit := rfl

theorem reset (h : p.Divided count taken) : p.reset.Divided count [] := by
  unfold BlockPool.reset
  rw [h.size, h.limit]
  exact ofCount count

end Divided

theorem filled_reset (p : BlockPool) : p.reset.filled = [] := rfl

/-! ## Contents -/

theorem getD_set_self {contents : List Bytes} (h : index < contents.length) :
    (contents.set index data).getD index [] = data := by
  rw [List.getD_eq_getElem?_getD, List.getElem?_set_self h]
  rfl

theorem getD_set_of_ne {contents : List Bytes} {other : Nat} (h : index ≠ other) :
    (contents.set index data).getD other [] = contents.getD other [] := by
  rw [List.getD_eq_getElem?_getD, List.getElem?_set_ne h, List.getD_eq_getElem?_getD]

/-! ## Filling a block -/

/-- The queue has as many slots as there are blocks, so it is never what is missing. -/
theorem Divided.push?_eq_none (h : p.Divided count taken) : p.push? data = none ↔ p.free = [] := by
  have hlength := h.ready_length_add
  unfold push?
  split
  case isTrue hfull =>
    rw [h.limit] at hfull
    exact iff_of_true rfl (List.length_eq_zero_iff.mp (by omega))
  case isFalse =>
    split
    case h_1 hfree => exact iff_of_true rfl hfree
    case h_2 hfree => exact iff_of_false (by simp) (by simp [hfree])

theorem push?_eq_some (hpush : p.push? data = some q) :
    ∃ index free, p.free = index :: free ∧
      q = { p with contents := p.contents.set index data, free, ready := p.ready ++ [index] } := by
  unfold push? at hpush
  split at hpush
  · cases hpush
  split at hpush
  · cases hpush
  case h_2 index free hfree => exact ⟨index, free, hfree, (Option.some.inj hpush).symm⟩

theorem Divided.push? (h : p.Divided count taken) (hpush : p.push? data = some q) :
    q.Divided count taken ∧ q.filled = p.filled ++ [data] ∧ ∀ i ∈ taken, q.block i = p.block i := by
  obtain ⟨index, free, hfree, rfl⟩ := push?_eq_some hpush
  have hplaces := h.places
  have hnodup := h.nodup
  rw [hfree, List.cons_append, List.cons_append] at hplaces hnodup
  -- The block that is filled was free, so what is ready or taken keeps its contents.
  have hfresh := (List.nodup_cons.mp hnodup).1
  have hindex : index < p.contents.length := by
    rw [h.size, ← List.mem_range]
    exact hplaces.subset List.mem_cons_self
  have hkept (i : Nat) (hi : i ∈ free ++ p.ready ++ taken) :
      (p.contents.set index data).getD i [] = p.block i :=
    getD_set_of_ne fun heq => hfresh (heq ▸ hi)
  refine ⟨⟨?_, ?_, h.limit⟩, ?_, fun i hi => hkept i (by simp [hi])⟩
  · have hmoved : (free ++ p.ready ++ index :: taken).Perm (index :: (free ++ p.ready ++ taken)) :=
      List.perm_middle
    simpa only [List.append_assoc, List.cons_append, List.nil_append] using hmoved.trans hplaces
  · exact (List.length_set ..).trans h.size
  · change (p.ready ++ [index]).map _ = p.ready.map _ ++ [data]
    rw [List.map_append, List.map_singleton]
    congr 1
    · exact List.map_congr_left fun i hi => hkept i (by simp [hi])
    · exact congrArg (fun block => [block]) (getD_set_self hindex)

/-! ## Taking a block and giving it back -/

theorem takeReady?_eq_none : p.takeReady? = none ↔ p.ready = [] := by
  unfold takeReady?
  split
  case h_1 hready => exact iff_of_true rfl hready
  case h_2 hready => exact iff_of_false (by simp) (by simp [hready])

theorem takeReady?_eq_some (htake : p.takeReady? = some (index, q)) :
    ∃ ready, p.ready = index :: ready ∧ q = { p with ready } := by
  unfold takeReady? at htake
  split at htake
  · cases htake
  case h_2 ready hready =>
    cases htake
    exact ⟨ready, hready, rfl⟩

theorem Divided.takeReady? (h : p.Divided count taken) (htake : p.takeReady? = some (index, q)) :
    q.Divided count (index :: taken) ∧ p.filled = q.block index :: q.filled := by
  obtain ⟨ready, hready, rfl⟩ := takeReady?_eq_some htake
  have hplaces := h.places
  rw [hready] at hplaces
  refine ⟨⟨List.Perm.trans ?_ hplaces, h.size, h.limit⟩, ?_⟩
  · simpa only [List.append_assoc, List.cons_append] using List.perm_middle.append_left p.free
  · rw [filled, hready]
    rfl

theorem Divided.giveBack (h : p.Divided count (index :: taken)) :
    (p.giveBack index).Divided count taken ∧ (p.giveBack index).filled = p.filled := by
  have hfresh := (List.nodup_cons.mp (List.perm_middle.nodup_iff.mp h.nodup)).1
  refine ⟨⟨List.perm_middle.symm.trans h.places, (List.length_set ..).trans h.size, h.limit⟩, ?_⟩
  refine List.map_congr_left fun i (hi : i ∈ p.ready) => getD_set_of_ne fun heq => hfresh ?_
  simp [heq, hi]

end BlockPool

/-! ## The pool of one side of a link -/

namespace Chunk

/-! A call hands over its data piece by piece, each piece after the `count` bytes before it. -/

section

variable (data : Bytes) (count size : Nat)

theorem take_add_piece : data.take (count + ((data.drop count).take size).length) =
    data.take count ++ (data.drop count).take size := by
  rw [List.take_add, ← List.prefix_iff_eq_take.mp (List.take_prefix ..)]

theorem drop_add_piece : data.drop (count + ((data.drop count).take size).length) =
    (data.drop count).drop size := by
  rw [← List.drop_drop, List.length_take, List.drop_eq_drop_iff]
  omega

variable {data count} in
theorem add_piece_le (h : count ≤ data.length) :
    count + ((data.drop count).take size).length ≤ data.length := by
  rw [List.length_take, List.length_drop]
  omega

end

/-- A block holds something, and not too much. -/
def Fits (block : Bytes) : Prop := 0 < block.length ∧ block.length ≤ maxBytes

structure Stocked (pool : BlockPool) (chunkBytes : Nat) (taken : List Nat) : Prop where
  divided : pool.Divided poolCount taken
  filled : ∀ block ∈ pool.filled, Fits block
  size_pos : 0 < chunkBytes
  size_le : chunkBytes ≤ maxBytes

variable {pool next : BlockPool} {chunkBytes index : Nat} {taken : List Nat} {data : Bytes}

namespace Stocked

theorem empty (requested : Nat) : Stocked emptyPool (clamp requested) [] where
  divided := .ofCount poolCount
  filled := by simp [emptyPool, BlockPool.filled, BlockPool.ofCount]
  size_pos := clamp_pos requested
  size_le := clamp_le requested

theorem resize (h : Stocked pool chunkBytes taken) (requested : Nat) :
    Stocked pool (clamp requested) taken :=
  { h with size_pos := clamp_pos requested, size_le := clamp_le requested }

theorem reset (h : Stocked pool chunkBytes taken) : Stocked pool.reset chunkBytes [] :=
  { h with divided := h.divided.reset, filled := by simp [BlockPool.filled_reset] }

theorem push? (h : Stocked pool chunkBytes taken) (hdata : data ≠ [])
    (hpush : pool.push? (data.take chunkBytes) = some next) :
    Stocked next chunkBytes taken ∧ next.filled = pool.filled ++ [data.take chunkBytes] ∧
      ∀ i ∈ taken, next.block i = pool.block i := by
  obtain ⟨hdivided, hfilled, hkept⟩ := h.divided.push? hpush
  have hfits : Fits (data.take chunkBytes) := by
    have := List.length_pos_iff.mpr hdata
    have := h.size_pos
    have := h.size_le
    unfold Fits
    rw [List.length_take]
    omega
  refine ⟨{ h with divided := hdivided, filled := ?_ }, hfilled, hkept⟩
  rw [hfilled, List.forall_mem_append, List.forall_mem_singleton]
  exact ⟨h.filled, hfits⟩

theorem takeReady? (h : Stocked pool chunkBytes taken)
    (htake : pool.takeReady? = some (index, next)) :
    Stocked next chunkBytes (index :: taken) ∧ pool.filled = next.block index :: next.filled ∧
      Fits (next.block index) := by
  obtain ⟨hdivided, hfilled⟩ := h.divided.takeReady? htake
  have hfits := h.filled
  rw [hfilled, List.forall_mem_cons] at hfits
  exact ⟨{ h with divided := hdivided, filled := hfits.2 }, hfilled, hfits.1⟩

theorem giveBack (h : Stocked pool chunkBytes (index :: taken)) :
    Stocked (pool.giveBack index) chunkBytes taken ∧
      (pool.giveBack index).filled = pool.filled := by
  obtain ⟨hdivided, hfilled⟩ := h.divided.giveBack
  exact ⟨{ h with divided := hdivided, filled := hfilled ▸ h.filled }, hfilled⟩

end Stocked

end Chunk

end Acquisition
