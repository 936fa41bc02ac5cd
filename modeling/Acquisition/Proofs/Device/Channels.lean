import Mathlib
import Acquisition.Device.Response
import Acquisition.Device.State

/-!
# The mask of enabled channels

The mask has a bit for each channel of the table (`testBit_channelMask`), so as many bits are set as
channels are enabled.
-/

namespace Acquisition.Device

namespace State

/-- Sets the bit of an enabled channel. -/
def markEnabled (mask : UInt16) (entry : ChannelState × Nat) : UInt16 :=
  if entry.1.enabled then mask ||| (1 <<< UInt16.ofNat entry.2) else mask

theorem testBit_markEnabled (mask : UInt16) (ch : ChannelState) {k : Nat} (hk : k < 16) (i : Nat) :
    (markEnabled mask (ch, k)).toNat.testBit i =
      (mask.toNat.testBit i || (ch.enabled && decide (k = i))) := by
  have hbit : (1 <<< UInt16.ofNat k : UInt16).toNat = 2 ^ k := by
    have hpow : 2 ^ k < 2 ^ 16 := Nat.pow_lt_pow_right (by decide) hk
    have hword : (UInt16.ofNat k).toNat = k :=
      UInt16.toNat_ofNat_of_lt' (by rw [UInt16.size]; omega)
    rw [UInt16.toNat_shiftLeft, hword, Nat.mod_eq_of_lt hk, UInt16.toNat_one, Nat.shiftLeft_eq,
      one_mul, Nat.mod_eq_of_lt hpow]
  unfold markEnabled
  cases ch.enabled with
  | true =>
    rw [if_pos rfl, UInt16.toNat_or, Nat.testBit_or, hbit, Nat.testBit_two_pow, Bool.true_and]
  | false => simp

theorem testBit_foldl_markEnabled (channels : List ChannelState) (k : Nat) (mask : UInt16)
    (hk : k + channels.length ≤ 16) (i : Nat) :
    ((channels.zipIdx k).foldl markEnabled mask).toNat.testBit i =
      (mask.toNat.testBit i || (decide (k ≤ i) && channels[i - k]?.any (·.enabled))) := by
  induction channels generalizing k mask with
  | nil => simp
  | cons ch rest ih =>
    rw [List.length_cons] at hk
    rw [List.zipIdx_cons, List.foldl_cons, ih (k + 1) _ (by omega),
      testBit_markEnabled mask ch (by omega), Bool.or_assoc]
    congr 1
    rcases Nat.lt_trichotomy k i with hlt | rfl | hgt
    · obtain ⟨j, rfl⟩ := Nat.exists_eq_add_of_lt hlt
      simp [show k + j + 1 - (k + 1) = j by omega, show k + j + 1 - k = j + 1 by omega,
        show ¬ k = k + j + 1 by omega, show k ≤ k + j + 1 by omega]
    · simp
    · simp [show ¬ k = i by omega, show ¬ k ≤ i by omega, show ¬ k + 1 ≤ i by omega]

theorem testBit_channelMask {s : State} (h : s.channels.length ≤ 16) (i : Nat) :
    s.channelMask.toNat.testBit i = s.channels[i]?.any (·.enabled) := by
  have hmask : s.channelMask = (s.channels.zipIdx 0).foldl markEnabled 0 := rfl
  rw [hmask, testBit_foldl_markEnabled s.channels 0 0 (by omega)]
  simp

theorem length_filter_range {α : Type} (p : α → Bool) (xs : List α) {n : Nat}
    (h : xs.length ≤ n) : ((List.range n).filter fun i => xs[i]?.any p).length = xs.countP p := by
  induction xs generalizing n with
  | nil => simp
  | cons x rest ih =>
    obtain ⟨n, rfl⟩ : ∃ m, n = m + 1 := ⟨n - 1, by rw [List.length_cons] at h; omega⟩
    have hrest := ih (n := n) (by rw [List.length_cons] at h; omega)
    rw [List.range_succ_eq_map, List.filter_cons, List.filter_map, List.countP_cons]
    simp only [List.getElem?_cons_zero, Option.any_some, Function.comp_def,
      List.getElem?_cons_succ]
    split <;> simp [hrest]

theorem bitCount_channelMask {s : State} (h : s.channels.length ≤ 16) :
    bitCount s.channelMask = s.channels.countP (·.enabled) := by
  simp only [bitCount, testBit_channelMask h]
  exact length_filter_range _ _ h

end State

end Acquisition.Device
