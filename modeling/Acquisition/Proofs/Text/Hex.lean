import Mathlib
import Acquisition.Text.Numeral
import Acquisition.Proofs.Text.Utf8

/-!
# What hexadecimal numerals are read as

A digit that is read is one that is written, in either case (`digit?_sixteen_eq_some_iff`). Two
characters are read as the byte that is written so, and a `+` in front of a digit does what a zero
does there (`unsigned?_pair`).
-/

namespace Acquisition.Text

/-! ## What is written -/

namespace Hex

theorem exists_digit_of_mem {bytes : Bytes} {c : Char} (h : c ∈ bytes.flatMap ofByte) :
    ∃ v < 16, c = v.digitChar := by
  obtain ⟨b, -, hc⟩ := List.mem_flatMap.mp h
  have hb : b.toNat < 256 := b.toNat_lt
  rw [ofByte, List.mem_pair] at hc
  rcases hc with hc | hc
  · exact ⟨b.toNat / 16, by omega, hc⟩
  · exact ⟨b.toNat % 16, by omega, hc⟩

theorem toNat_digit_lt : ∀ v < 16, v.digitChar.toNat < 128 := by decide

theorem digit_ne_plus : ∀ v < 16, v.digitChar ≠ '+' := by decide

/-! ## Characters beyond ASCII -/

theorem toLower_of_le {c : Char} (hc : 128 ≤ c.toNat) : c.toLower = c := by
  rw [Char.toLower]
  refine dif_neg fun h => ?_
  have hmost : c.toNat ≤ 90 := UInt32.le_iff_toNat_le.mp h.2
  omega

theorem digitValue?_of_le {c : Char} (hc : 128 ≤ c.toNat) : digitValue? c = none := by
  have hrange {first last : Char} (hlast : last.toNat < 128) : ¬ (first ≤ c ∧ c ≤ last) := by
    rintro ⟨-, h⟩
    have hmost : c.toNat ≤ last.toNat := UInt32.le_iff_toNat_le.mp h
    omega
  rw [digitValue?, if_neg (hrange (by decide)), if_neg (hrange (by decide)),
    if_neg (hrange (by decide))]

end Hex

/-! ## One digit -/

namespace Numeral

theorem digit?_sixteen_eq_some_iff {c : Char} {v : Nat} :
    digit? 16 c = some v ↔ v < 16 ∧ c.toLower = v.digitChar := by
  -- Within ASCII each character is tried as each digit. Beyond it there is none.
  by_cases hc : c.toNat < 128
  · have hascii : ∀ v < 16, digit? 16 c = some v ↔ c.toLower = v.digitChar := by
      revert c
      exact @Utf8.forall_ascii _ (by decide +kernel)
    constructor
    · intro h
      have hv : v < 16 := of_decide_eq_true (Option.filter_eq_some_iff.mp h).2
      exact ⟨hv, (hascii v hv).mp h⟩
    · rintro ⟨hv, h⟩
      exact (hascii v hv).mpr h
  · have hc := Nat.le_of_not_lt hc
    rw [digit?, Hex.digitValue?_of_le hc, Hex.toLower_of_le hc]
    refine iff_of_false nofun ?_
    rintro ⟨hv, rfl⟩
    exact absurd (Hex.toNat_digit_lt v hv) (Nat.not_lt_of_le hc)

/-! ## Two digits -/

theorem digits?_pair_eq_some_iff {high low : Char} {n : Nat} :
    digits? 16 [high, low] = some n ↔
      n < 256 ∧ high.toLower = (n / 16).digitChar ∧ low.toLower = (n % 16).digitChar := by
  simp only [digits?, continue?, Option.bind_eq_bind, Option.bind_eq_some_iff,
    digit?_sixteen_eq_some_iff, Option.some_inj]
  constructor
  · rintro ⟨a, ⟨ha, hhigh⟩, b, ⟨hb, hlow⟩, rfl⟩
    rw [show ((0 * 16 + a) * 16 + b) / 16 = a by omega,
      show ((0 * 16 + a) * 16 + b) % 16 = b by omega]
    exact ⟨by omega, hhigh, hlow⟩
  · rintro ⟨hn, hhigh, hlow⟩
    exact ⟨n / 16, ⟨by omega, hhigh⟩, n % 16, ⟨by omega, hlow⟩, by omega⟩

theorem unsigned?_pair (max : Nat) (high low : Char) :
    unsigned? 16 max [high, low] =
      (digits? 16 [if high = '+' then '0' else high, low]).filter (· ≤ max) := by
  by_cases hsign : high = '+'
  · rw [if_pos hsign, hsign]
    rfl
  · rw [if_neg hsign, unsigned?]
    exact fun _ h => hsign (List.cons.inj h).1

end Numeral

end Acquisition.Text
