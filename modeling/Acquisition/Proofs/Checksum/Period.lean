import Mathlib
import Acquisition.Proofs.Checksum.Detection

/-!
# Two bits far apart

The step of a register has the order 32767 (`orderOf_step`). So a register that has taken in a
single bit holds the same bit again when 32767 bits have passed, and not before: a second bit does
not make the register forget the first one unless it stands a multiple of 32767 positions later
(`foldl_pair_eq_zero_iff`).
-/

namespace Acquisition.Checksum

/-! ## Steps at one go -/

/-- The register with the highest bit alone. Steps take this bit through all the places. -/
def top : UInt16 := 0x8000

/-- What becomes of the `n` highest bits of `x` where `top` becomes `r`. A bit that stands `i`
places below the highest one is what `top` becomes in `i` steps. -/
def mix (r x : UInt16) : Nat → UInt16
  | 0 => 0
  | n + 1 => mix r x n ^^^ if bit x (15 - n) then stepBits n r else 0

theorem stepBits_add (m n : Nat) (x : UInt16) : stepBits (m + n) x = stepBits n (stepBits m x) := by
  induction m generalizing x with
  | zero => rw [Nat.zero_add, stepBits]
  | succ m ih => rw [Nat.succ_add, stepBits, ih, stepBits]

theorem stepBits_comm (m n : Nat) (x : UInt16) :
    stepBits m (stepBits n x) = stepBits n (stepBits m x) := by
  rw [← stepBits_add, ← stepBits_add, Nat.add_comm]

theorem bit_stepBits_top {n : Nat} (hn : n ≤ 15) (i : Nat) :
    bit (stepBits n top) i = decide (i + n = 15) := by
  have htop (j : Nat) : bit top j = decide (15 = j) := by
    change (2 ^ 15 : Nat).testBit j = _
    exact Nat.testBit_two_pow
  rw [bit_stepBits_of_low, htop]
  · simp only [eq_comm]
  · intro j hj
    rw [htop, decide_eq_false (by omega)]

theorem mix_top (x : UInt16) : mix top x 16 = x := by
  have hbits (n i : Nat) (hn : n ≤ 16) (hi : i < 16) :
      bit (mix top x n) i = (decide (16 ≤ i + n) && bit x i) := by
    induction n with
    | zero => rw [mix, bit_zero, decide_eq_false (by omega), Bool.false_and]
    | succ n ih =>
      have hplace : bit (if bit x (15 - n) then stepBits n top else 0) i =
          (decide (i + n = 15) && bit x i) := by
        by_cases hin : i + n = 15
        · obtain rfl : i = 15 - n := by omega
          cases hx : bit x (15 - n) with
          | true => rw [if_pos rfl, bit_stepBits_top (by omega), Bool.and_true]
          | false => rw [if_neg Bool.false_ne_true, bit_zero, Bool.and_false]
        · rw [decide_eq_false hin, Bool.false_and]
          split
          · rw [bit_stepBits_top (by omega), decide_eq_false hin]
          · exact bit_zero i
      rw [mix, bit_xor, ih (by omega), hplace]
      by_cases hin : i + n = 15
      · rw [decide_eq_false (by omega), decide_eq_true hin, decide_eq_true (by omega),
          Bool.false_and, Bool.true_and, Bool.false_xor]
      · rw [decide_eq_false hin, Bool.false_and, Bool.xor_false]
        congr 2
        exact propext (by omega)
  apply eq_of_bit
  intro i hi
  rw [hbits 16 i (Nat.le_refl _) hi, decide_eq_true (by omega), Bool.true_and]

theorem stepBits_mix (m : Nat) (r x : UInt16) (n : Nat) :
    stepBits m (mix r x n) = mix (stepBits m r) x n := by
  induction n with
  | zero => exact stepBits_zero m
  | succ n ih =>
    rw [mix, mix, stepBits_xor, ih]
    split
    · rw [stepBits_comm]
    · rw [stepBits_zero]

-- What steps make of a register is told by what they make of `top`.
theorem stepBits_eq_mix (n : Nat) (x : UInt16) : stepBits n x = mix (stepBits n top) x 16 := by
  rw [← stepBits_mix, mix_top]

/-- What `top` becomes in `n` steps, by doubling. There is room for so many binary digits of `n`. -/
def power : (digits n : Nat) → UInt16
  | 0, _ => top
  | digits + 1, n =>
    let half := power digits (n / 2)
    let even := mix half half 16
    if n % 2 = 1 then stepBit even else even

theorem power_eq {digits n : Nat} (h : n < 2 ^ digits) : power digits n = stepBits n top := by
  induction digits generalizing n with
  | zero =>
    obtain rfl : n = 0 := by simpa using h
    rfl
  | succ digits ih =>
    have hhalf : power digits (n / 2) = stepBits (n / 2) top := ih (by omega)
    have heven : mix (stepBits (n / 2) top) (stepBits (n / 2) top) 16 =
        stepBits (n / 2 + n / 2) top := by
      rw [← stepBits_eq_mix, stepBits_add]
    rw [power, hhalf, heven]
    split
    · change stepBits 1 (stepBits (n / 2 + n / 2) top) = _
      rw [← stepBits_add, show n / 2 + n / 2 + 1 = n by omega]
    · rw [show n / 2 + n / 2 = n by omega]

/-! ## The order of the step -/

/-- The step as an element of the monoid of all maps from registers to registers. -/
def step : Function.End UInt16 := stepBit

theorem step_pow (n : Nat) : step ^ n = stepBits n := by
  induction n with
  | zero => rfl
  | succ n ih =>
    rw [pow_succ, ih]
    rfl

theorem step_pow_eq_one_iff {n : Nat} : step ^ n = 1 ↔ stepBits n top = top := by
  rw [step_pow]
  constructor
  · intro h
    exact congrFun h top
  · intro h
    funext x
    rw [stepBits_eq_mix, h, mix_top]
    rfl

theorem orderOf_step : orderOf step = 32767 := by
  apply orderOf_eq_of_pow_and_pow_div_prime (by decide)
  · rw [step_pow_eq_one_iff, ← power_eq (by decide : 32767 < 2 ^ 15)]
    decide +kernel
  · intro p hp hdvd hone
    have hproduct : 32767 = 7 * 31 * 151 := rfl
    rw [hproduct, hp.dvd_mul, hp.dvd_mul, Nat.prime_dvd_prime_iff_eq hp (by norm_num),
      Nat.prime_dvd_prime_iff_eq hp (by norm_num), Nat.prime_dvd_prime_iff_eq hp (by norm_num)]
      at hdvd
    rw [step_pow_eq_one_iff] at hone
    rcases hdvd with (rfl | rfl) | rfl
    · rw [← power_eq (by decide : 32767 / 7 < 2 ^ 15)] at hone
      exact absurd hone (by decide +kernel)
    · rw [← power_eq (by decide : 32767 / 31 < 2 ^ 15)] at hone
      exact absurd hone (by decide +kernel)
    · rw [← power_eq (by decide : 32767 / 151 < 2 ^ 15)] at hone
      exact absurd hone (by decide +kernel)

theorem stepBits_injective (n : Nat) : Function.Injective (stepBits n) := by
  intro x y h
  have hdifference : stepBits n (x ^^^ y) = 0 := by
    rw [stepBits_xor, h, UInt16.xor_self]
  exact UInt16.xor_eq_zero_iff.mp (stepBits_eq_zero hdifference)

theorem stepBits_one_eq_iff {n : Nat} : stepBits n 1 = 1 ↔ 32767 ∣ n := by
  have hone : stepBits 15 top = 1 := by decide +kernel
  rw [← hone, stepBits_comm, (stepBits_injective 15).eq_iff, ← step_pow_eq_one_iff, ← orderOf_step,
    orderOf_dvd_iff_pow_eq_one]

/-! ## A pair of bits -/

-- Nothing is left of two bits if the second comes in when the first is back at its place.
theorem foldl_pair_eq_zero_iff {before between after : List Bool} (hbefore : true ∉ before)
    (hbetween : true ∉ between) (hafter : true ∉ after) :
    (before ++ true :: (between ++ true :: after)).foldl shiftIn 0 = 0 ↔
      32767 ∣ between.length + 1 := by
  have hone : ofBits [true] = 1 := by decide
  have hfirst : shiftIn 0 true = stepBit 1 := by
    rw [shiftIn, hone, UInt16.zero_xor]
  have hsecond : between.foldl shiftIn (stepBit 1) = stepBits (between.length + 1) 1 :=
    foldl_shiftIn_of_not_mem _ hbetween
  rw [List.foldl_append, foldl_shiftIn_of_not_mem _ hbefore, stepBits_zero, List.foldl_cons, hfirst,
    List.foldl_append, hsecond, List.foldl_cons, shiftIn, hone, foldl_shiftIn_of_not_mem _ hafter,
    ← stepBits_one_eq_iff]
  constructor
  · intro h
    exact UInt16.xor_eq_zero_iff.mp (stepBit_eq_zero (stepBits_eq_zero h))
  · intro h
    rw [h, UInt16.xor_self]
    exact stepBits_zero (after.length + 1)

theorem exists_pair_of_count {vs : List Bool} (h : vs.count true = 2) :
    ∃ before between after, vs = before ++ true :: (between ++ true :: after) ∧
      true ∉ before ∧ true ∉ between ∧ true ∉ after := by
  have split (vs : List Bool) (n : Nat) (h : vs.count true = n + 1) :
      ∃ before after, vs = before ++ true :: after ∧ true ∉ before ∧ after.count true = n := by
    have hmem : true ∈ vs := List.count_pos_iff.mp (h ▸ Nat.succ_pos n)
    obtain ⟨before, after, rfl, hbefore⟩ := List.eq_append_cons_of_mem hmem
    refine ⟨before, after, rfl, hbefore, ?_⟩
    rw [List.count_append, List.count_eq_zero_of_not_mem hbefore, List.count_cons_self] at h
    omega
  obtain ⟨before, rest, rfl, hbefore, hrest⟩ := split vs 1 h
  obtain ⟨between, after, rfl, hbetween, hafter⟩ := split rest 0 hrest
  exact ⟨before, between, after, rfl, hbefore, hbetween, List.count_eq_zero.mp hafter⟩

theorem foldl_ne_zero_of_pair {vs : List Bool} (hcount : vs.count true = 2) {start : Nat}
    (hwithin : Within start (start + 32767) vs) : vs.foldl shiftIn 0 ≠ 0 := by
  obtain ⟨before, between, after, rfl, hbefore, hbetween, hafter⟩ := exists_pair_of_count hcount
  rw [ne_eq, foldl_pair_eq_zero_iff hbefore hbetween hafter]
  have hfirst := (hwithin before.length (by simp) (by simp)).1
  have hsecond := (hwithin (before.length + (between.length + 1)) (by simp) (by simp)).2
  exact Nat.not_dvd_of_pos_of_lt (Nat.succ_pos _) (by omega)

-- The nearest two bits that are not noticed.
theorem exists_unnoticed_pair {start total : Nat} (h : start + 32768 ≤ total) :
    ∃ vs : List Bool, vs.length = total ∧ vs.count true = 2 ∧ Within start (start + 32768) vs ∧
      vs.foldl shiftIn 0 = 0 := by
  have hclear (n : Nat) : true ∉ List.replicate n false := by
    rw [List.mem_replicate]
    exact fun hmem => Bool.noConfusion hmem.2
  obtain ⟨gap, hgap⟩ : ∃ gap, gap + 1 = 32767 := ⟨_, rfl⟩
  obtain ⟨rest, rfl⟩ := Nat.exists_eq_add_of_le h
  have hsplit : List.replicate start false ++
        true :: (List.replicate gap false ++ true :: List.replicate rest false) =
      (List.replicate start false ++ true :: (List.replicate gap false ++ [true])) ++
        List.replicate rest false := by
    simp only [List.append_assoc, List.cons_append, List.nil_append]
  have hlength : (List.replicate start false ++
      true :: (List.replicate gap false ++ [true])).length = start + 32768 := by
    simp only [List.length_append, List.length_cons, List.length_replicate, List.length_nil]
    omega
  refine ⟨List.replicate start false ++
    true :: (List.replicate gap false ++ true :: List.replicate rest false), ?_, ?_, ?_, ?_⟩
  · rw [hsplit, List.length_append, hlength, List.length_replicate]
  · simp only [List.count_append, List.count_cons_self, List.count_eq_zero_of_not_mem (hclear _)]
  · apply Within.of_not_mem
    · rw [List.take_left' List.length_replicate]
      exact hclear start
    · rw [hsplit, List.drop_left' hlength]
      exact hclear rest
  · rw [foldl_pair_eq_zero_iff (hclear start) (hclear gap) (hclear rest), List.length_replicate,
      hgap]

end Acquisition.Checksum
