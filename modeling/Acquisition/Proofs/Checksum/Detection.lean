import Mathlib
import Acquisition.Proofs.Checksum.Register

/-!
# Errors that a checksum detects

Two byte strings that leave the same register behind differ in bits that a register takes in
without a trace (`foldl_flips`). Such bits are even in number, and they are spread over more than
16 positions.
-/

namespace Acquisition

/-! ## Differing bits -/

/-- All bits that are set stand at positions from `start` up to `stop`. -/
def Within (start stop : Nat) (vs : List Bool) : Prop :=
  ∀ i, (h : i < vs.length) → vs[i] = true → start ≤ i ∧ i < stop

instance (start stop : Nat) (vs : List Bool) : Decidable (Within start stop vs) :=
  inferInstanceAs (Decidable (∀ i, (h : i < vs.length) → _))

namespace Within

variable {start stop : Nat} {vs : List Bool}

theorem not_mem_take (h : Within start stop vs) : true ∉ vs.take start := by
  intro hmem
  obtain ⟨i, hi, hset⟩ := List.getElem_of_mem hmem
  rw [List.length_take] at hi
  rw [List.getElem_take] at hset
  have hstart := (h i (by omega) hset).1
  omega

theorem not_mem_drop (h : Within start stop vs) : true ∉ vs.drop stop := by
  intro hmem
  obtain ⟨i, hi, hset⟩ := List.getElem_of_mem hmem
  rw [List.length_drop] at hi
  rw [List.getElem_drop] at hset
  have hstop := (h (stop + i) (by omega) hset).2
  omega

theorem of_not_mem (hbefore : true ∉ vs.take start) (hafter : true ∉ vs.drop stop) :
    Within start stop vs := by
  intro i hi hset
  constructor
  · by_contra hlow
    apply hbefore
    rw [← hset]
    exact List.mem_take_iff_getElem.mpr ⟨i, by omega, rfl⟩
  · by_contra hhigh
    apply hafter
    rw [← hset]
    exact List.mem_drop_iff_getElem.mpr ⟨i - stop, by omega, by congr 1; omega⟩

end Within

namespace Bytes

/-- Which bits differ between two byte strings of one length. -/
def flips (a b : Bytes) : List Bool := List.zipWith xor a.bits b.bits

theorem length_flips {a b : Bytes} (h : b.length = a.length) :
    (flips a b).length = 8 * a.length := by
  rw [flips, List.length_zipWith, length_bits, length_bits, h, Nat.min_self]

theorem flips_append {a a' : Bytes} (h : a'.length = a.length) (b b' : Bytes) :
    flips (a ++ b) (a' ++ b') = flips a a' ++ flips b b' := by
  rw [flips, bits_append, bits_append, List.zipWith_append (by rw [length_bits, length_bits, h])]
  rfl

theorem bits_injective : Function.Injective bits := by
  intro a b h
  induction a generalizing b with
  | nil =>
    have hlen := congrArg List.length h
    rw [length_bits, length_bits, List.length_nil] at hlen
    exact (List.length_eq_zero_iff.mp (by omega)).symm
  | cons byte a ih =>
    cases b with
    | nil =>
      have hlen := congrArg List.length h
      rw [length_bits, length_bits] at hlen
      simp at hlen
    | cons byte' b =>
      rw [bits_cons, bits_cons byte'] at h
      obtain ⟨hbyte, hrest⟩ := List.append_inj h (by simp)
      have hvalue := congrArg Checksum.ofBits hbyte
      rw [Checksum.ofBits_bits, Checksum.ofBits_bits, UInt8.toUInt16_inj] at hvalue
      rw [hvalue, ih hrest]

theorem eq_of_not_mem_flips {a b : Bytes} (hlen : b.length = a.length) (h : true ∉ flips a b) :
    a = b := by
  apply bits_injective
  apply List.ext_getElem
  · rw [length_bits, length_bits, hlen]
  · intro i ha hb
    have hi : i < (flips a b).length := by rwa [length_flips hlen, ← length_bits]
    have hsame : (flips a b)[i] ≠ true := fun hset => h (hset ▸ List.getElem_mem hi)
    simpa [flips] using hsame

theorem flips_take_drop {a b : Bytes} (hlen : b.length = a.length) {k : Nat} (hk : k ≤ a.length) :
    flips (a.take k) (b.take k) = (flips a b).take (8 * k) ∧
      flips (a.drop k) (b.drop k) = (flips a b).drop (8 * k) := by
  have htake : (b.take k).length = (a.take k).length := by
    rw [List.length_take, List.length_take, hlen]
  have hfirst : (flips (a.take k) (b.take k)).length = 8 * k := by
    rw [length_flips htake, List.length_take, Nat.min_eq_left hk]
  have happend := flips_append htake (a.drop k) (b.drop k)
  rw [List.take_append_drop, List.take_append_drop] at happend
  rw [happend, List.take_left' hfirst, List.drop_left' hfirst]
  exact ⟨rfl, rfl⟩

-- Bytes outside of the differing bits are the same.
theorem take_eq_of_within {a b : Bytes} (hlen : b.length = a.length) {k stop : Nat}
    (hk : k ≤ a.length) (h : Within (8 * k) stop (flips a b)) : a.take k = b.take k := by
  apply eq_of_not_mem_flips (by rw [List.length_take, List.length_take, hlen])
  rw [(flips_take_drop hlen hk).1]
  exact h.not_mem_take

theorem drop_eq_of_within {a b : Bytes} (hlen : b.length = a.length) {k start : Nat}
    (hk : k ≤ a.length) (h : Within start (8 * k) (flips a b)) : a.drop k = b.drop k := by
  apply eq_of_not_mem_flips (by rw [List.length_drop, List.length_drop, hlen])
  rw [(flips_take_drop hlen hk).2]
  exact h.not_mem_drop

-- Any bits of a byte string can be changed.
theorem exists_bits {vs : List Bool} (h : vs.length = 8) : ∃ byte : UInt8, bits [byte] = vs := by
  have hlt : Nat.ofBits (fun i : Fin 8 => vs.getD i false) < 2 ^ 8 := Nat.ofBits_lt_two_pow _
  refine ⟨UInt8.ofNat (Nat.ofBits fun i : Fin 8 => vs.getD i false), ?_⟩
  apply List.ext_getElem
  · rw [length_bits, List.length_singleton, h]
  · intro i hi hvs
    have hbit : i < 8 := h ▸ hvs
    simp only [bits, List.flatMap_singleton, List.getElem_map, List.getElem_range]
    rw [UInt8.toNat_ofNat_of_lt' hlt, Nat.testBit_ofBits_lt _ i hbit, List.getD_eq_getElem _ _ hvs]

theorem exists_flips (a : Bytes) {vs : List Bool} (h : vs.length = 8 * a.length) :
    ∃ b : Bytes, b.length = a.length ∧ flips a b = vs := by
  have hxor (byte m : UInt8) : flips [byte] [byte ^^^ m] = bits [m] := by
    simp only [flips, bits, List.flatMap_singleton, List.zipWith_map, List.zipWith_self]
    apply List.map_congr_left
    intro i _
    rw [UInt8.toNat_xor, Nat.testBit_xor, ← Bool.xor_assoc, Bool.xor_self, Bool.false_xor]
  induction a generalizing vs with
  | nil => exact ⟨[], rfl, (List.length_eq_zero_iff.mp h).symm⟩
  | cons byte a ih =>
    rw [List.length_cons] at h
    have hfirst : (vs.take 8).length = 8 := by
      rw [List.length_take]
      omega
    have hrest : (vs.drop 8).length = 8 * a.length := by
      rw [List.length_drop]
      omega
    obtain ⟨m, hm⟩ := exists_bits hfirst
    obtain ⟨b, hlen, hb⟩ := ih hrest
    have hone : [byte ^^^ m].length = [byte].length := rfl
    have hflips := flips_append hone a b
    rw [hxor, hm, hb, List.take_append_drop] at hflips
    exact ⟨(byte ^^^ m) :: b, congrArg (· + 1) hlen, hflips⟩

theorem not_mem_flips_self (a : Bytes) : true ∉ flips a a := by
  rw [flips, List.zipWith_self, List.mem_map]
  rintro ⟨v, -, hv⟩
  rw [Bool.xor_self] at hv
  cases hv

theorem within_flips {a b : Bytes} (hlen : b.length = a.length) {k m : Nat} (hk : k ≤ a.length)
    (hm : m ≤ a.length) (hfirst : a.take k = b.take k) (hlast : a.drop m = b.drop m) :
    Within (8 * k) (8 * m) (flips a b) := by
  apply Within.of_not_mem
  · rw [← (flips_take_drop hlen hk).1, hfirst]
    exact not_mem_flips_self _
  · rw [← (flips_take_drop hlen hm).2, hlast]
    exact not_mem_flips_self _

end Bytes

namespace Checksum

theorem foldl_flips {a b : Bytes} (h : b.length = a.length) (init : UInt16) :
    (Bytes.flips a b).foldl shiftIn 0 = crc16 a init ^^^ crc16 b init := by
  have hlen : a.bits.length = b.bits.length := by rw [Bytes.length_bits, Bytes.length_bits, h]
  have hxor := foldl_shiftIn_xor init init hlen
  rwa [UInt16.xor_self, ← crc16_eq, ← crc16_eq] at hxor

/-! ## Their number -/

/-- Whether an odd number of the `n` lowest bits is set. -/
def isOdd (x : UInt16) : Nat → Bool
  | 0 => false
  | n + 1 => isOdd x n ^^ bit x n

theorem isOdd_xor (x y : UInt16) (n : Nat) : isOdd (x ^^^ y) n = (isOdd x n ^^ isOdd y n) := by
  induction n with
  | zero => rfl
  | succ n ih =>
    simp only [isOdd, ih, bit_xor, Bool.xor_assoc, Bool.xor_left_comm]

-- A bit that leaves brings in the polynomial, which has an odd number of bits.
theorem isOdd_stepBit (x : UInt16) : isOdd (stepBit x) 16 = isOdd x 16 := by
  have hbits (n : Nat) : isOdd (stepBit x) n =
      (isOdd x (n + 1) ^^ (bit x 0 ^^ (bit x 0 && isOdd polynomial n))) := by
    induction n with
    | zero => simp [isOdd]
    | succ n ih =>
      have hnext : isOdd polynomial (n + 1) = (isOdd polynomial n ^^ bit polynomial n) := rfl
      rw [isOdd, ih, bit_stepBit, isOdd, isOdd, isOdd, hnext, Bool.and_xor_distrib_left]
      simp only [Bool.xor_assoc, Bool.xor_left_comm]
  have hpolynomial : isOdd polynomial 16 = true := by decide
  rw [hbits, hpolynomial, isOdd, bit_of_le x le_rfl, Bool.and_true, Bool.xor_self, Bool.xor_false,
    Bool.xor_false]

theorem isOdd_shiftIn (x : UInt16) (v : Bool) : isOdd (shiftIn x v) 16 = (isOdd x 16 ^^ v) := by
  have hbit : isOdd (ofBits [v]) 16 = v := by cases v <;> decide
  rw [shiftIn, isOdd_stepBit, isOdd_xor, hbit]

theorem isOdd_foldl (x : UInt16) (vs : List Bool) :
    isOdd (vs.foldl shiftIn x) 16 = (isOdd x 16 ^^ decide (Odd (vs.count true))) := by
  induction vs generalizing x with
  | nil => simp
  | cons v vs ih =>
    rw [List.foldl_cons, ih, isOdd_shiftIn, Bool.xor_assoc]
    cases v with
    | false => rw [List.count_cons_of_ne (by decide), Bool.false_xor]
    | true =>
      rw [List.count_cons_self, Bool.true_xor, ← decide_not]
      simp only [Nat.odd_add_one]

theorem even_count_of_foldl {vs : List Bool} (h : vs.foldl shiftIn 0 = 0) :
    Even (vs.count true) := by
  have hodd := isOdd_foldl 0 vs
  have hzero : isOdd 0 16 = false := by decide
  rw [h, hzero, Bool.false_xor] at hodd
  rw [← Nat.not_odd_iff_even]
  exact of_decide_eq_false hodd.symm

/-! ## Their spread -/

-- The polynomial has the highest bit, so a set bit does not leave unnoticed.
theorem stepBit_eq_zero {x : UInt16} (h : stepBit x = 0) : x = 0 := by
  have hbits (i : Nat) : (bit x (i + 1) ^^ (bit x 0 && bit polynomial i)) = false := by
    rw [← bit_stepBit, h, bit_zero]
  have htop : bit polynomial 15 = true := by decide
  have hlow : bit x 0 = false := by
    have hlast := hbits 15
    rwa [bit_of_le x le_rfl, htop, Bool.false_xor, Bool.and_true] at hlast
  apply eq_of_bit
  intro i _
  have hclear : bit x i = false := by
    cases i with
    | zero => exact hlow
    | succ i => simpa [hlow] using hbits i
  rw [hclear, bit_zero]

theorem stepBits_eq_zero {n : Nat} {x : UInt16} (h : stepBits n x = 0) : x = 0 := by
  induction n generalizing x with
  | zero => exact h
  | succ n ih => exact stepBit_eq_zero (ih h)

theorem foldl_shiftIn_of_not_mem (x : UInt16) {vs : List Bool} (h : true ∉ vs) :
    vs.foldl shiftIn x = stepBits vs.length x := by
  induction vs generalizing x with
  | nil => rfl
  | cons v vs ih =>
    rw [List.mem_cons, not_or] at h
    obtain ⟨hv, hvs⟩ := h
    have hclear : shiftIn x v = stepBit x := by
      rw [Bool.eq_false_iff.mpr (Ne.symm hv), shiftIn]
      exact congrArg stepBit UInt16.xor_zero
    rw [List.foldl_cons, hclear, ih _ hvs, List.length_cons, stepBits]

-- Bits that fit into the register together are still there when they have all been taken in.
theorem not_mem_of_within {vs : List Bool} (hzero : vs.foldl shiftIn 0 = 0) {start : Nat}
    (hwithin : Within start (start + 16) vs) : true ∉ vs := by
  have hbefore := hwithin.not_mem_take
  have hafter := hwithin.not_mem_drop
  rw [← List.drop_drop] at hafter
  generalize hmiddle : (vs.drop start).take 16 = middle
  have hlen : middle.length ≤ 16 := by rw [← hmiddle, List.length_take]; omega
  have hsplit : vs = vs.take start ++ (middle ++ (vs.drop start).drop 16) := by
    rw [← hmiddle, List.take_append_drop, List.take_append_drop]
  rw [hsplit, List.foldl_append, List.foldl_append, foldl_shiftIn_of_not_mem _ hbefore,
    stepBits_zero, foldl_shiftIn_of_not_mem _ hafter, foldl_shiftIn _ hlen,
    UInt16.zero_xor] at hzero
  have hbits := stepBits_eq_zero (stepBits_eq_zero hzero)
  have hclear : true ∉ middle := by
    intro hmem
    obtain ⟨i, hi, hset⟩ := List.getElem_of_mem hmem
    have hbit := bit_ofBits hlen i
    rw [hbits, bit_zero, List.getD_eq_getElem _ _ hi, hset] at hbit
    cases hbit
  rw [hsplit]
  simp only [List.mem_append, not_or]
  exact ⟨hbefore, hclear, hafter⟩

/-! ## Among the same bytes -/

-- Only its own checksum takes a register back to zero.
theorem crc16_ofUInt16_eq_zero_iff {c x : UInt16} : crc16 (Bytes.ofUInt16 c) x = 0 ↔ c = x := by
  constructor
  · intro h
    have hsize : (Bytes.ofUInt16 x).length = (Bytes.ofUInt16 c).length := rfl
    have hzero : (Bytes.flips (Bytes.ofUInt16 c) (Bytes.ofUInt16 x)).foldl shiftIn 0 = 0 := by
      rw [foldl_flips hsize x, h, crc16_ofUInt16_self, UInt16.xor_self]
    have hlen : (Bytes.flips (Bytes.ofUInt16 c) (Bytes.ofUInt16 x)).length = 16 :=
      Bytes.length_flips hsize
    have hwithin : Within 0 (0 + 16) (Bytes.flips (Bytes.ofUInt16 c) (Bytes.ofUInt16 x)) :=
      fun i hi _ => ⟨Nat.zero_le i, by omega⟩
    exact Bytes.ofUInt16_injective
      (Bytes.eq_of_not_mem_flips hsize (not_mem_of_within hzero hwithin))
  · rintro rfl
    exact crc16_ofUInt16_self c

-- What is the same before and behind differing bytes does not matter.
theorem foldl_flips_between {b b' : Bytes} (h : b'.length = b.length) (a c : Bytes)
    (init : UInt16) :
    (Bytes.flips (a ++ b ++ c) (a ++ b' ++ c)).foldl shiftIn 0 = 0 ↔
      crc16 b init = crc16 b' init := by
  have hsize : (a ++ b').length = (a ++ b).length := by
    rw [List.length_append, h, List.length_append]
  rw [Bytes.flips_append hsize, Bytes.flips_append rfl, List.foldl_append, List.foldl_append,
    foldl_shiftIn_of_not_mem _ (Bytes.not_mem_flips_self a), stepBits_zero, foldl_flips h init,
    foldl_shiftIn_of_not_mem _ (Bytes.not_mem_flips_self c)]
  constructor
  · intro hzero
    exact UInt16.xor_eq_zero_iff.mp (stepBits_eq_zero hzero)
  · intro hsame
    rw [hsame, UInt16.xor_self, stepBits_zero]

end Checksum

end Acquisition
