import Mathlib
import Acquisition.Bytes.Lemmas
import Acquisition.Checksum

/-!
# The checksum register, bit by bit

A register takes in the bits of a byte string one at a time (`crc16_eq`), and what it holds is
linear in itself and in these bits (`foldl_shiftIn_xor`). The table-driven checksum is the
bit-serial one (`tableChecksum_eq`), and a byte string with its own checksum behind it leaves the
register empty (`crc16_append_self`).
-/

namespace Acquisition

namespace Bytes

/-- The bits of a byte string, from the lowest of the first byte on. -/
def bits (b : Bytes) : List Bool := b.flatMap fun byte => (List.range 8).map byte.toNat.testBit

theorem bits_cons (byte : UInt8) (b : Bytes) : bits (byte :: b) = bits [byte] ++ bits b := by
  rw [bits, bits, bits, List.flatMap_cons, List.flatMap_singleton]

theorem bits_append (a b : Bytes) : bits (a ++ b) = bits a ++ bits b := List.flatMap_append

@[simp] theorem length_bits (b : Bytes) : b.bits.length = 8 * b.length := by
  simp [bits, Nat.mul_comm]

end Bytes

namespace Checksum

/-! ## Bits of a register -/

def bit (x : UInt16) (i : Nat) : Bool := x.toNat.testBit i

theorem bit_of_le (x : UInt16) {i : Nat} (h : 16 ≤ i) : bit x i = false :=
  Nat.testBit_lt_two_pow (x.toNat_lt.trans_le (Nat.pow_le_pow_right (by decide) h))

theorem eq_of_bit {x y : UInt16} (h : ∀ i < 16, bit x i = bit y i) : x = y := by
  apply UInt16.toNat_inj.mp
  apply Nat.eq_of_testBit_eq
  intro i
  by_cases hi : i < 16
  · exact h i hi
  · exact (bit_of_le x (by omega)).trans (bit_of_le y (by omega)).symm

@[simp] theorem bit_zero (i : Nat) : bit 0 i = false := Nat.zero_testBit i

@[simp] theorem bit_xor (x y : UInt16) (i : Nat) : bit (x ^^^ y) i = (bit x i ^^ bit y i) := by
  rw [bit, UInt16.toNat_xor, Nat.testBit_xor, bit, bit]

theorem bit_shiftRight (x : UInt16) {n : Nat} (hn : n < 16) (i : Nat) :
    bit (x >>> UInt16.ofNat n) i = bit x (i + n) := by
  rw [bit, UInt16.toNat_shiftRight, Nat.testBit_shiftRight,
    UInt16.toNat_ofNat_of_lt' (hn.trans (by decide)), Nat.mod_eq_of_lt hn, Nat.add_comm, bit]

/-- The register that holds the bits `vs`, from its lowest on. -/
def ofBits (vs : List Bool) : UInt16 := UInt16.ofNat (Nat.ofBits fun i : Fin 16 => vs.getD i false)

theorem bit_ofBits {vs : List Bool} (h : vs.length ≤ 16) (i : Nat) :
    bit (ofBits vs) i = vs.getD i false := by
  by_cases hi : i < 16
  · rw [bit, ofBits, UInt16.toNat_ofNat_of_lt' (Nat.ofBits_lt_two_pow _),
      Nat.testBit_ofBits_lt _ i hi]
  · rw [bit_of_le _ (by omega), List.getD_eq_default _ _ (by omega)]

theorem ofBits_bits (byte : UInt8) : ofBits (Bytes.bits [byte]) = byte.toUInt16 := by
  apply eq_of_bit
  intro i _
  rw [bit_ofBits (by simp), bit, UInt8.toNat_toUInt16, Bytes.bits, List.flatMap_singleton]
  by_cases hi : i < 8
  · rw [List.getD_eq_getElem _ _ (by simpa using hi), List.getElem_map, List.getElem_range]
  · rw [List.getD_eq_default _ _ (by simpa using hi), Nat.testBit_lt_two_pow]
    exact byte.toNat_lt.trans_le (Nat.pow_le_pow_right (by decide) (by omega))

/-! ## One step -/

theorem bit_stepBit (x : UInt16) (i : Nat) :
    bit (stepBit x) i = (bit x (i + 1) ^^ (bit x 0 && bit polynomial i)) := by
  have hlow : x &&& 1 ≠ 0 ↔ bit x 0 := by
    have hone : (1 : UInt16).toNat = 1 := rfl
    rw [ne_eq, ← UInt16.toNat_inj, UInt16.toNat_and, hone, Nat.and_one_is_mod, bit,
      Nat.testBit_zero, decide_eq_true_iff, UInt16.toNat_zero]
    omega
  have hshift : bit (x >>> 1) i = bit x (i + 1) := bit_shiftRight x (by decide) i
  rw [stepBit]
  by_cases h : bit x 0
  · rw [if_pos (hlow.mpr h), h, bit_xor, hshift, Bool.true_and]
  · rw [if_neg (mt hlow.mp h), Bool.eq_false_iff.mpr h, hshift, Bool.false_and, Bool.xor_false]

theorem stepBit_xor (x y : UInt16) : stepBit (x ^^^ y) = stepBit x ^^^ stepBit y := by
  apply eq_of_bit
  intro i _
  simp only [bit_stepBit, bit_xor, Bool.and_xor_distrib_right, Bool.xor_assoc, Bool.xor_left_comm]

theorem stepBits_xor (n : Nat) (x y : UInt16) :
    stepBits n (x ^^^ y) = stepBits n x ^^^ stepBits n y := by
  induction n generalizing x y with
  | zero => rfl
  | succ n ih => rw [stepBits, stepBits, stepBits, stepBit_xor, ih]

theorem stepBits_zero (n : Nat) : stepBits n 0 = 0 := by
  induction n with
  | zero => rfl
  | succ n ih => exact ih

-- As long as no set bit leaves a register, its bits only move down.
theorem bit_stepBits_of_low {n : Nat} {x : UInt16} (h : ∀ i < n, bit x i = false) (i : Nat) :
    bit (stepBits n x) i = bit x (i + n) := by
  induction n generalizing x with
  | zero => rfl
  | succ n ih =>
    have hstep (j : Nat) : bit (stepBit x) j = bit x (j + 1) := by
      rw [bit_stepBit, h 0 (by omega), Bool.false_and, Bool.xor_false]
    rw [stepBits, ih fun j hj => by rw [hstep, h _ (by omega)], hstep, Nat.add_assoc]

/-! ## Taking in bits -/

/-- The register after one more bit. -/
def shiftIn (x : UInt16) (v : Bool) : UInt16 := stepBit (x ^^^ ofBits [v])

theorem shiftIn_xor (x y : UInt16) (u v : Bool) :
    shiftIn (x ^^^ y) (u ^^ v) = shiftIn x u ^^^ shiftIn y v := by
  have hbits : ofBits [u ^^ v] = ofBits [u] ^^^ ofBits [v] := by
    cases u <;> cases v <;> rfl
  rw [shiftIn, shiftIn, shiftIn, ← stepBit_xor, hbits]
  ac_rfl

theorem foldl_shiftIn_xor (x y : UInt16) {us vs : List Bool} (h : us.length = vs.length) :
    (List.zipWith xor us vs).foldl shiftIn (x ^^^ y) =
      us.foldl shiftIn x ^^^ vs.foldl shiftIn y := by
  induction us generalizing x y vs with
  | nil =>
    rw [List.length_eq_zero_iff.mp h.symm]
    rfl
  | cons u us ih =>
    cases vs with
    | nil => cases h
    | cons v vs =>
      rw [List.zipWith_cons_cons, List.foldl_cons, shiftIn_xor, ih _ _ (Nat.succ.inj h)]
      rfl

-- Up to 16 bits may also be put in at once.
theorem foldl_shiftIn (x : UInt16) {vs : List Bool} (h : vs.length ≤ 16) :
    vs.foldl shiftIn x = stepBits vs.length (x ^^^ ofBits vs) := by
  induction vs generalizing x with
  | nil => exact UInt16.xor_zero.symm
  | cons v vs ih =>
    have hlen : vs.length + 1 ≤ 16 := h
    have hstep : stepBit (x ^^^ ofBits (v :: vs)) = shiftIn x v ^^^ ofBits vs := by
      apply eq_of_bit
      intro i _
      have hvs : bit (ofBits vs) i = vs.getD i false := bit_ofBits (by omega) i
      have hfirst (j : Nat) : bit (ofBits [v]) j = [v].getD j false := bit_ofBits (by simp) j
      have hall := bit_ofBits h
      simp only [shiftIn, bit_xor, bit_stepBit, hvs, hfirst, hall, List.getD_cons_zero,
        List.getD_cons_succ, List.getD_nil, Bool.xor_false, Bool.xor_right_comm]
    rw [List.foldl_cons, ih _ (by omega), List.length_cons, stepBits, hstep]

theorem stepByte_eq (x : UInt16) (byte : UInt8) :
    stepByte x byte = (Bytes.bits [byte]).foldl shiftIn x := by
  rw [foldl_shiftIn _ (by simp), ofBits_bits, Bytes.length_bits]
  rfl

theorem crc16_eq (data : Bytes) (init : UInt16) :
    crc16 data init = data.bits.foldl shiftIn init := by
  induction data generalizing init with
  | nil => rfl
  | cons byte data ih =>
    have hrest := ih (stepByte init byte)
    rw [stepByte_eq, ← List.foldl_append, ← Bytes.bits_cons] at hrest
    rw [← hrest, ← stepByte_eq]
    rfl

/-! ## A byte at a time from the table -/

theorem getElem_table (byte : UInt8) : table[byte.toFin] = stepBits 8 byte.toUInt16 := by
  rw [table, Fin.getElem_fin, Vector.getElem_ofFn, ← UInt16.ofNat_uInt8ToNat]
  rfl

theorem crc16_singleton (byte : UInt8) : crc16 [byte] 0 = stepBits 8 byte.toUInt16 :=
  congrArg (stepBits 8) UInt16.zero_xor

theorem stepTable_eq (x : UInt16) (byte : UInt8) :
    stepTable x byte = (x >>> 8) ^^^ stepBits 8 (x.toUInt8 ^^^ byte).toUInt16 := by
  rw [stepTable, getElem_table]

-- The low byte of a register goes through the table, and the high byte only moves down.
theorem stepTable_eq_stepByte (x : UInt16) (byte : UInt8) : stepTable x byte = stepByte x byte := by
  have hlow (i : Nat) : bit x.toUInt8.toUInt16 i = (decide (i < 8) && bit x i) := by
    rw [bit, UInt8.toNat_toUInt16, UInt16.toNat_toUInt8]
    exact Nat.testBit_mod_two_pow ..
  have hhigh : stepBits 8 (x ^^^ x.toUInt8.toUInt16) = x >>> 8 := by
    apply eq_of_bit
    intro i _
    rw [bit_stepBits_of_low, bit_xor, hlow]
    · rw [decide_eq_false (by omega), Bool.false_and, Bool.xor_false]
      exact (bit_shiftRight x (by decide) i).symm
    · intro j hj
      rw [bit_xor, hlow, decide_eq_true hj, Bool.true_and, Bool.xor_self]
  have hsplit : x ^^^ byte.toUInt16 =
      (x ^^^ x.toUInt8.toUInt16) ^^^ (x.toUInt8 ^^^ byte).toUInt16 := by
    rw [UInt8.toUInt16_xor, UInt16.xor_assoc, ← UInt16.xor_assoc x.toUInt8.toUInt16,
      UInt16.xor_self, UInt16.zero_xor]
  rw [stepTable_eq, stepByte, hsplit, stepBits_xor, hhigh]

theorem tableChecksum_eq (data : Bytes) (init : UInt16) :
    tableChecksum data init = crc16 data init := by
  rw [tableChecksum, crc16, funext₂ stepTable_eq_stepByte]

/-! ## Behind its own checksum -/

theorem crc16_ofUInt16_self (x : UInt16) : crc16 (Bytes.ofUInt16 x) x = 0 := by
  have hstep (y : UInt16) : stepTable y y.toUInt8 = y >>> 8 := by
    have hzero : (0 : UInt8).toUInt16 = 0 := rfl
    rw [stepTable_eq, UInt8.xor_self, hzero, stepBits_zero, UInt16.xor_zero]
  have hshift (y : UInt16) : (y >>> 8).toNat = y.toNat / 256 := by
    rw [UInt16.toNat_shiftRight, Nat.shiftRight_eq_div_pow]
    rfl
  have hbytes : Bytes.ofUInt16 x = [x.toUInt8, (x >>> 8).toUInt8] := by
    rw [Bytes.ofUInt16, Bytes.ofNat, Bytes.ofNat, Bytes.ofNat, ← hshift, UInt8.ofNat_uInt16ToNat,
      UInt8.ofNat_uInt16ToNat]
  have hgone : x >>> 8 >>> 8 = 0 := by
    have hx := x.toNat_lt
    rw [← UInt16.toNat_inj, hshift, hshift, UInt16.toNat_zero]
    omega
  rw [← tableChecksum_eq, hbytes, tableChecksum, List.foldl_cons, List.foldl_cons, List.foldl_nil,
    hstep, hstep, hgone]

theorem crc16_append_self (data : Bytes) (init : UInt16) :
    crc16 (data ++ Bytes.ofUInt16 (crc16 data init)) init = 0 := by
  rw [crc16_append, crc16_ofUInt16_self]

/-- The entries of the table are the checksums of the single bytes from an empty register. Going by
it is going bit by bit, for the checksum of a frame and from any other register. The checksum can be
continued over several pieces, and what has its own checksum behind it leaves the register empty. -/
theorem checksums_agree :
    (∀ byte : UInt8, table[byte.toFin] = crc16 [byte] 0) ∧
    (∀ data, frameChecksum data = crc16 data initial) ∧
    ∀ (data : Bytes) (init : UInt16),
      tableChecksum data init = crc16 data init ∧
      (∀ rest, crc16 (data ++ rest) init = crc16 rest (crc16 data init)) ∧
      crc16 (data ++ Bytes.ofUInt16 (crc16 data init)) init = 0 := by
  refine ⟨fun byte => ?_, fun data => tableChecksum_eq data initial, fun data init => ?_⟩
  · rw [getElem_table, crc16_singleton]
  · exact ⟨tableChecksum_eq data init, fun rest => crc16_append data rest init,
      crc16_append_self data init⟩

end Checksum

end Acquisition
