import Mathlib
import Acquisition.Bytes

/-!
# Reading back the fields of a byte string

A number that is written and read back keeps its low digits (`toNat_ofNat`), and a field that was
read is written as it stood (`eq_of_takeField?`).
-/

namespace Acquisition.Bytes

theorem toNat_ofNat (width n : Nat) : toNat (ofNat width n) = n % 256 ^ width := by
  induction width generalizing n with
  | zero => simp [ofNat, toNat, Nat.mod_one]
  | succ width ih =>
    rw [ofNat, toNat, ih, UInt8.toNat_ofNat', Nat.pow_succ 256, Nat.mul_comm (256 ^ width),
      Nat.mod_mul]

theorem toNat_lt (bytes : Bytes) : toNat bytes < 256 ^ bytes.length := by
  induction bytes with
  | nil => simp [toNat]
  | cons b rest ih =>
    have hb : b.toNat < 256 := b.toNat_lt
    rw [toNat, List.length_cons, Nat.pow_succ]
    omega

theorem takeField?_of_lt {width n : Nat} (h : n < 256 ^ width) (rest : Bytes) :
    takeField? width (ofNat width n ++ rest) = some (n, rest) := by
  rw [takeField?, if_pos (by simp), List.take_left' (length_ofNat ..),
    List.drop_left' (length_ofNat ..), toNat_ofNat, Nat.mod_eq_of_lt h]

@[simp] theorem takeField?_cons (b : UInt8) (rest : Bytes) :
    takeField? 1 (b :: rest) = some (b.toNat, rest) := by
  rw [takeField?, if_pos (by simp)]
  rfl

@[simp] theorem takeField?_ofUInt16 (v : UInt16) (rest : Bytes) :
    takeField? 2 (ofUInt16 v ++ rest) = some (v.toNat, rest) :=
  takeField?_of_lt v.toNat_lt rest

@[simp] theorem takeField?_ofUInt32 (v : UInt32) (rest : Bytes) :
    takeField? 4 (ofUInt32 v ++ rest) = some (v.toNat, rest) :=
  takeField?_of_lt v.toNat_lt rest

@[simp] theorem takeField?_ofUInt64 (v : UInt64) (rest : Bytes) :
    takeField? 8 (ofUInt64 v ++ rest) = some (v.toNat, rest) :=
  takeField?_of_lt v.toNat_lt rest

theorem length_ofInt16 (v : Int16) : (ofInt16 v).length = 2 := length_ofNat ..

theorem toNat_ofUInt16 (v : UInt16) : toNat (ofUInt16 v) = v.toNat :=
  (toNat_ofNat ..).trans (Nat.mod_eq_of_lt v.toNat_lt)

theorem ofUInt16_injective : Function.Injective ofUInt16 := by
  intro v w h
  apply UInt16.toNat_inj.mp
  rw [← toNat_ofUInt16, h, toNat_ofUInt16]

theorem toNat_ofInt16 (v : Int16) : toNat (ofInt16 v) = v.toUInt16.toNat := toNat_ofUInt16 _

-- A field that was read stands in front of the rest.
theorem eq_of_takeField? {width n : Nat} {bytes rest : Bytes}
    (h : takeField? width bytes = some (n, rest)) :
    n < 256 ^ width ∧ bytes = ofNat width n ++ rest := by
  unfold takeField? at h
  split at h
  · rename_i hwidth
    cases h
    have hlen : (bytes.take width).length = width := List.length_take_of_le hwidth
    have hlt := toNat_lt (bytes.take width)
    have hfield := ofNat_toNat (bytes.take width)
    rw [hlen] at hlt hfield
    exact ⟨hlt, by rw [hfield, List.take_append_drop]⟩
  · cases h

section

variable {n : Nat} {bytes rest : Bytes}

theorem eq_of_takeField?_one (h : takeField? 1 bytes = some (n, rest)) :
    bytes = UInt8.ofNat n :: rest :=
  (eq_of_takeField? h).2

theorem eq_of_takeField?_two (h : takeField? 2 bytes = some (n, rest)) :
    bytes = ofUInt16 (.ofNat n) ++ rest := by
  obtain ⟨hlt, hbytes⟩ := eq_of_takeField? h
  rw [ofUInt16, UInt16.toNat_ofNat_of_lt' hlt, hbytes]

theorem eq_of_takeField?_four (h : takeField? 4 bytes = some (n, rest)) :
    bytes = ofUInt32 (.ofNat n) ++ rest := by
  obtain ⟨hlt, hbytes⟩ := eq_of_takeField? h
  rw [ofUInt32, UInt32.toNat_ofNat_of_lt' hlt, hbytes]

theorem eq_of_takeField?_eight (h : takeField? 8 bytes = some (n, rest)) :
    bytes = ofUInt64 (.ofNat n) ++ rest := by
  obtain ⟨hlt, hbytes⟩ := eq_of_takeField? h
  rw [ofUInt64, UInt64.toNat_ofNat_of_lt' hlt, hbytes]

end

theorem ofUInt16_toNat {bytes : Bytes} (h : bytes.length = 2) :
    ofUInt16 (UInt16.ofNat (toNat bytes)) = bytes := by
  have hlt := toNat_lt bytes
  have hbytes := ofNat_toNat bytes
  rw [h] at hlt hbytes
  rw [ofUInt16, UInt16.toNat_ofNat_of_lt' hlt, hbytes]

theorem ofInt16_toInt16 {bytes : Bytes} (h : bytes.length = 2) :
    ofInt16 (UInt16.ofNat (toNat bytes)).toInt16 = bytes := by
  rw [ofInt16, UInt16.toUInt16_toInt16, ofUInt16_toNat h]

-- Writing just after a known front keeps the front.
theorem overwrite_append (front rest bytes : Bytes) :
    (front ++ rest).overwrite front.length bytes = front ++ bytes ++ rest.drop bytes.length := by
  rw [overwrite, List.take_left, List.drop_append, List.drop_eq_nil_of_le (by omega),
    List.nil_append, Nat.add_sub_cancel_left]

theorem overwrite_zero (buffer bytes : Bytes) :
    buffer.overwrite 0 bytes = bytes ++ buffer.drop bytes.length :=
  overwrite_append [] buffer bytes

end Acquisition.Bytes
