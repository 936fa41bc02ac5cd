/-!
# Byte strings

Bytes are lists. Numbers on the link are little-endian fields of a fixed width: `ofNat` writes one,
`toNat` reads one, and writing what was read gives it back (`ofNat_toNat`).
-/

namespace Acquisition

abbrev Bytes := List UInt8

namespace Bytes

/-- The `width` low base-256 digits of `n`, least significant first; higher digits are dropped. -/
def ofNat : (width n : Nat) → Bytes
  | 0, _ => []
  | width + 1, n => UInt8.ofNat n :: ofNat width (n / 256)

def toNat : Bytes → Nat
  | [] => 0
  | b :: rest => b.toNat + 256 * toNat rest

@[simp] theorem length_ofNat (width n : Nat) : (ofNat width n).length = width := by
  induction width generalizing n with
  | zero => rfl
  | succ width ih => simp [ofNat, ih]

theorem ofNat_toNat (bytes : Bytes) : ofNat bytes.length (toNat bytes) = bytes := by
  induction bytes with
  | nil => rfl
  | cons b rest ih =>
    have hb : b.toNat < 256 := b.toNat_lt
    have hdiv : (b.toNat + 256 * toNat rest) / 256 = toNat rest := by omega
    rw [List.length_cons, toNat, ofNat, hdiv, ih]
    congr 1
    apply UInt8.toNat_inj.mp
    rw [UInt8.toNat_ofNat']
    omega

/-- Cuts a field of `width` bytes off the front. -/
def takeField? (width : Nat) (bytes : Bytes) : Option (Nat × Bytes) :=
  if width ≤ bytes.length then some (toNat (bytes.take width), bytes.drop width) else none

def ofUInt16 (v : UInt16) : Bytes := ofNat 2 v.toNat

def ofUInt32 (v : UInt32) : Bytes := ofNat 4 v.toNat

def ofUInt64 (v : UInt64) : Bytes := ofNat 8 v.toNat

/-- Two's complement, as every signed field on the link. -/
def ofInt16 (v : Int16) : Bytes := ofUInt16 v.toUInt16

/-- Puts `bytes` over those that stand at `offset` in `buffer`. Callers keep them inside it. -/
def overwrite (buffer : Bytes) (offset : Nat) (bytes : Bytes) : Bytes :=
  buffer.take offset ++ bytes ++ buffer.drop (offset + bytes.length)

end Bytes

end Acquisition
