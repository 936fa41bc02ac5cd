import Mathlib
import Acquisition.Command
import Acquisition.Proofs.Checksum.Period
import Acquisition.Proofs.Frame.Format

/-!
# Corrupted frames

A frame in which an odd number of bits is changed, or only bits that stand within 16 positions, is
not read as a frame (`decode_corrupted`). Nor is one in which two bits are changed, if it is not too
long (`decode_two_flips`, `exists_two_flips_decode`). Markers and length are checked on their own,
and what they let through differs in what the checksum covers, where a register has to notice it
(`exists_decode_iff`).
-/

namespace Acquisition.Frame

/-! ## Frames of one size -/

/-- The part of a frame that its length field counts. -/
def covered (f : Frame) : Bytes := f.body ++ Bytes.ofUInt16 (Checksum.frameChecksum f.body)

theorem length_covered (f : Frame) : f.covered.length = fixedLength + f.payload.length := by
  rw [covered, List.length_append, Bytes.ofUInt16, Bytes.length_ofNat, body, List.length_cons,
    List.length_cons, fixedLength]
  omega

theorem crc16_covered (f : Frame) : Checksum.crc16 f.covered Checksum.initial = 0 := by
  rw [covered, Checksum.frameChecksum, Checksum.tableChecksum_eq, Checksum.crc16_append_self]

theorem ten_le_length_wire (f : Frame) : 10 ≤ f.wire.length := by
  rw [f.length_wire, wireSize_eq]
  omega

-- Markers and length of frames of one size are the same.
theorem within_flips_wire {f g : Frame} (hf : f.Fits) (hg : g.Fits)
    (h : g.wire.length = f.wire.length) :
    Within (8 * 4) (8 * (f.wire.length - 2)) (Bytes.flips f.wire g.wire) := by
  have hten := f.ten_le_length_wire
  have hlength : f.raw.length = g.raw.length := by
    rw [f.length_wire, g.length_wire, wireSize_eq, wireSize_eq] at h
    rw [raw, raw, Nat.add_left_cancel h]
  rw [← bytes_raw hf] at hten h ⊢
  rw [← bytes_raw hg] at h ⊢
  apply Bytes.within_flips h (by omega) (by omega)
  · rw [Raw.take_bytes_four, Raw.take_bytes_four, hlength]
    rfl
  · rw [Raw.drop_bytes_tail, ← h, Raw.drop_bytes_tail]
    rfl

-- A change of neither the first four bytes nor the last two leaves markers and length.
theorem exists_raw_of_within {f : Frame} {input : Bytes} (hfits : f.Fits)
    (hlen : input.length = f.wire.length)
    (hwithin : Within (8 * 4) (8 * (f.wire.length - 2)) (Bytes.flips f.wire input)) :
    ∃ r : Raw, r.bytes = input ∧ r.head = f.raw.head ∧ r.length = f.raw.length ∧
      r.tail = f.raw.tail := by
  have hten := f.ten_le_length_wire
  have hfirst := Bytes.take_eq_of_within hlen (by omega) hwithin
  have hlast := Bytes.drop_eq_of_within hlen (by omega) hwithin
  obtain ⟨r, rfl⟩ := Raw.exists_bytes (hlen ▸ hten)
  rw [← bytes_raw hfits] at hlen hfirst hlast
  rw [Raw.take_bytes_four, r.take_bytes_four] at hfirst
  rw [f.raw.drop_bytes_tail, ← hlen, r.drop_bytes_tail] at hlast
  obtain ⟨hhead, hlength⟩ := List.append_inj hfirst rfl
  have hmark {a b : UInt8 × UInt8} (h : [a.1, a.2] = [b.1, b.2]) : b = a := by
    simpa [Prod.ext_iff, eq_comm] using h
  exact ⟨r, rfl, hmark hhead, (Bytes.ofUInt16_injective hlength).symm, hmark hlast⟩

-- Then only the checksum can be wrong, and it is if a register notices the change.
theorem decode_of_within {f : Frame} {input : Bytes} (hfits : f.Fits)
    (hlen : input.length = f.wire.length)
    (hwithin : Within (8 * 4) (8 * (f.wire.length - 2)) (Bytes.flips f.wire input)) :
    ((Bytes.flips f.wire input).foldl Checksum.shiftIn 0 = 0 → ∃ g, decode input = .ok g) ∧
      ((Bytes.flips f.wire input).foldl Checksum.shiftIn 0 ≠ 0 →
        ∃ stored actual, decode input = .error (.checksumMismatch stored actual)) := by
  obtain ⟨r, rfl, hhead, hlength, htail⟩ := exists_raw_of_within hfits hlen hwithin
  have hcounted : 6 + r.length.toNat = r.bytes.length := by
    rw [hlength, length_raw hfits, bytes_raw hfits, hlen]
  have hcovered : f.raw.body ++ Bytes.ofUInt16 f.raw.checksum = f.covered := rfl
  have hsize : (r.body ++ Bytes.ofUInt16 r.checksum).length = f.covered.length := by
    rw [f.length_wire, wireSize_eq, r.length_bytes] at hlen
    rw [length_covered, List.length_append, Bytes.ofUInt16, Bytes.length_ofNat, Raw.body,
      List.length_cons, List.length_cons, fixedLength]
    omega
  have hunnoticed : (Bytes.flips f.wire r.bytes).foldl Checksum.shiftIn 0 = 0 ↔
      r.checksum = Checksum.frameChecksum r.body := by
    rw [← bytes_raw hfits, Raw.bytes_eq, r.bytes_eq, hhead, hlength, htail, hcovered,
      Checksum.foldl_flips_between hsize _ _ Checksum.initial, crc16_covered, eq_comm,
      Checksum.crc16_append, Checksum.crc16_ofUInt16_eq_zero_iff, Checksum.frameChecksum,
      Checksum.tableChecksum_eq]
  rw [ne_eq, hunnoticed, decode_bytes, Raw.verdict_of_delimited hhead htail hcounted]
  constructor
  · intro hsame
    exact ⟨_, if_neg (not_not.mpr hsame)⟩
  · intro hdiffer
    exact ⟨_, _, if_pos hdiffer⟩

/-! ## Changes that are found -/

/-- A change of a frame is not found if it stays within what the checksum covers and a register does
not notice it there, and any other change is. -/
theorem exists_decode_iff {wire input : Bytes} (hwire : Written wire)
    (hlen : input.length = wire.length) :
    (∃ g, decode input = .ok g) ↔
      Within (8 * 4) (8 * (wire.length - 2)) (Bytes.flips wire input) ∧
        (Bytes.flips wire input).foldl Checksum.shiftIn 0 = 0 := by
  obtain ⟨f, hfits, rfl⟩ := written_iff.mp hwire
  constructor
  · rintro ⟨g, hg⟩
    have hwithin : Within (8 * 4) (8 * (f.wire.length - 2)) (Bytes.flips f.wire input) := by
      obtain ⟨hfits', rfl⟩ := wire_of_decode hg
      exact within_flips_wire hfits hfits' hlen
    refine ⟨hwithin, ?_⟩
    by_contra hnoticed
    obtain ⟨stored, actual, hmismatch⟩ := (decode_of_within hfits hlen hwithin).2 hnoticed
    rw [hg] at hmismatch
    cases hmismatch
  · rintro ⟨hwithin, hzero⟩
    exact (decode_of_within hfits hlen hwithin).1 hzero

theorem decode_of_noticed {wire input : Bytes} (hwire : Written wire)
    (hlen : input.length = wire.length)
    (hnoticed : Within (8 * 4) (8 * (wire.length - 2)) (Bytes.flips wire input) →
      (Bytes.flips wire input).foldl Checksum.shiftIn 0 ≠ 0) :
    ∃ e, decode input = .error e ∧
      (Within (8 * 4) (8 * (wire.length - 2)) (Bytes.flips wire input) →
        ∃ stored actual, e = .checksumMismatch stored actual) := by
  by_cases hwithin : Within (8 * 4) (8 * (wire.length - 2)) (Bytes.flips wire input)
  · obtain ⟨f, hfits, rfl⟩ := written_iff.mp hwire
    obtain ⟨stored, actual, hmismatch⟩ :=
      (decode_of_within hfits hlen hwithin).2 (hnoticed hwithin)
    exact ⟨_, hmismatch, fun _ => ⟨stored, actual, rfl⟩⟩
  · cases hdecode : decode input with
    | ok g => exact absurd ((exists_decode_iff hwire hlen).mp ⟨g, hdecode⟩).1 hwithin
    | error e => exact ⟨e, rfl, fun h => absurd h hwithin⟩

theorem decode_of_foldl_flips_ne {wire input : Bytes} (hwire : Written wire)
    (hlen : input.length = wire.length)
    (hflips : (Bytes.flips wire input).foldl Checksum.shiftIn 0 ≠ 0) :
    ∃ e, decode input = .error e ∧
      (Within (8 * 4) (8 * (wire.length - 2)) (Bytes.flips wire input) →
        ∃ stored actual, e = .checksumMismatch stored actual) :=
  decode_of_noticed hwire hlen fun _ => hflips

/-- An odd number of bits is set, or some are and they are all within 16 positions. -/
def OddOrBurst (vs : List Bool) : Prop :=
  Odd (vs.count true) ∨ true ∈ vs ∧ ∃ start, Within start (start + 16) vs

/-- In a frame of any size, changes of an odd number of bits and changes within 16 consecutive bits
are refused. Where they are all between the command and the end of the checksum it is the checksum
that does not match. The buffer for the payload stays as it is. -/
theorem decode_corrupted {wire input : Bytes} (hwire : Written wire)
    (hlen : input.length = wire.length) (hflips : OddOrBurst (Bytes.flips wire input)) :
    ∃ e, decode input = .error e ∧
      (Within (8 * 4) (8 * (wire.length - 2)) (Bytes.flips wire input) →
        ∃ stored actual, e = .checksumMismatch stored actual) ∧
      ∀ buffer : Bytes, parseInto input buffer = (.error e, buffer) := by
  have hnoticed : (Bytes.flips wire input).foldl Checksum.shiftIn 0 ≠ 0 := by
    intro hzero
    rcases hflips with hodd | ⟨hset, start, hwithin⟩
    · exact Nat.not_odd_iff_even.mpr (Checksum.even_count_of_foldl hzero) hodd
    · exact Checksum.not_mem_of_within hzero hwithin hset
  obtain ⟨e, hdecode, hmismatch⟩ := decode_of_foldl_flips_ne hwire hlen hnoticed
  refine ⟨e, hdecode, hmismatch, fun buffer => ?_⟩
  rw [parseInto, hdecode]

-- The last payload bits and the first bits of the checksum, over 16 positions in three bytes.
theorem decode_corrupted_burst :
    let wire := Frame.wire ⟨Command.ping, 7, [1, 2, 3]⟩
    let input := wire.set 8 (wire.getD 8 0 ^^^ 0x80) |>.set 9 (wire.getD 9 0 ^^^ 0x01)
      |>.set 10 (wire.getD 10 0 ^^^ 0x40)
    Within 71 87 (Bytes.flips wire input) ∧
      ∃ stored actual, decode input = .error (.checksumMismatch stored actual) := by
  intro wire input
  have hwithin : Within 71 (71 + 16) (Bytes.flips wire input) := by decide +kernel
  obtain ⟨e, hdecode, hmismatch, -⟩ := @decode_corrupted wire input
    (written_iff.mpr ⟨_, by decide, rfl⟩) (by decide +kernel)
    (.inr ⟨by decide +kernel, 71, hwithin⟩)
  obtain ⟨stored, actual, rfl⟩ := hmismatch (by decide +kernel)
  exact ⟨hwithin, stored, actual, hdecode⟩

/-- In a frame with a payload of at most 4091 bytes, changes of two bits are refused. Where both are
between the command and the end of the checksum it is the checksum that does not match: these are
at most 32760 bits, and a register is not back at the first one before 32767. -/
theorem decode_two_flips {f : Frame} {wire input : Bytes} (hwire : f.Encodes wire)
    (hpayload : f.payload.length ≤ 4091) (hlen : input.length = wire.length)
    (hflips : (Bytes.flips wire input).count true = 2) :
    ∃ e, decode input = .error e ∧
      (Within (8 * 4) (8 * (wire.length - 2)) (Bytes.flips wire input) →
        ∃ stored actual, e = .checksumMismatch stored actual) := by
  have hsize : wire.length = 10 + f.payload.length := by
    rw [(encodes_iff.mp hwire).2, f.length_wire, wireSize_eq]
  apply decode_of_noticed ⟨f, hwire⟩ hlen
  intro hwithin
  have hnear : Within (8 * 4) (8 * 4 + 32767) (Bytes.flips wire input) := by
    intro i hi hset
    obtain ⟨hfrom, hto⟩ := hwithin i hi hset
    exact ⟨hfrom, by omega⟩
  exact Checksum.foldl_ne_zero_of_pair hflips hnear

-- The lowest bit of the command and the highest one of the checksum, the farthest that two can be.
theorem decode_two_flips_far :
    let f : Frame := ⟨Command.ping, 7, [1, 2, 3]⟩
    let input := f.wire.set 4 (f.wire.getD 4 0 ^^^ 0x01) |>.set 10 (f.wire.getD 10 0 ^^^ 0x80)
    (Bytes.flips f.wire input)[32]? = some true ∧ (Bytes.flips f.wire input)[87]? = some true ∧
      ∃ stored actual, decode input = .error (.checksumMismatch stored actual) := by
  intro f input
  obtain ⟨e, hdecode, hmismatch⟩ := @decode_two_flips f f.wire input
    (encodes_iff.mpr ⟨by decide, rfl⟩) (by decide) (by decide +kernel) (by decide +kernel)
  obtain ⟨stored, actual, rfl⟩ := hmismatch (by decide +kernel)
  exact ⟨by decide +kernel, by decide +kernel, stored, actual, hdecode⟩

/-- In every frame with a longer payload there are two bits that can be changed so that a frame is
read: the first one behind the length, and the one 32767 positions after it. -/
theorem exists_two_flips_decode {f : Frame} {wire : Bytes} (hwire : f.Encodes wire)
    (hpayload : 4091 < f.payload.length) :
    ∃ input : Bytes, input.length = wire.length ∧ (Bytes.flips wire input).count true = 2 ∧
      ∃ g, decode input = .ok g := by
  have hsize : wire.length = 10 + f.payload.length := by
    rw [(encodes_iff.mp hwire).2, f.length_wire, wireSize_eq]
  obtain ⟨vs, hvs, hcount, hwithin, hzero⟩ :=
    Checksum.exists_unnoticed_pair (by omega : 8 * 4 + 32768 ≤ 8 * wire.length)
  obtain ⟨input, hlen, rfl⟩ := Bytes.exists_flips wire hvs
  refine ⟨input, hlen, hcount, (exists_decode_iff ⟨f, hwire⟩ hlen).mpr ⟨?_, hzero⟩⟩
  intro i hi hset
  obtain ⟨hfrom, hto⟩ := hwithin i hi hset
  exact ⟨hfrom, by omega⟩

end Acquisition.Frame
