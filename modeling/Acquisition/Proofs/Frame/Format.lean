import Mathlib
import Acquisition.Proofs.Frame.Layout

/-!
# The frame format is a bijection

Reading accepts exactly what writing puts down (`decode_eq_ok_iff`), so a frame has one byte string
and an accepted byte string has one frame.
-/

namespace Acquisition.Frame

theorem fits_iff {f : Frame} : f.Fits ↔ f.payload.length ≤ 65531 := by
  rw [Fits, fixedLength, UInt16.size]
  omega

theorem wire_of_decode {input : Bytes} {f : Frame} (h : decode input = .ok f) :
    f.Fits ∧ f.wire = input := by
  obtain ⟨r, rfl⟩ := Raw.exists_bytes (minSize_le_of_decode h)
  rw [decode_bytes, Raw.verdict] at h
  split_ifs at h with hhead htail hlength hchecksum
  rw [not_not] at hhead htail hlength hchecksum
  cases h
  have hcounted : fixedLength + r.payload.length = r.length.toNat := by
    rw [r.length_bytes] at hlength
    rw [fixedLength]
    omega
  constructor
  · rw [Fits, hcounted]
    exact r.length.toNat_lt
  · rw [wire, hcounted, Raw.bytes, hhead, htail, hchecksum]
    rfl

theorem decode_eq_ok_iff {input : Bytes} {f : Frame} :
    decode input = .ok f ↔ f.Fits ∧ f.wire = input := by
  constructor
  · exact wire_of_decode
  · rintro ⟨hfits, rfl⟩
    exact decode_wire hfits

-- The length field is among the first bytes, so a frame does not go on in another.
theorem wire_eq_of_isPrefix {f g : Frame} (hf : f.Fits) (hg : g.Fits) (h : f.wire <+: g.wire) :
    f.wire = g.wire := by
  obtain ⟨rest, hrest⟩ := h
  have hfield : fieldAt g.wire 2 = fieldAt f.wire 2 := by
    rw [← hrest, fieldAt, fieldAt, List.drop_append_of_le_length, List.take_append_of_le_length]
    · rw [List.length_drop, f.length_wire, wireSize_eq]
      omega
    · rw [f.length_wire, wireSize_eq]
      omega
  rw [fieldAt_wire hf, fieldAt_wire hg] at hfield
  apply List.IsPrefix.eq_of_length ⟨rest, hrest⟩
  rw [f.length_wire, g.length_wire, wireSize_eq, wireSize_eq]
  omega

/-- A frame whose payload has at most 65531 bytes is written over the front of a buffer with room
for 10 bytes more, and read back as it was. What is read is what writing the frame puts down, so the
byte strings that are read are those that were written, and none of them goes on in another. A
refused frame leaves the buffer as it is. -/
theorem format_bijective :
    (∀ (f : Frame) (out : Bytes), f.payload.length ≤ 65531 → f.payload.length + 10 ≤ out.length →
      ∃ written : Bytes, written.length = f.payload.length + 10 ∧
        f.writeInto out =
          (.ok (f.payload.length + 10), written ++ out.drop (f.payload.length + 10)) ∧
        decode written = .ok f ∧
        ∀ buffer : Bytes, f.payload.length ≤ buffer.length →
          parseInto written buffer = (.ok ⟨f.command, f.seq, f.payload.length⟩,
            f.payload ++ buffer.drop f.payload.length)) ∧
    (∀ (input : Bytes) (f : Frame), decode input = .ok f →
      f.payload.length ≤ 65531 ∧ ∀ out : Bytes, input.length ≤ out.length →
        f.writeInto out = (.ok input.length, input ++ out.drop input.length)) ∧
    (∀ input : Bytes, (∃ f, decode input = .ok f) ↔ Written input) ∧
    (∀ (input longer : Bytes) (f g : Frame), decode input = .ok f → decode longer = .ok g →
      input <+: longer → input = longer) ∧
    (∀ (f : Frame) (out : Bytes),
      (65531 < f.payload.length →
        f.writeInto out = (.error (.payloadTooLarge f.payload.length 65531), out)) ∧
      (f.payload.length ≤ 65531 → out.length < f.payload.length + 10 →
        f.writeInto out =
          (.error (.bufferTooSmall (f.payload.length + 10) out.length), out))) := by
  refine ⟨?_, ?_, ?_, ?_, ?_⟩
  · intro f out hpayload hroom
    have hfits := fits_iff.mpr hpayload
    have hsize : f.payload.length + 10 = f.wireSize := by rw [wireSize_eq, Nat.add_comm]
    refine ⟨f.wire, ?_, ?_, decode_wire hfits, fun buffer => parseInto_wire hfits⟩
    · rw [f.length_wire, hsize]
    · rw [hsize]
      exact writeInto_eq hfits (by omega)
  · intro input f h
    obtain ⟨hfits, rfl⟩ := wire_of_decode h
    refine ⟨fits_iff.mp hfits, fun out hroom => ?_⟩
    rw [f.length_wire] at hroom ⊢
    exact writeInto_eq hfits hroom
  · intro input
    rw [written_iff]
    constructor
    · rintro ⟨f, h⟩
      obtain ⟨hfits, rfl⟩ := wire_of_decode h
      exact ⟨f, hfits, rfl⟩
    · rintro ⟨f, hfits, rfl⟩
      exact ⟨f, decode_wire hfits⟩
  · intro input longer f g hinput hlonger hprefix
    obtain ⟨hf, rfl⟩ := wire_of_decode hinput
    obtain ⟨hg, rfl⟩ := wire_of_decode hlonger
    exact wire_eq_of_isPrefix hf hg hprefix
  · intro f out
    constructor
    · intro hpayload
      exact writeInto_of_not_fits (mt fits_iff.mp (by omega)) out
    · intro hpayload hroom
      have hsize : f.payload.length + 10 = f.wireSize := by rw [wireSize_eq, Nat.add_comm]
      rw [hsize] at hroom ⊢
      exact writeInto_of_short (fits_iff.mpr hpayload) hroom

-- A payload that ends like a frame, in a buffer of one byte more than is needed.
theorem format_bijective_tail_in_payload :
    let f : Frame := ⟨0x40, 255, [0xAA, 0x55, 4, 0, 0x55, 0xAA]⟩
    ∃ written : Bytes, written.length = 16 ∧
      f.writeInto (List.replicate 17 0xEE) = (.ok 16, written ++ [0xEE]) ∧ decode written = .ok f :=
  have ⟨written, hlen, hwrite, hdecode, _⟩ := format_bijective.1
    ⟨0x40, 255, [0xAA, 0x55, 4, 0, 0x55, 0xAA]⟩ (List.replicate 17 0xEE) (by decide) (by decide)
  ⟨written, hlen, hwrite, hdecode⟩

end Acquisition.Frame
