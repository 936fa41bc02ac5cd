import Mathlib
import Acquisition.Proofs.Frame.Verdict

/-!
# The layout of a frame

`wire` is the byte string that stands for a frame. Both writers put exactly these bytes down, and
`decode` reads them back.
-/

namespace Acquisition

namespace Frame

/-- What the checksum covers. -/
def body (f : Frame) : Bytes := f.command :: f.seq :: f.payload

/-- The bytes of a frame on the link. -/
def wire (f : Frame) : Bytes :=
  head ++ Bytes.ofNat 2 (fixedLength + f.payload.length) ++ f.body ++
    Bytes.ofUInt16 (Checksum.frameChecksum f.body) ++ tail

/-- The length field has two bytes, so a frame with a longer payload cannot be written. -/
def Fits (f : Frame) : Prop := fixedLength + f.payload.length < UInt16.size

instance (f : Frame) : Decidable f.Fits := inferInstanceAs (Decidable (_ < _))

theorem length_wire (f : Frame) : f.wire.length = f.wireSize := by
  simp only [wire, body, head, tail, Bytes.ofUInt16, List.length_append, List.length_cons,
    List.length_nil, Bytes.length_ofNat, wireSize, minSize, overhead, fixedLength]
  omega

theorem wireSize_eq (f : Frame) : f.wireSize = 10 + f.payload.length := rfl

theorem fits_of_wireSize_le {f : Frame} (h : f.wireSize ≤ maxSize) : f.Fits := by
  rw [wireSize_eq, maxSize] at h
  rw [Fits, fixedLength, UInt16.size]
  omega

theorem wireSize_le_iff {f : Frame} : f.wireSize ≤ maxSize ↔ f.payload.length ≤ maxPayload := by
  rw [wireSize_eq, maxPayload, maxSize, minSize, overhead, fixedLength]
  omega

theorem length_wire_lt {f : Frame} (h : f.wireSize ≤ maxSize) : f.wire.length < UInt16.size := by
  rw [f.length_wire]
  exact h.trans_lt (by decide)

theorem lengthField_of_fits {f : Frame} (h : f.Fits) :
    lengthField f.payload.length = .ok (UInt16.ofNat (fixedLength + f.payload.length)) :=
  if_pos h

theorem Fits.toNat_lengthField {f : Frame} (h : f.Fits) :
    (UInt16.ofNat (fixedLength + f.payload.length)).toNat = fixedLength + f.payload.length :=
  UInt16.toNat_ofNat_of_lt' h

theorem Fits.bytes_lengthField {f : Frame} (h : f.Fits) :
    Bytes.ofUInt16 (UInt16.ofNat (fixedLength + f.payload.length)) =
      Bytes.ofNat 2 (fixedLength + f.payload.length) :=
  congrArg (Bytes.ofNat 2) h.toNat_lengthField

/-! ## Writing -/

-- The frame goes over the front of the buffer, and the rest of the buffer stays.
theorem writeInto_eq {f : Frame} {out : Bytes} (hfits : f.Fits) (hroom : f.wireSize ≤ out.length) :
    f.writeInto out = (.ok f.wireSize, f.wire ++ out.drop f.wireSize) := by
  have htotal : overhead + (UInt16.ofNat (fixedLength + f.payload.length)).toNat = f.wireSize := by
    rw [hfits.toNat_lengthField, wireSize_eq]
    simp only [overhead, fixedLength]
    omega
  have hfield := hfits.bytes_lengthField
  generalize hlen : Bytes.ofNat 2 (fixedLength + f.payload.length) = field at hfield
  have hfield2 : field.length = 2 := hlen ▸ Bytes.length_ofNat ..
  rw [writeInto, lengthField_of_fits hfits]
  dsimp only
  rw [htotal, if_neg (by omega), hfield]
  -- Each write starts where the one before ended.
  have hhead : out.overwrite 0 head = head ++ out.drop 2 := Bytes.overwrite_zero out head
  have hlength := Bytes.overwrite_append head (out.drop 2) field
  have hids := Bytes.overwrite_append (head ++ field) (out.drop 4) [f.command, f.seq]
  have hpayload := Bytes.overwrite_append (head ++ field ++ [f.command, f.seq]) (out.drop 6)
    f.payload
  have hcrc := fun crc : UInt16 => Bytes.overwrite_append
    (head ++ field ++ [f.command, f.seq] ++ f.payload) (out.drop (6 + f.payload.length))
    (Bytes.ofUInt16 crc)
  have htail := fun crc : UInt16 => Bytes.overwrite_append
    (head ++ field ++ [f.command, f.seq] ++ f.payload ++ Bytes.ofUInt16 crc)
    (out.drop (6 + f.payload.length + 2)) tail
  simp only [List.drop_drop, List.length_append, hfield2, show head.length = 2 from rfl,
    show [f.command, f.seq].length = 2 from rfl, show tail.length = 2 from rfl,
    show ∀ crc, (Bytes.ofUInt16 crc).length = 2 from fun crc => Bytes.length_ofNat ..,
    Nat.reduceAdd] at hlength hids hpayload hcrc htail
  have hbody : ((head ++ field ++ [f.command, f.seq] ++ f.payload ++
      out.drop (6 + f.payload.length)).take (6 + f.payload.length)).drop 4 = f.body := by
    rw [List.take_left' (by simp [hfield2, show head.length = 2 from rfl]; omega),
      List.append_assoc, List.drop_left' (by simp [hfield2, show head.length = 2 from rfl]), body]
    rfl
  rw [hhead, hlength, hids, hpayload, hbody, hcrc, htail, wire, hlen, wireSize_eq, body]
  simp only [List.append_assoc, List.cons_append, List.nil_append,
    show 6 + f.payload.length + 2 + 2 = 10 + f.payload.length by omega]

theorem writeInto_of_not_fits {f : Frame} (h : ¬ f.Fits) (out : Bytes) :
    f.writeInto out =
      (.error (.payloadTooLarge f.payload.length (UInt16.size - 1 - fixedLength)), out) := by
  have hfield : lengthField f.payload.length =
      .error (.payloadTooLarge f.payload.length (UInt16.size - 1 - fixedLength)) := if_neg h
  rw [writeInto, hfield]

theorem writeInto_of_short {f : Frame} {out : Bytes} (hfits : f.Fits)
    (hroom : out.length < f.wireSize) :
    f.writeInto out = (.error (.bufferTooSmall f.wireSize out.length), out) := by
  have htotal : overhead + (fixedLength + f.payload.length) = f.wireSize := by
    rw [wireSize_eq, overhead, fixedLength]
    omega
  rw [writeInto, lengthField_of_fits hfits]
  dsimp only
  rw [hfits.toNat_lengthField, htotal, if_pos hroom]

-- Where there is no room for the frame nothing is written.
theorem writeInto_error {f : Frame} {out : Bytes} (h : ¬ f.Fits ∨ out.length < f.wireSize) :
    ∃ e, f.writeInto out = (.error e, out) := by
  by_cases hfits : f.Fits
  · exact ⟨_, writeInto_of_short hfits (h.resolve_left (not_not.mpr hfits))⟩
  · exact ⟨_, writeInto_of_not_fits hfits out⟩

-- The checksum does not cover anything of what stands before the frame.
theorem appendTo_eq {f : Frame} (h : f.payload.length ≤ maxPayload) (dst : Bytes) :
    f.appendTo dst = (.ok (), dst ++ f.wire) := by
  have hfits := fits_of_wireSize_le (wireSize_le_iff.mpr h)
  have hbody (start : Bytes) : start ++ [f.command] ++ [f.seq] ++ f.payload = start ++ f.body := by
    simp only [body, List.append_assoc, List.cons_append, List.nil_append]
  rw [appendTo, if_neg (Nat.not_lt_of_le h), lengthField_of_fits hfits]
  dsimp only
  rw [hbody, List.drop_left, hfits.bytes_lengthField, wire]
  simp only [List.append_assoc]

theorem appendTo_of_long {f : Frame} (h : maxPayload < f.payload.length) (dst : Bytes) :
    f.appendTo dst = (.error (.payloadTooLarge f.payload.length maxPayload), dst) :=
  if_pos h

theorem encode_eq {f : Frame} (h : f.payload.length ≤ maxPayload) : f.encode = .ok f.wire := by
  rw [encode, appendTo_eq h, List.nil_append]

theorem encode_of_long {f : Frame} (h : maxPayload < f.payload.length) :
    f.encode = .error (.payloadTooLarge f.payload.length maxPayload) := by
  rw [encode, appendTo_of_long h]

/-- The bytes are what writing the frame puts down. -/
def Encodes (f : Frame) (bytes : Bytes) : Prop :=
  ∃ (out written : Bytes) (size : Nat),
    f.writeInto out = (.ok size, written) ∧ bytes = written.take size

theorem encodes_iff {f : Frame} {bytes : Bytes} : f.Encodes bytes ↔ f.Fits ∧ bytes = f.wire := by
  constructor
  · rintro ⟨out, written, size, hwrite, rfl⟩
    by_cases h : ¬ f.Fits ∨ out.length < f.wireSize
    · obtain ⟨e, he⟩ := writeInto_error h
      rw [he] at hwrite
      cases hwrite
    · obtain ⟨hfits, hroom⟩ := not_or.mp h
      rw [writeInto_eq (not_not.mp hfits) (Nat.le_of_not_lt hroom)] at hwrite
      cases hwrite
      exact ⟨not_not.mp hfits, List.take_left' f.length_wire⟩
  · rintro ⟨hfits, rfl⟩
    refine ⟨List.replicate f.wireSize 0, _, _,
      writeInto_eq hfits (Nat.le_of_eq List.length_replicate.symm), ?_⟩
    rw [List.take_left' f.length_wire]

/-- A byte string that was written as a frame. -/
def Written (bytes : Bytes) : Prop :=
  ∃ (f : Frame) (out written : Bytes) (size : Nat),
    f.writeInto out = (.ok size, written) ∧ bytes = written.take size

theorem written_iff {bytes : Bytes} : Written bytes ↔ ∃ f : Frame, f.Fits ∧ bytes = f.wire :=
  exists_congr fun _ => encodes_iff

/-! ## Reading -/

theorem take_wire (f : Frame) : f.wire.take 2 = head := by
  simp only [wire, List.append_assoc]
  exact List.take_left' rfl

theorem fieldAt_wire {f : Frame} (h : f.Fits) :
    fieldAt f.wire 2 = fixedLength + f.payload.length := by
  have hlen : (Bytes.ofNat 2 (fixedLength + f.payload.length)).length = 2 := Bytes.length_ofNat ..
  simp only [fieldAt, wire, List.append_assoc]
  rw [List.drop_left' (show head.length = 2 from rfl), List.take_left' hlen, Bytes.toNat_ofNat,
    Nat.mod_eq_of_lt (show _ < 256 ^ 2 from h)]

/-- The places of the bytes of a frame. -/
def raw (f : Frame) : Raw where
  head := (0xAA, 0x55)
  length := UInt16.ofNat (fixedLength + f.payload.length)
  command := f.command
  seq := f.seq
  payload := f.payload
  checksum := Checksum.frameChecksum f.body
  tail := (0x55, 0xAA)

theorem bytes_raw {f : Frame} (h : f.Fits) : f.raw.bytes = f.wire := by
  have hlength : Bytes.ofUInt16 f.raw.length = Bytes.ofNat 2 (fixedLength + f.payload.length) :=
    h.bytes_lengthField
  rw [Raw.bytes, hlength]
  rfl

theorem length_raw {f : Frame} (h : f.Fits) : 6 + f.raw.length.toNat = f.raw.bytes.length := by
  have hfield : f.raw.length.toNat = fixedLength + f.payload.length := h.toNat_lengthField
  rw [hfield, bytes_raw h, f.length_wire, wireSize_eq, fixedLength]
  omega

theorem decode_wire {f : Frame} (h : f.Fits) : decode f.wire = .ok f := by
  have hchecksum : f.raw.checksum = Checksum.frameChecksum f.raw.body := rfl
  rw [← bytes_raw h, decode_bytes, Raw.verdict_of_delimited rfl rfl (length_raw h),
    if_neg (not_not.mpr hchecksum)]
  rfl

-- Reading a frame with room for its payload puts the payload over the front of the buffer.
theorem parseInto_wire {f : Frame} {out : Bytes} (h : f.Fits)
    (hroom : f.payload.length ≤ out.length) :
    parseInto f.wire out =
      (.ok ⟨f.command, f.seq, f.payload.length⟩, f.payload ++ out.drop f.payload.length) := by
  rw [parseInto, decode_wire h]
  dsimp only
  rw [if_neg (by omega), Bytes.overwrite_zero]

-- Nothing shorter than the fixed fields is read as a frame.
theorem minSize_le_of_decode {input : Bytes} {f : Frame} (h : decode input = .ok f) :
    minSize ≤ input.length := by
  rw [decode] at h
  dsimp only at h
  split at h
  · cases h
  · omega

end Frame

end Acquisition
