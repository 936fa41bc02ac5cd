import Mathlib
import Acquisition.Bytes.Lemmas
import Acquisition.Frame

/-!
# What is wrong with received bytes

Ten bytes or more can be named by the places at which they stand in a frame (`Raw.exists_bytes`).
Reading looks at the markers, the length and the checksum in a fixed order, and the first of them
that is wrong decides (`decode_bytes`). Until nothing is wrong the buffer for the payload is not
touched.
-/

namespace Acquisition.Frame

/-- Bytes by their places. The values are any, so markers, length and checksum can be wrong. -/
structure Raw where
  head : UInt8 × UInt8
  length : UInt16
  command : UInt8
  seq : UInt8
  payload : Bytes
  checksum : UInt16
  tail : UInt8 × UInt8

namespace Raw

def body (r : Raw) : Bytes := r.command :: r.seq :: r.payload

def bytes (r : Raw) : Bytes :=
  [r.head.1, r.head.2] ++ Bytes.ofUInt16 r.length ++ r.body ++ Bytes.ofUInt16 r.checksum ++
    [r.tail.1, r.tail.2]

/-- The frame that is read, or the first thing that is wrong. -/
def verdict (r : Raw) : Except FrameError Frame :=
  if r.head ≠ (0xAA, 0x55) then .error .headMismatch
  else if r.tail ≠ (0x55, 0xAA) then .error .tailMismatch
  else if 6 + r.length.toNat ≠ r.bytes.length then .error .lengthMismatch
  else if r.checksum ≠ Checksum.frameChecksum r.body then
    .error (.checksumMismatch r.checksum (Checksum.frameChecksum r.body))
  else .ok ⟨r.command, r.seq, r.payload⟩

variable (r : Raw)

theorem length_bytes : r.bytes.length = 10 + r.payload.length := by
  simp only [bytes, body, Bytes.ofUInt16, List.length_append, List.length_cons, List.length_nil,
    Bytes.length_ofNat]
  omega

theorem bytes_eq : r.bytes = [r.head.1, r.head.2] ++ Bytes.ofUInt16 r.length ++
    (r.body ++ Bytes.ofUInt16 r.checksum) ++ [r.tail.1, r.tail.2] := by
  rw [bytes, List.append_assoc _ r.body]

theorem take_bytes_four :
    r.bytes.take 4 = [r.head.1, r.head.2] ++ Bytes.ofUInt16 r.length := rfl

theorem take_bytes : r.bytes.take (6 + r.payload.length) =
    [r.head.1, r.head.2] ++ Bytes.ofUInt16 r.length ++ r.body := by
  rw [bytes, List.append_assoc, List.take_left']
  simp only [body, Bytes.ofUInt16, List.length_append, List.length_cons, List.length_nil,
    Bytes.length_ofNat]
  omega

theorem drop_bytes : r.bytes.drop (6 + r.payload.length) =
    Bytes.ofUInt16 r.checksum ++ [r.tail.1, r.tail.2] := by
  rw [bytes, List.append_assoc, List.drop_left']
  simp only [body, Bytes.ofUInt16, List.length_append, List.length_cons, List.length_nil,
    Bytes.length_ofNat]
  omega

theorem drop_bytes_tail : r.bytes.drop (r.bytes.length - 2) = [r.tail.1, r.tail.2] := by
  have hchecksum : (Bytes.ofUInt16 r.checksum).length = 2 := Bytes.length_ofNat ..
  rw [r.length_bytes, show 10 + r.payload.length - 2 = 6 + r.payload.length + 2 by omega,
    ← List.drop_drop, r.drop_bytes, List.drop_left' hchecksum]

-- Six bytes stand in front of the payload and four behind it.
theorem exists_bytes {input : Bytes} (h : 10 ≤ input.length) : ∃ r : Raw, r.bytes = input := by
  match input, h with
  | h₁ :: h₂ :: l₁ :: l₂ :: command :: seq :: rest, h =>
    have hrest : 4 ≤ rest.length := by simpa using h
    have hlast : (rest.drop (rest.length - 4)).length = 4 := by
      rw [List.length_drop]
      omega
    match hback : rest.drop (rest.length - 4), hlast with
    | [c₁, c₂, t₁, t₂], _ =>
      refine ⟨⟨(h₁, h₂), .ofNat (Bytes.toNat [l₁, l₂]), command, seq,
        rest.take (rest.length - 4), .ofNat (Bytes.toNat [c₁, c₂]), (t₁, t₂)⟩, ?_⟩
      have hpayload : rest.take (rest.length - 4) ++ [c₁, c₂, t₁, t₂] = rest := by
        rw [← hback, List.take_append_drop]
      rw [bytes, body, Bytes.ofUInt16_toNat rfl, Bytes.ofUInt16_toNat rfl]
      simpa using hpayload

-- With the right markers and length the checksum is left to be looked at.
theorem verdict_of_delimited {r : Raw} (hhead : r.head = (0xAA, 0x55))
    (htail : r.tail = (0x55, 0xAA)) (hlength : 6 + r.length.toNat = r.bytes.length) :
    r.verdict =
      if r.checksum ≠ Checksum.frameChecksum r.body then
        .error (.checksumMismatch r.checksum (Checksum.frameChecksum r.body))
      else .ok ⟨r.command, r.seq, r.payload⟩ := by
  rw [verdict, if_neg (not_not.mpr hhead), if_neg (not_not.mpr htail),
    if_neg (not_not.mpr hlength)]

theorem payload_of_verdict {r : Raw} {f : Frame} (h : r.verdict = .ok f) :
    f.payload = r.payload := by
  rw [verdict] at h
  split_ifs at h
  cases h
  rfl

end Raw

theorem decode_bytes (r : Raw) : decode r.bytes = r.verdict := by
  have hsize := r.length_bytes
  have hfield : (Bytes.ofUInt16 r.checksum).length = 2 := Bytes.length_ofNat ..
  have hhead : r.bytes.take 2 = [r.head.1, r.head.2] := rfl
  have hlength : fieldAt r.bytes 2 = r.length.toNat := by
    rw [fieldAt, ← Bytes.toNat_ofUInt16]
    rfl
  have hbody : (r.bytes.take (6 + r.payload.length)).drop 4 = r.body := by
    rw [r.take_bytes]
    rfl
  have hpayload : (r.bytes.take (6 + r.payload.length)).drop 6 = r.payload := by
    rw [r.take_bytes]
    rfl
  have hchecksum : UInt16.ofNat (fieldAt r.bytes (6 + r.payload.length)) = r.checksum := by
    rw [fieldAt, r.drop_bytes, List.take_left' hfield, Bytes.toNat_ofUInt16, UInt16.ofNat_toNat]
  have hids : r.bytes.getD 4 0 = r.command ∧ r.bytes.getD 5 0 = r.seq := ⟨rfl, rfl⟩
  have hmarks (mark : UInt8 × UInt8) (a b : UInt8) :
      ([mark.1, mark.2] ≠ [a, b]) = (mark ≠ (a, b)) := by
    simp [Prod.ext_iff]
  -- A length that fits all the bytes is not too small.
  have hfits : (overhead + r.length.toNat ≠ r.bytes.length ∨ r.length.toNat < fixedLength) =
      (6 + r.length.toNat ≠ r.bytes.length) := by
    rw [hsize, overhead, fixedLength]
    exact propext (by omega)
  rw [decode, Raw.verdict]
  simp only [hhead, r.drop_bytes_tail, hlength, head, tail, hmarks, hfits]
  rw [if_neg (by rw [hsize, minSize, overhead, fixedLength]; omega),
    show r.bytes.length - 4 = 6 + r.payload.length by omega, hchecksum, hbody, hpayload, hids.1,
    hids.2]

theorem decode_of_short {input : Bytes} (h : input.length < 10) :
    decode input = .error .lengthMismatch := by
  rw [decode]
  exact if_pos h

theorem parseInto_of_error {input : Bytes} {e : FrameError} (h : decode input = .error e)
    (out : Bytes) : parseInto input out = (.error e, out) := by
  rw [parseInto, h]

/-- Fewer than ten bytes are refused for their length. Any others stand at the places of a frame,
and a wrong head is noticed first, then a wrong tail, a length that is not theirs, a checksum that
is not that of command, sequence number and payload, and last a lack of room for the payload. With
an error the buffer for the payload is as it was. Otherwise the payload stands at its front, and the
rest of it is as it was. `decode` gives the same error or the same frame, for which it needs no
buffer. -/
theorem parseInto_verdict (out : Bytes) :
    (∀ input : Bytes, input.length < 10 →
      decode input = .error .lengthMismatch ∧
      parseInto input out = (.error .lengthMismatch, out)) ∧
    (∀ input : Bytes, 10 ≤ input.length → ∃ r : Raw, r.bytes = input) ∧
    ∀ r : Raw,
      let n := r.bytes.length
      n = 10 + r.payload.length ∧ decode r.bytes = r.verdict ∧
      parseInto r.bytes out =
        match r.verdict with
        | .error e => (.error e, out)
        | .ok f =>
          if out.length < n - 10 then (.error (.bufferTooSmall (n - 10) out.length), out)
          else (.ok ⟨f.command, f.seq, n - 10⟩, f.payload ++ out.drop (n - 10)) := by
  refine ⟨fun input h => ?_, fun input => Raw.exists_bytes, fun r => ?_⟩
  · have hdecode := decode_of_short h
    exact ⟨hdecode, parseInto_of_error hdecode out⟩
  · intro n
    have hn : n = 10 + r.payload.length := r.length_bytes
    have hdecode := decode_bytes r
    refine ⟨hn, hdecode, ?_⟩
    cases hverdict : r.verdict with
    | error e => exact parseInto_of_error (hdecode.trans hverdict) out
    | ok f =>
      have hpayload : f.payload.length = n - 10 := by
        rw [Raw.payload_of_verdict hverdict, hn, Nat.add_sub_cancel_left]
      rw [parseInto, hdecode, hverdict]
      dsimp only
      rw [hpayload, Bytes.overwrite_zero, hpayload]

-- Eleven bytes with a wrong tail, length and checksum, and three bytes without any of them.
theorem parseInto_verdict_many_faults :
    let raw : Raw := ⟨(0xAA, 0x55), 9, 0x01, 7, [3], 0, (0x55, 0xAB)⟩
    let out : Bytes := [0xEE, 0xEE]
    ([1, 2, 3] : Bytes).length < 10 ∧ parseInto [1, 2, 3] out = (.error .lengthMismatch, out) ∧
      (∃ r : Raw, r.bytes = raw.bytes) ∧ raw.bytes.length ≠ 6 + 9 ∧
      parseInto raw.bytes out = (.error .tailMismatch, out) := by
  intro raw out
  have hverdict : raw.verdict = .error .tailMismatch := rfl
  obtain ⟨hshort, hplaces, hraw⟩ := parseInto_verdict out
  obtain ⟨-, -, hparse⟩ := hraw raw
  rw [hverdict] at hparse
  exact ⟨by decide, (hshort [1, 2, 3] (by decide)).2, hplaces raw.bytes (by decide), by decide,
    hparse⟩

end Acquisition.Frame
