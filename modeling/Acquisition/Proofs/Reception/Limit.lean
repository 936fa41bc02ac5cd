import Mathlib
import Acquisition.Command
import Acquisition.Proofs.Reception.Extraction
import Acquisition.Proofs.Reception.Framing

/-!
# Which frames a receiver takes

Nothing longer than the limit is ever cut out, and a frame that arrives by itself is delivered as
soon as it is within it (`mem_drain_feed_iff`). The writer that adds frames to a growing buffer
refuses exactly those that a receiver with the usual limit would not deliver
(`delivered_iff_appended`).
-/

namespace Acquisition

namespace Receiver

variable {rx : Receiver} {room : Nat}

-- Nothing longer than the limit is ever cut out.
theorem length_le_of_extract {rx' : Receiver} {frame : Bytes}
    (h : rx.extract room = (some frame, rx')) :
    frame.length ≤ rx.limit room ∧ rx'.limit room = rx.limit room := by
  obtain ⟨p, -, hhead, hwithin, rfl, -, hlimit⟩ := of_extract_some h
  have hsix : 6 ≤ Scan.sizeAt rx.ring.toList p := Nat.le_add_right ..
  refine ⟨?_, hlimit⟩
  rw [Scan.length_slice hwithin]
  exact hhead.2.2.resolve_left (by omega)

theorem length_le_of_mem_drain {frame : Bytes} (h : frame ∈ (rx.drain room).1) :
    frame.length ≤ rx.limit room := by
  fun_induction drain rx room with
  | case1 rx first rx' hextract rest rx'' hrest ih =>
    obtain ⟨hfirst, hlimit⟩ := length_le_of_extract hextract
    rw [hrest, hlimit] at ih
    rcases List.mem_cons.mp h with rfl | hmore
    · exact hfirst
    · exact ih hmore
  | case2 => exact absurd h List.not_mem_nil

-- An empty receiver has room for as many bytes as its ring can hold.
theorem dropped_feed_of_empty {data : Bytes} (hempty : rx.ring.available = 0)
    (hroom : data.length ≤ rx.ring.capacity) : (rx.feed data).2.dropped = rx.dropped := by
  have hfree := rx.ring.available_add_free
  rw [dropped_feed]
  omega

-- A frame by itself is delivered unless it is too long.
theorem drain_feed_frame {frame : Bytes} (hempty : rx.ring.available = 0)
    (hframe : Frame.Written frame) (hroom : frame.length ≤ rx.ring.capacity)
    (hlimit : frame.length ≤ rx.limit room) : ((rx.feed frame).2.drain room).1 = [frame] := by
  have hframes : ∀ s ∈ [Segment.mk frame []],
      Frame.Written s.frame ∧ s.frame.length ≤ rx.limit room := by
    intro s hs
    rw [List.mem_singleton.mp hs]
    exact ⟨hframe, hlimit⟩
  have hclear : Segment.Clear (rx.limit room) [] [⟨frame, []⟩] := ⟨nofun, nofun⟩
  have hstream : [frame].flatten = Segment.stream [] [⟨frame, []⟩] := by
    simp [Segment.stream]
  have hall : (rx.receive room [frame]).2.dropped = rx.dropped := by
    rw [receive_singleton, dropped_drain, dropped_feed_of_empty hempty hroom]
  have hdelivered := (receive_of_isPrefix hempty hframes hclear (by rw [hstream]) hall).1
  rw [receive_singleton, hstream, Segment.arrived_length] at hdelivered
  exact hdelivered

theorem mem_drain_feed_iff {frame : Bytes} (hempty : rx.ring.available = 0)
    (hframe : Frame.Written frame) (hroom : frame.length ≤ rx.ring.capacity) :
    frame ∈ ((rx.feed frame).2.drain room).1 ↔ frame.length ≤ rx.limit room := by
  constructor
  · exact length_le_of_mem_drain
  · intro hlimit
    rw [drain_feed_frame hempty hframe hroom hlimit]
    exact List.mem_cons_self

/-- A frame with at most 8182 bytes of payload is added to what is there in the bytes that are
written over the front of a buffer with room for them, and those are the bytes by itself; one with a
longer payload is refused, and what is there stays. An empty receiver that can hold a frame delivers
it exactly if its size is within the limit, so with the usual limit the frames that are delivered
are those that can be added. -/
theorem delivered_iff_appended :
    (∀ (f : Frame) (dst : Bytes), f.payload.length ≤ Frame.maxPayload →
      ∃ bytes : Bytes, f.appendTo dst = (.ok (), dst ++ bytes) ∧ f.encode = .ok bytes ∧
        bytes.length = f.wireSize ∧
        ∀ out : Bytes, f.wireSize ≤ out.length →
          f.writeInto out = (.ok f.wireSize, bytes ++ out.drop f.wireSize)) ∧
    (∀ (f : Frame) (dst : Bytes), Frame.maxPayload < f.payload.length →
      f.appendTo dst = (.error (.payloadTooLarge f.payload.length Frame.maxPayload), dst) ∧
        f.encode = .error (.payloadTooLarge f.payload.length Frame.maxPayload)) ∧
    (∀ (m : Nat) (rx : Receiver) (bytes : Bytes), Frame.Written bytes → rx.ring.available = 0 →
      bytes.length ≤ rx.ring.capacity → rx.maxFrame = m →
        (bytes ∈ ((rx.feed bytes).2.drain m).1 ↔ bytes.length ≤ m) ∧
        (bytes.length ≤ m → ((rx.feed bytes).2.drain m).1 = [bytes])) ∧
    ∀ (rx : Receiver) (bytes : Bytes), rx.ring.available = 0 → bytes.length ≤ rx.ring.capacity →
      rx.maxFrame = Frame.maxSize →
        (Frame.Written bytes ∧ bytes ∈ ((rx.feed bytes).2.drain Frame.maxSize).1 ↔
          ∃ (f : Frame) (dst : Bytes), f.appendTo dst = (.ok (), dst ++ bytes)) := by
  refine ⟨?_, ?_, ?_, ?_⟩
  · intro f dst hpayload
    have hfits := Frame.fits_of_wireSize_le (Frame.wireSize_le_iff.mpr hpayload)
    exact ⟨f.wire, Frame.appendTo_eq hpayload dst, Frame.encode_eq hpayload, f.length_wire,
      fun _ => Frame.writeInto_eq hfits⟩
  · intro f dst hpayload
    exact ⟨Frame.appendTo_of_long hpayload dst, Frame.encode_of_long hpayload⟩
  · rintro m rx bytes hwritten hempty hroom rfl
    have hlimit : rx.limit rx.maxFrame = rx.maxFrame := Nat.min_self _
    refine ⟨?_, fun hshort => drain_feed_frame hempty hwritten hroom (hlimit.symm ▸ hshort)⟩
    rw [mem_drain_feed_iff hempty hwritten hroom, hlimit]
  · intro rx bytes hempty hroom hmax
    have hlimit : rx.limit Frame.maxSize = Frame.maxSize := by rw [limit, hmax, Nat.min_self]
    constructor
    · rintro ⟨hwritten, hdelivered⟩
      have hsize := length_le_of_mem_drain hdelivered
      obtain ⟨f, hfits, rfl⟩ := Frame.written_iff.mp hwritten
      change f.wire.length ≤ rx.limit Frame.maxSize at hsize
      rw [hlimit, f.length_wire, Frame.wireSize_le_iff] at hsize
      exact ⟨f, [], Frame.appendTo_eq hsize []⟩
    · rintro ⟨f, dst, happend⟩
      by_cases hpayload : f.payload.length ≤ Frame.maxPayload
      · rw [Frame.appendTo_eq hpayload] at happend
        obtain rfl : f.wire = bytes := List.append_cancel_left (Prod.mk.inj happend).2
        have hsize := Frame.wireSize_le_iff.mpr hpayload
        have hwritten : Frame.Written f.wire :=
          Frame.written_iff.mpr ⟨f, Frame.fits_of_wireSize_le hsize, rfl⟩
        refine ⟨hwritten, (mem_drain_feed_iff hempty hwritten hroom).mpr ?_⟩
        rw [hlimit, f.length_wire]
        exact hsize
      · rw [Frame.appendTo_of_long (Nat.lt_of_not_le hpayload)] at happend
        cases happend

-- A frame whose payload is a frame. With one byte less of a limit it is noise, and the receiver
-- finds the frame inside.
theorem delivered_iff_appended_nested :
    let inner : Frame := ⟨Command.ping, 1, []⟩
    let f : Frame := ⟨Command.logMessage, 200, inner.wire⟩
    (∃ bytes : Bytes, f.appendTo [0xAA] = (.ok (), 0xAA :: bytes) ∧ bytes.length = 20) ∧
      (((ofCapacity 21 20).feed f.wire).2.drain 20).1 = [f.wire] ∧
      f.wire ∉ (((ofCapacity 21 19).feed f.wire).2.drain 19).1 ∧
      (((ofCapacity 21 19).feed f.wire).2.drain 19).1 = [inner.wire] := by
  intro inner f
  have hwritten : Frame.Written f.wire := Frame.written_iff.mpr ⟨f, by decide, rfl⟩
  have hsize : f.wire.length = 20 := by decide
  obtain ⟨happend, -, hdeliver, -⟩ := delivered_iff_appended
  obtain ⟨bytes, hbytes, -, hlength, -⟩ := happend f [0xAA] (by decide)
  have hfits := hdeliver 20 (ofCapacity 21 20) f.wire hwritten rfl (by decide) rfl
  have hlong := hdeliver 19 (ofCapacity 21 19) f.wire hwritten rfl (by decide) rfl
  refine ⟨⟨bytes, hbytes, hlength⟩, hfits.2 (by decide), ?_, by decide +kernel⟩
  rw [hlong.1]
  decide

end Receiver

end Acquisition
