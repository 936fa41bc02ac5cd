import Mathlib
import Acquisition.Command
import Acquisition.Proofs.Frame.Layout
import Acquisition.Proofs.Reception.Chunking

/-!
# Frames among noise

A stream of frames with noise before, between and after them. As long as no position of the noise
reads as the start of a frame that would be accepted, a receiver delivers exactly the frames, each
as soon as its last byte is there.
-/

namespace Acquisition

/-- A frame on the link and the noise after it. -/
structure Segment where
  frame : Bytes
  noise : Bytes

namespace Segment

/-- The stream that begins with `noise`. -/
def stream (noise : Bytes) : List Segment → Bytes
  | [] => noise
  | s :: rest => noise ++ (s.frame ++ stream s.noise rest)

/-- The noise after the last frame. -/
def lastNoise (noise : Bytes) : List Segment → Bytes
  | [] => noise
  | s :: rest => lastNoise s.noise rest

/-- The frames whose last byte is among the first `n` bytes of the stream. -/
def arrived (noise : Bytes) : List Segment → Nat → List Bytes
  | [], _ => []
  | s :: rest, n =>
    if noise.length + s.frame.length ≤ n then
      s.frame :: arrived s.noise rest (n - (noise.length + s.frame.length))
    else []

/-- Where the noise, read on into what follows, shows a head and a length field, the length is
beyond `limit`. -/
def Quiet (limit : Nat) (noise rest : Bytes) : Prop :=
  ∀ i < noise.length, ((noise ++ rest).drop i).take 2 = Frame.head →
    4 ≤ ((noise ++ rest).drop i).length → limit < Scan.frameSize ((noise ++ rest).drop i)

/-- All noise of the stream is quiet. -/
def Clear (limit : Nat) (noise : Bytes) : List Segment → Prop
  | [] => Quiet limit noise []
  | s :: rest => Quiet limit noise (s.frame ++ stream s.noise rest) ∧ Clear limit s.noise rest

instance (limit : Nat) (noise rest : Bytes) : Decidable (Quiet limit noise rest) :=
  inferInstanceAs (Decidable (∀ i < noise.length, _))

instance decidableClear (limit : Nat) (noise : Bytes) :
    (segments : List Segment) → Decidable (Clear limit noise segments)
  | [] => inferInstanceAs (Decidable (Quiet limit noise []))
  | s :: rest =>
    have := decidableClear limit s.noise rest
    inferInstanceAs (Decidable (_ ∧ Clear limit s.noise rest))

theorem arrived_length (noise : Bytes) (segments : List Segment) :
    arrived noise segments (stream noise segments).length = segments.map frame := by
  induction segments generalizing noise with
  | nil => rfl
  | cons s rest ih =>
    have hlen : (stream noise (s :: rest)).length =
        noise.length + s.frame.length + (stream s.noise rest).length := by
      simp only [stream, List.length_append]
      omega
    rw [arrived, if_pos (by omega), hlen, Nat.add_sub_cancel_left, ih, List.map_cons]

theorem mem_arrived {noise frame : Bytes} {segments : List Segment} {n : Nat}
    (h : frame ∈ arrived noise segments n) : ∃ s ∈ segments, s.frame = frame := by
  induction segments generalizing noise n with
  | nil => simp [arrived] at h
  | cons s rest ih =>
    rw [arrived] at h
    split at h
    · rcases List.mem_cons.mp h with rfl | h
      · exact ⟨s, List.mem_cons_self, rfl⟩
      · obtain ⟨t, ht, hframe⟩ := ih h
        exact ⟨t, List.mem_cons_of_mem _ ht, hframe⟩
    · simp at h

end Segment

namespace Scan

/-! ## At a frame -/

theorem frameSize_wire {f : Frame} (h : f.Fits) : frameSize f.wire = f.wire.length := by
  rw [frameSize, Frame.fieldAt_wire h, Frame.length_wire, Frame.wireSize_eq]
  simp only [Frame.overhead, Frame.fixedLength]
  omega

variable {limit : Nat} {frame rest : Bytes}

theorem take_frame (hframe : Frame.Written frame) : frame.take 2 = Frame.head := by
  obtain ⟨f, -, rfl⟩ := Frame.written_iff.mp hframe
  exact f.take_wire

theorem ten_le_frame (hframe : Frame.Written frame) : 10 ≤ frame.length := by
  obtain ⟨f, -, rfl⟩ := Frame.written_iff.mp hframe
  rw [Frame.length_wire, Frame.wireSize_eq]
  omega

theorem frameSize_frame (hframe : Frame.Written frame) : frameSize frame = frame.length := by
  obtain ⟨f, hfits, rfl⟩ := Frame.written_iff.mp hframe
  exact frameSize_wire hfits

private theorem take_two_take {b : Bytes} {n : Nat} (h : 2 ≤ n) : (b.take n).take 2 = b.take 2 := by
  rw [List.take_take, Nat.min_eq_left h]

private theorem frameSize_take {b : Bytes} {n : Nat} (h : 4 ≤ (b.take n).length) :
    frameSize (b.take n) = frameSize b := by
  conv_rhs => rw [← List.take_append_drop n b]
  rw [frameSize_append h]

-- A scan does not go past the start of a frame, however much of it has arrived.
theorem not_skips_frame (hframe : Frame.Written frame) (hlimit : frame.length ≤ limit) (n : Nat) :
    ¬ Skips limit ((frame ++ rest).take n) := by
  have hten := ten_le_frame hframe
  rintro ⟨h2, hskip⟩
  rw [List.length_take] at h2
  rw [take_two_take (by omega), List.take_append_of_le_length (by omega), take_frame hframe]
    at hskip
  rcases hskip with hhead | ⟨h4, hlong⟩
  · exact hhead rfl
  · rw [frameSize_take h4, frameSize_append (by omega), frameSize_frame hframe] at hlong
    omega

-- A frame that has arrived to its end is the candidate.
theorem ofList_frame (hframe : Frame.Written frame) (hlimit : frame.length ≤ limit) {n : Nat}
    (hn : frame.length ≤ n) :
    ofList limit ((frame ++ rest).take n) = .candidate 0 frame.length := by
  have hten := ten_le_frame hframe
  have h4 : 4 ≤ ((frame ++ rest).take n).length := by
    rw [List.length_take, List.length_append]
    omega
  have hsize : frameSize ((frame ++ rest).take n) = frame.length := by
    rw [frameSize_take h4, frameSize_append (by omega), frameSize_frame hframe]
  rw [ofList_of_not_skips (not_skips_frame hframe hlimit n), hsize, if_pos]
  refine ⟨h4, ?_⟩
  rw [hsize, List.length_take, List.length_append]
  omega

-- One that has not is waited for.
theorem ofList_part (hframe : Frame.Written frame) (hlimit : frame.length ≤ limit) {n : Nat}
    (hn : n < frame.length) : ofList limit ((frame ++ rest).take n) = .waiting 0 := by
  have hten := ten_le_frame hframe
  rw [ofList_of_not_skips (not_skips_frame hframe hlimit n), if_neg]
  rintro ⟨h4, hwhole⟩
  rw [frameSize_take h4, frameSize_append (by omega), frameSize_frame hframe, List.length_take]
    at hwhole
  omega

/-! ## At noise -/

variable {noise : Bytes}

-- A scan goes past quiet noise as soon as it sees a length field or that there is no head.
theorem skips_noise (hquiet : Segment.Quiet limit noise rest) {n i : Nat} (hi : i < noise.length)
    (hlen : i + 4 ≤ ((noise ++ rest).take n).length) :
    Skips limit (((noise ++ rest).take n).drop i) := by
  have hdrop : ((noise ++ rest).take n).drop i = ((noise ++ rest).drop i).take (n - i) :=
    List.drop_take
  rw [List.length_take] at hlen
  have h4 : 4 ≤ (((noise ++ rest).drop i).take (n - i)).length := by
    rw [List.length_take, List.length_drop]
    omega
  rw [hdrop]
  refine ⟨by omega, ?_⟩
  rw [take_two_take (by omega), frameSize_take h4]
  by_cases hhead : ((noise ++ rest).drop i).take 2 = Frame.head
  · exact .inr ⟨h4, hquiet i hi hhead (by rw [List.length_take] at h4; omega)⟩
  · exact .inl hhead

-- Nothing is found before more than two bytes have come after the noise.
theorem cut_noise (hquiet : Segment.Quiet limit noise rest) {n : Nat}
    (hshort : ((noise ++ rest).take n).length < noise.length + 3) :
    cut limit ((noise ++ rest).take n) = ([], (noise ++ rest).take n) := by
  obtain ⟨skipped, hstop⟩ := exists_stopsAt limit ((noise ++ rest).take n)
  have hpart : ¬ Whole (((noise ++ rest).take n).drop skipped) := fun hwhole => by
    have h4 := hwhole.1
    rw [List.length_drop] at h4
    by_cases hi : skipped < noise.length
    · exact hstop.stops (skips_noise hquiet hi (by omega))
    · omega
  have hfound := hstop.ofList_eq
  rw [if_neg hpart] at hfound
  exact cut_waiting hfound

-- Otherwise the scan goes past the noise.
theorem ofList_noise (hquiet : Segment.Quiet limit noise rest) {n : Nat}
    (hlong : noise.length + 3 ≤ ((noise ++ rest).take n).length) :
    ofList limit ((noise ++ rest).take n) =
      (ofList limit (rest.take (n - noise.length))).shift noise.length := by
  rw [ofList_eq_shift fun i hi => skips_noise hquiet hi (by omega), List.drop_take, List.drop_left]

/-! ## The whole stream -/

-- The first `n` bytes of a stream hold the frames that end among them, and the whole stream leaves
-- the noise after the last.
theorem cut_take_stream {noise : Bytes} {segments : List Segment}
    (hframes : ∀ s ∈ segments, Frame.Written s.frame ∧ s.frame.length ≤ limit)
    (hclear : Segment.Clear limit noise segments) (n : Nat) :
    (cut limit ((Segment.stream noise segments).take n)).1 = Segment.arrived noise segments n ∧
      ((Segment.stream noise segments).length ≤ n →
        (cut limit ((Segment.stream noise segments).take n)).2 =
          Segment.lastNoise noise segments) := by
  induction segments generalizing noise n with
  | nil =>
    have hquiet : Segment.Quiet limit noise [] := hclear
    have hcut := cut_noise hquiet (n := n) (by rw [List.append_nil, List.length_take]; omega)
    rw [List.append_nil] at hcut
    rw [Segment.stream, hcut, Segment.arrived]
    exact ⟨rfl, fun hn => List.take_of_length_le hn⟩
  | cons s rest ih =>
    obtain ⟨hframe, hlimit⟩ := hframes s List.mem_cons_self
    obtain ⟨hquiet, hrest⟩ := hclear
    have hten := ten_le_frame hframe
    have htotal : (Segment.stream noise (s :: rest)).length =
        noise.length + (s.frame.length + (Segment.stream s.noise rest).length) := by
      simp only [Segment.stream, List.length_append]
    rw [Segment.arrived, Segment.lastNoise]
    rw [Segment.stream] at htotal ⊢
    by_cases hlong : noise.length + 3 ≤
        ((noise ++ (s.frame ++ Segment.stream s.noise rest)).take n).length
    · have hscan := ofList_noise hquiet hlong
      rw [List.length_take, htotal] at hlong
      by_cases hn : noise.length + s.frame.length ≤ n
      · rw [ofList_frame hframe hlimit (by omega)] at hscan
        have hfirst : ((noise ++ (s.frame ++ Segment.stream s.noise rest)).take n).drop
            noise.length = (s.frame ++ Segment.stream s.noise rest).take (n - noise.length) := by
          rw [List.drop_take, List.drop_left]
        have hmore : ((noise ++ (s.frame ++ Segment.stream s.noise rest)).take n).drop
            (noise.length + s.frame.length) =
              (Segment.stream s.noise rest).take (n - (noise.length + s.frame.length)) := by
          rw [← List.drop_drop, hfirst, List.drop_take, List.drop_left, Nat.sub_sub]
        obtain ⟨hmoreFrames, hmoreRest⟩ := ih (fun t ht => hframes t (List.mem_cons_of_mem _ ht))
          hrest (n - (noise.length + s.frame.length))
        rw [if_pos hn, cut_candidate hscan]
        dsimp only [Nat.add_zero]
        rw [hmore, hfirst, List.take_take, Nat.min_eq_left (by omega), List.take_left, hmoreFrames]
        exact ⟨rfl, fun hall => hmoreRest (by omega)⟩
      · rw [ofList_part hframe hlimit (by omega)] at hscan
        rw [cut_waiting hscan, if_neg hn]
        exact ⟨rfl, fun hall => absurd hall (by omega)⟩
    · rw [cut_noise hquiet (Nat.lt_of_not_le hlong)]
      rw [List.length_take, htotal] at hlong
      rw [if_neg (by omega)]
      exact ⟨rfl, fun hall => absurd hall (by omega)⟩

end Scan

namespace Receiver

theorem receive_append (rx : Receiver) (room : Nat) (first second : List Bytes) :
    rx.receive room (first ++ second) =
      ((rx.receive room first).1 ++ ((rx.receive room first).2.receive room second).1,
        ((rx.receive room first).2.receive room second).2) := by
  induction first generalizing rx with
  | nil => rfl
  | cons chunk rest ih =>
    rw [List.cons_append, receive_cons, ih, receive_cons]
    simp only [List.append_assoc]

-- A run in which nothing was dropped has dropped nothing at any time.
theorem dropped_receive_take {rx : Receiver} {room : Nat} {chunks : List Bytes}
    (hall : (rx.receive room chunks).2.dropped = rx.dropped) (n : Nat) :
    (rx.receive room (chunks.take n)).2.dropped = rx.dropped := by
  apply le_antisymm _ (dropped_le_receive ..)
  rw [← hall]
  conv_rhs => rw [← List.take_append_drop n chunks, receive_append]
  exact dropped_le_receive ..

-- An empty receiver that is fed a first part of a stream has delivered the frames that end in
-- it.
theorem receive_of_isPrefix {rx : Receiver} {room : Nat} {noise : Bytes} {segments : List Segment}
    {chunks : List Bytes} (hempty : rx.ring.available = 0)
    (hframes : ∀ s ∈ segments, Frame.Written s.frame ∧ s.frame.length ≤ rx.limit room)
    (hclear : Segment.Clear (rx.limit room) noise segments)
    (hfed : chunks.flatten <+: Segment.stream noise segments)
    (hall : (rx.receive room chunks).2.dropped = rx.dropped) :
    (rx.receive room chunks).1 = Segment.arrived noise segments chunks.flatten.length ∧
      (rx.receive room chunks).2.ring.toList <:+
        (Scan.cut (rx.limit room) chunks.flatten).2 := by
  have hnil : rx.ring.toList = [] := (Ring.toList_eq_nil_iff _).mpr hempty
  obtain ⟨htracks, hsettled⟩ := tracks_receive (Scan.tracks_start (rx.limit room) _) hall
  have hend := hsettled (.inl (.inl (by rw [hnil]; decide)))
  rw [hnil, List.nil_append, List.nil_append] at htracks
  have hcut := (Scan.cut_take_stream hframes hclear chunks.flatten.length).1
  rw [← List.prefix_iff_eq_take.mp hfed] at hcut
  rcases htracks.cut_eq hend with ⟨hdelivered, hrest⟩ | ⟨last, hlen, hdelivered⟩
  · exact ⟨hdelivered.symm.trans hcut, hrest⟩
  · -- What is held back would be a frame, and those are longer.
    have hlast : last ∈ Segment.arrived noise segments chunks.flatten.length := by
      rw [← hcut, hdelivered]
      exact List.mem_append_right _ List.mem_cons_self
    obtain ⟨s, hs, rfl⟩ := Segment.mem_arrived hlast
    have hten := Scan.ten_le_frame (hframes s hs).1
    omega

/-- From a stream of frames among quiet noise, cut into chunks anywhere, an empty receiver delivers
exactly the frames, each with the chunk that brings its last byte; what stays buffered is noise
after the last of them. -/
theorem receive_stream {rx : Receiver} {room : Nat} {noise : Bytes} {segments : List Segment}
    {chunks : List Bytes} (hempty : rx.ring.available = 0)
    (hframes : ∀ s ∈ segments, Frame.Written s.frame ∧ s.frame.length ≤ rx.limit room)
    (hclear : Segment.Clear (rx.limit room) noise segments)
    (hstream : chunks.flatten = Segment.stream noise segments)
    (hall : (rx.receive room chunks).2.dropped = rx.dropped) :
    (∀ n, (rx.receive room (chunks.take n)).1 =
        Segment.arrived noise segments (chunks.take n).flatten.length) ∧
      (rx.receive room chunks).1 = segments.map Segment.frame ∧
      (rx.receive room chunks).2.ring.toList <:+ Segment.lastNoise noise segments := by
  have hwhole := receive_of_isPrefix hempty hframes hclear (by rw [hstream]) hall
  refine ⟨fun n => ?_, ?_, ?_⟩
  · have hfed : (chunks.take n).flatten <+: Segment.stream noise segments := by
      rw [← hstream, ← List.take_append_drop n chunks, List.flatten_append, List.take_append_drop]
      exact List.prefix_append ..
    exact (receive_of_isPrefix hempty hframes hclear hfed (dropped_receive_take hall n)).1
  · rw [hwhole.1, hstream, Segment.arrived_length]
  · have hrest := (Scan.cut_take_stream hframes hclear
      (Segment.stream noise segments).length).2 le_rfl
    rw [List.take_length, ← hstream] at hrest
    rw [← hrest]
    exact hwhole.2

-- A stray head whose length field is the head of the frame after it, cut in two places, and a
-- payload that looks like a head.
theorem receive_stream_stray_head :
    let frame := Frame.wire ⟨Command.ping, 7, [0xAA, 0x55, 0, 0]⟩
    let chunks : List Bytes := [[0xFF, 0xAA], [0x55, 0xAA], frame.drop 1 ++ [0xAA]]
    Segment.Clear 64 [0xFF, 0xAA, 0x55] [⟨frame, [0xAA]⟩] ∧
      ((ofCapacity 64 64).receive 64 chunks).1 = [frame] :=
  ⟨by decide +kernel,
    (@receive_stream (ofCapacity 64 64) 64 [0xFF, 0xAA, 0x55]
      [⟨Frame.wire ⟨Command.ping, 7, [0xAA, 0x55, 0, 0]⟩, [0xAA]⟩] _ (by decide +kernel)
      (by
        intro s hs
        rw [List.mem_singleton.mp hs]
        exact ⟨Frame.written_iff.mpr ⟨_, by decide, rfl⟩, by decide +kernel⟩)
      (by decide +kernel) (by decide +kernel) (by decide +kernel)).2.1⟩

end Receiver

end Acquisition
