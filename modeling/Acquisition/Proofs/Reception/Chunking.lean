import Mathlib
import Acquisition.Proofs.Frame.Layout
import Acquisition.Proofs.Reception.Scanner

/-!
# Reception in chunks

A byte stream reaches a receiver in chunks of any size. What a receiver has delivered so far is
always a first part of the candidates of the whole stream (`Tracks`), so the way in which the stream
is cut does not show in the frames. Only the rule that fewer than `minScan` bytes are not looked at
can hold back one last candidate, which is then too short to be a frame.
-/

namespace Acquisition

namespace Scan

/-- After the bytes `fed`, `delivered` has been cut out and `buffered` is left. Behind the last
delivered candidate stands `rest`, of which no more has been given up than a scan goes past
anyway; so whatever comes later, the candidates of the whole are those delivered and then those
of `rest` with what comes later. -/
def Tracks (limit : Nat) (fed : Bytes) (delivered : List Bytes) (buffered : Bytes) : Prop :=
  ∃ (rest : Bytes) (skipped : Nat),
    buffered = rest.drop skipped ∧ (∀ i < skipped, Skips limit (rest.drop i)) ∧
      ∀ later, cut limit (fed ++ later) =
        (delivered ++ (cut limit (rest ++ later)).1, (cut limit (rest ++ later)).2)

theorem tracks_start (limit : Nat) (b : Bytes) : Tracks limit b [] b :=
  ⟨b, 0, by simp, by simp, fun _ => rfl⟩

variable {limit skipped size : Nat} {fed buffered : Bytes} {delivered : List Bytes}

private theorem drop_append_of_skips {rest : Bytes} (h : ∀ i < skipped, Skips limit (rest.drop i))
    (later : Bytes) {i : Nat} (hi : i ≤ skipped) :
    (rest ++ later).drop i = rest.drop i ++ later :=
  List.drop_append_of_le_length (hi.trans (le_length_of_skips h))

theorem Tracks.feed (h : Tracks limit fed delivered buffered) (chunk : Bytes) :
    Tracks limit (fed ++ chunk) delivered (buffered ++ chunk) := by
  obtain ⟨rest, skipped, rfl, hskips, hcut⟩ := h
  refine ⟨rest ++ chunk, skipped, ?_, fun i hi => ?_, fun later => ?_⟩
  · rw [drop_append_of_skips hskips chunk le_rfl]
  · rw [drop_append_of_skips hskips chunk hi.le]
    exact (hskips i hi).append chunk
  · rw [List.append_assoc, List.append_assoc, hcut]

theorem Tracks.deliver (h : Tracks limit fed delivered buffered)
    (hfound : ofList limit buffered = .candidate skipped size) :
    Tracks limit fed (delivered ++ [(buffered.drop skipped).take size])
      (buffered.drop (skipped + size)) := by
  obtain ⟨rest, gone, rfl, hskips, hcut⟩ := h
  refine ⟨(rest.drop gone).drop (skipped + size), 0, rfl, by simp, fun later => ?_⟩
  have hle := (ofList_candidate_bounds hfound).2
  have hdrop : (rest ++ later).drop gone = rest.drop gone ++ later :=
    drop_append_of_skips hskips later le_rfl
  have hskips' : ∀ i < gone, Skips limit ((rest ++ later).drop i) := fun i hi => by
    rw [drop_append_of_skips hskips later hi.le]
    exact (hskips i hi).append later
  have hfound' : ofList limit (rest ++ later) = .candidate (gone + skipped) size := by
    rw [ofList_eq_shift hskips', hdrop, ofList_append hfound]
    rfl
  rw [hcut, cut_candidate hfound', ← List.drop_drop, hdrop, Nat.add_assoc, ← List.drop_drop, hdrop,
    List.drop_append_of_le_length (by omega), List.drop_append_of_le_length (by omega),
    List.take_append_of_le_length (by rw [List.length_drop]; omega), List.append_assoc]
  rfl

theorem Tracks.discard (h : Tracks limit fed delivered buffered)
    (hfound : ofList limit buffered = .waiting skipped) :
    Tracks limit fed delivered (buffered.drop skipped) := by
  obtain ⟨rest, gone, rfl, hskips, hcut⟩ := h
  refine ⟨rest, gone + skipped, List.drop_drop, fun i hi => ?_, hcut⟩
  by_cases hlt : i < gone
  · exact hskips i hlt
  · obtain ⟨j, rfl⟩ := Nat.exists_eq_add_of_le (Nat.le_of_not_lt hlt)
    rw [← List.drop_drop]
    exact (of_ofList_waiting hfound).1.skips j (by omega)

/-- Nothing more is taken from these bytes as long as no more arrive. -/
def Settled (limit : Nat) (buffered : Bytes) : Prop :=
  buffered.length < Receiver.minScan ∨ ∃ skipped, ofList limit buffered = .waiting skipped

theorem cut_of_length_lt {b : Bytes} (h : b.length < Frame.overhead) : cut limit b = ([], b) := by
  cases hfound : ofList limit b with
  | candidate skipped size =>
    have hbounds := ofList_candidate_bounds hfound
    omega
  | waiting skipped => exact cut_waiting hfound

-- Once a receiver has settled, it has delivered all there is, but for one candidate of 6 or 7
-- bytes that it does not look at yet.
theorem Tracks.cut_eq (h : Tracks limit fed delivered buffered)
    (hsettled : Settled limit buffered) :
    ((cut limit fed).1 = delivered ∧ buffered <:+ (cut limit fed).2) ∨
      ∃ last : Bytes, (last.length = 6 ∨ last.length = 7) ∧
        (cut limit fed).1 = delivered ++ [last] := by
  obtain ⟨rest, gone, rfl, hskips, hcut⟩ := h
  have hcut := hcut []
  simp only [List.append_nil] at hcut
  rw [hcut]
  have hscan := ofList_eq_shift hskips
  cases hfound : ofList limit (rest.drop gone) with
  | waiting skipped =>
    rw [hfound] at hscan
    rw [cut_waiting hscan]
    exact .inl ⟨List.append_nil _, List.drop_suffix ..⟩
  | candidate skipped size =>
    have hbounds := ofList_candidate_bounds hfound
    have hshort : (rest.drop gone).length < 8 := hsettled.resolve_right fun ⟨_, hwaiting⟩ => by
      rw [hfound] at hwaiting
      cases hwaiting
    rw [List.length_drop] at hbounds hshort
    have hoverhead : Frame.overhead = 6 := rfl
    rw [hfound] at hscan
    rw [cut_candidate hscan, cut_of_length_lt (by rw [List.length_drop]; omega)]
    refine .inr ⟨_, ?_, rfl⟩
    rw [List.length_take, List.length_drop]
    omega

end Scan

namespace Receiver

/-- Feeds the chunks one after the other and drains after each of them. -/
def receive (rx : Receiver) (room : Nat) : List Bytes → List Bytes × Receiver
  | [] => ([], rx)
  | chunk :: rest =>
    let (_, rx) := rx.feed chunk
    let (delivered, rx) := rx.drain room
    let (more, rx) := receive rx room rest
    (delivered ++ more, rx)

theorem receive_cons (rx : Receiver) (room : Nat) (chunk : Bytes) (rest : List Bytes) :
    rx.receive room (chunk :: rest) =
      (((rx.feed chunk).2.drain room).1 ++
          (((rx.feed chunk).2.drain room).2.receive room rest).1,
        (((rx.feed chunk).2.drain room).2.receive room rest).2) :=
  rfl

theorem receive_singleton (rx : Receiver) (room : Nat) (chunk : Bytes) :
    rx.receive room [chunk] = (rx.feed chunk).2.drain room := by
  rw [receive_cons, receive, List.append_nil]

/-! ## One drain -/

theorem drain_spec (rx : Receiver) (room : Nat) {fed : Bytes} {delivered : List Bytes}
    (h : Scan.Tracks (rx.limit room) fed delivered rx.ring.toList) :
    Scan.Tracks (rx.limit room) fed (delivered ++ (rx.drain room).1) (rx.drain room).2.ring.toList ∧
      Scan.Settled (rx.limit room) (rx.drain room).2.ring.toList ∧
      (rx.drain room).2.maxFrame = rx.maxFrame ∧ (rx.drain room).2.dropped = rx.dropped := by
  induction hn : rx.ring.available using Nat.strong_induction_on generalizing rx delivered with
  | h n ih =>
    have hextract := rx.extract_eq room
    split at hextract
    · rename_i hshort
      rw [drain_eq_of_none hextract, List.append_nil]
      refine ⟨h, .inl ?_, rfl, rfl⟩
      rw [Ring.length_toList]
      exact hshort
    · cases hfound : Scan.ofList (rx.limit room) rx.ring.toList with
      | candidate skipped size =>
        rw [hfound] at hextract
        have hless := available_lt_of_extract hextract
        have hstep := h.deliver hfound
        rw [← Ring.toList_advance rx.ring (skipped + size)] at hstep
        rw [drain_eq_of_some hextract, List.append_cons]
        exact ih _ (hn ▸ hless) _ hstep rfl
      | waiting skipped =>
        rw [hfound] at hextract
        have hstop := Scan.of_ofList_waiting hfound
        rw [drain_eq_of_none hextract, List.append_nil]
        dsimp only
        rw [Ring.toList_advance]
        refine ⟨h.discard hfound, .inr ⟨0, ?_⟩, rfl, rfl⟩
        rw [Scan.ofList_of_not_skips hstop.1.stops, if_neg hstop.2]

theorem limit_drain (rx : Receiver) (room : Nat) :
    (rx.drain room).2.limit room = rx.limit room := by
  rw [limit, limit, (drain_spec rx room (Scan.tracks_start _ _)).2.2.1]

theorem dropped_drain (rx : Receiver) (room : Nat) : (rx.drain room).2.dropped = rx.dropped :=
  (drain_spec rx room (Scan.tracks_start _ _)).2.2.2

/-! ## One chunk -/

theorem dropped_feed (rx : Receiver) (chunk : Bytes) :
    (rx.feed chunk).2.dropped = rx.dropped + (chunk.length - min chunk.length rx.ring.free) :=
  rfl

-- A chunk of which nothing is dropped is buffered whole.
theorem toList_feed {rx : Receiver} {chunk : Bytes} (h : (rx.feed chunk).2.dropped ≤ rx.dropped) :
    (rx.feed chunk).2.ring.toList = rx.ring.toList ++ chunk := by
  rw [dropped_feed] at h
  exact Ring.toList_push_of_le _ (by omega)

theorem dropped_le_receive (rx : Receiver) (room : Nat) (chunks : List Bytes) :
    rx.dropped ≤ (rx.receive room chunks).2.dropped := by
  induction chunks generalizing rx with
  | nil => exact le_rfl
  | cons chunk rest ih =>
    have hrest := ih ((rx.feed chunk).2.drain room).2
    rw [dropped_drain, dropped_feed] at hrest
    rw [receive_cons]
    exact (Nat.le_add_right ..).trans hrest

-- A run over chunks that were all accepted keeps track of the stream.
theorem tracks_receive {rx : Receiver} {room : Nat} {chunks : List Bytes} {fed : Bytes}
    {delivered : List Bytes} (h : Scan.Tracks (rx.limit room) fed delivered rx.ring.toList)
    (hall : (rx.receive room chunks).2.dropped = rx.dropped) :
    Scan.Tracks (rx.limit room) (fed ++ chunks.flatten) (delivered ++ (rx.receive room chunks).1)
        (rx.receive room chunks).2.ring.toList ∧
      (Scan.Settled (rx.limit room) rx.ring.toList ∨ chunks ≠ [] →
        Scan.Settled (rx.limit room) (rx.receive room chunks).2.ring.toList) := by
  induction chunks generalizing rx fed delivered with
  | nil =>
    rw [List.flatten_nil, List.append_nil]
    exact ⟨by rw [receive, List.append_nil]; exact h, fun hs => hs.resolve_right (by simp)⟩
  | cons chunk rest ih =>
    rw [receive_cons] at hall ⊢
    have hrest := dropped_le_receive ((rx.feed chunk).2.drain room).2 room rest
    rw [hall, dropped_drain] at hrest
    have hkept : (rx.feed chunk).2.dropped = rx.dropped :=
      le_antisymm hrest (Nat.le_add_right ..)
    have hfed := h.feed chunk
    rw [← toList_feed hrest] at hfed
    obtain ⟨hdrained, hsettled, -⟩ := drain_spec (rx.feed chunk).2 room hfed
    rw [← limit_drain (rx.feed chunk).2 room] at hdrained hsettled
    obtain ⟨htracks, hend⟩ := ih hdrained (by rw [hall, dropped_drain, hkept])
    rw [limit_drain, List.append_assoc, List.append_assoc] at htracks
    rw [limit_drain] at hend hsettled
    exact ⟨htracks, fun _ => hend (.inl hsettled)⟩

/-! ## A whole run -/

-- A run delivers the candidates of the stream, but for a short last one that is not looked at.
-- Without a chunk nothing is looked at either, so then nothing may be waiting.
theorem cut_eq_receive {rx : Receiver} {room : Nat} {chunks : List Bytes}
    (hstart : chunks ≠ [] ∨ (rx.drain room).1 = [])
    (hall : (rx.receive room chunks).2.dropped = rx.dropped) :
    (Scan.cut (rx.limit room) (rx.ring.toList ++ chunks.flatten)).1 = (rx.receive room chunks).1 ∨
      ∃ last : Bytes, (last.length = 6 ∨ last.length = 7) ∧
        (Scan.cut (rx.limit room) (rx.ring.toList ++ chunks.flatten)).1 =
          (rx.receive room chunks).1 ++ [last] := by
  by_cases hnone : chunks = []
  · subst hnone
    have hidle := hstart.resolve_left (by simp)
    have hdrain := drain_spec rx room (Scan.tracks_start (rx.limit room) rx.ring.toList)
    rw [hidle] at hdrain
    have hcut := hdrain.1.cut_eq hdrain.2.1
    simp only [List.flatten_nil, List.append_nil]
    exact hcut.imp_left And.left
  · obtain ⟨htracks, hsettled⟩ := tracks_receive (Scan.tracks_start (rx.limit room) _) hall
    exact (htracks.cut_eq (hsettled (.inr hnone))).imp_left And.left

private theorem filter_append_last {last : Bytes} (h : last.length = 6 ∨ last.length = 7)
    (delivered : List Bytes) :
    (delivered ++ [last]).filter (fun c => decide (minScan ≤ c.length)) =
      delivered.filter (fun c => decide (minScan ≤ c.length)) := by
  have hshort : ¬ minScan ≤ last.length := by
    rw [minScan]
    omega
  rw [List.filter_append, List.filter_singleton, decide_eq_false hshort]
  exact List.append_nil _

private theorem decode_append_last {last : Bytes} (h : last.length = 6 ∨ last.length = 7)
    (delivered : List Bytes) :
    (delivered ++ [last]).filterMap (fun c => (Frame.decode c).toOption) =
      delivered.filterMap (fun c => (Frame.decode c).toOption) := by
  have hnone : (Frame.decode last).toOption = none := by
    cases hdecode : Frame.decode last with
    | error e => rfl
    | ok f =>
      have hmin := Frame.minSize_le_of_decode hdecode
      simp only [Frame.minSize, Frame.overhead, Frame.fixedLength] at hmin
      omega
  rw [List.filterMap_append, List.filterMap_cons, hnone]
  exact List.append_nil _

/-- Two ways of cutting one stream into chunks deliver the same candidates, but for one last of 6
or 7 bytes, and so the same frames. Without any chunk a receiver does not look at what it holds, so
an empty cut is like the others only where nothing is waiting at the start, as in a new receiver. -/
theorem receive_eq_of_flatten_eq (rx : Receiver) (room : Nat) (chunks₁ chunks₂ : List Bytes)
    (hstream : chunks₁.flatten = chunks₂.flatten)
    (hstart : (chunks₁ = [] ↔ chunks₂ = []) ∨ (rx.drain room).1 = [])
    (hall₁ : (rx.receive room chunks₁).2.dropped = rx.dropped)
    (hall₂ : (rx.receive room chunks₂).2.dropped = rx.dropped) :
    let delivered₁ := (rx.receive room chunks₁).1
    let delivered₂ := (rx.receive room chunks₂).1
    delivered₁.filter (fun c => minScan ≤ c.length) =
        delivered₂.filter (fun c => minScan ≤ c.length) ∧
      (delivered₁ = delivered₂ ∨
        ∃ last : Bytes, (last.length = 6 ∨ last.length = 7) ∧
          (delivered₁ = delivered₂ ++ [last] ∨ delivered₂ = delivered₁ ++ [last])) ∧
      delivered₁.filterMap (fun c => (Frame.decode c).toOption) =
        delivered₂.filterMap (fun c => (Frame.decode c).toOption) := by
  intro delivered₁ delivered₂
  by_cases hempty : chunks₁ = [] ∧ chunks₂ = []
  · have heq : delivered₁ = delivered₂ := by
      simp only [delivered₁, delivered₂, hempty.1, hempty.2]
    rw [heq]
    exact ⟨rfl, .inl rfl, rfl⟩
  · have hcut₁ := cut_eq_receive (by tauto) hall₁
    have hcut₂ := cut_eq_receive (by tauto) hall₂
    rw [hstream] at hcut₁
    rcases hcut₁ with h₁ | ⟨last₁, hlen₁, h₁⟩ <;> rcases hcut₂ with h₂ | ⟨last₂, hlen₂, h₂⟩ <;>
      have heq := h₁.symm.trans h₂
    · change delivered₁ = delivered₂ at heq
      rw [heq]
      exact ⟨rfl, .inl rfl, rfl⟩
    · change delivered₁ = delivered₂ ++ [last₂] at heq
      rw [heq]
      exact ⟨filter_append_last hlen₂ _, .inr ⟨last₂, hlen₂, .inl rfl⟩, decode_append_last hlen₂ _⟩
    · change delivered₁ ++ [last₁] = delivered₂ at heq
      rw [← heq]
      exact ⟨(filter_append_last hlen₁ _).symm, .inr ⟨last₁, hlen₁, .inr rfl⟩,
        (decode_append_last hlen₁ _).symm⟩
    · have hdelivered : delivered₁ = delivered₂ := List.append_inj_left' heq rfl
      rw [hdelivered]
      exact ⟨rfl, .inl rfl, rfl⟩

-- A candidate of 6 bytes is delivered when it comes along with the noise before it, and held back
-- when it comes later.
theorem receive_eq_of_flatten_eq_held_back :
    let rx := ofCapacity 32 64
    let whole : List Bytes := [List.replicate 8 0xFF ++ [0xAA, 0x55, 0, 0, 1, 2]]
    let parts : List Bytes := [List.replicate 8 0xFF, [0xAA, 0x55, 0, 0, 1, 2]]
    (rx.receive 64 whole).1 = [[0xAA, 0x55, 0, 0, 1, 2]] ∧ (rx.receive 64 parts).1 = [] ∧
      (rx.receive 64 whole).1.filter (fun c => minScan ≤ c.length) =
        (rx.receive 64 parts).1.filter (fun c => minScan ≤ c.length) :=
  ⟨by decide +kernel, by decide +kernel,
    (receive_eq_of_flatten_eq (ofCapacity 32 64) 64 _ _ (by decide) (.inl (by simp))
      (by decide +kernel) (by decide +kernel)).1⟩

end Receiver

end Acquisition
