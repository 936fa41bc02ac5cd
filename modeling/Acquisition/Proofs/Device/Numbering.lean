import Mathlib
import Acquisition.Proofs.Device.Counting
import Acquisition.Proofs.Device.Readable

/-!
# Sequence numbers

What the device attempts to send without being asked is numbered from zero on, one after the other,
whether or not the queue takes it, and replies do not count. So the numbers of two frames that were
queued tell how many were lost between them (`seq_of_attempts`).
-/

namespace Acquisition.Device

open RecordQueue (Offer)

variable {d d' : Device} {now : Nat} {f : Frame} {frames : List Frame}

/-! ## Numbers -/

/-- Frames that are numbered from zero on, and the number of the one that follows. -/
structure Numbered (frames : List Frame) (next : UInt8) : Prop where
  seqs : ∀ i (h : i < frames.length), frames[i].seq = UInt8.ofNat i
  next : next = UInt8.ofNat frames.length

theorem Move.seq (h : Move now d f d') : f.seq = d.nextSeq ∧ d'.nextSeq = d.nextSeq + 1 := by
  cases h <;> exact ⟨rfl, rfl⟩

theorem numbered_powerOn {config : Config} {entropy : Random.Stream}
    (h : powerOn config entropy = .ok d) : Numbered [] d.nextSeq := by
  rw [powerOn, (powerOn_ok h).1] at h
  cases h
  exact ⟨fun i hi => absurd hi (Nat.not_lt_zero i), rfl⟩

theorem Numbered.move (h : Numbered frames d.nextSeq) (hmove : Move now d f d') :
    Numbered (frames ++ [f]) d'.nextSeq := by
  obtain ⟨hseq, hnext⟩ := hmove.seq
  constructor
  · exact forall_getElem_concat (p := fun i (f : Frame) => f.seq = UInt8.ofNat i) h.seqs
      (hseq.trans h.next)
  · rw [hnext, h.next, List.length_append, List.length_singleton]
    exact (UInt8.ofNat_add _ 1).symm

theorem Numbered.moves {more : List Frame} (h : Numbered frames d.nextSeq)
    (hmoves : Moves now d more d') : Numbered (frames ++ more) d'.nextSeq := by
  induction hmoves generalizing frames with
  | nil => rwa [List.append_nil]
  | cons hmove _ ih =>
    rw [List.append_cons]
    exact ih (h.move hmove)

theorem handleRequest_nextSeq (d : Device) (request : Request) (now : Nat) :
    (d.handleRequest request now).2.nextSeq = d.nextSeq := by
  cases request with
  | requestBufferedData =>
    simp only [handleRequest]
    split <;> rfl
  | _ => rfl

-- Only the passing of time advances the counter.
theorem step_nextSeq (d : Device) (input : Input) :
    (d.step input).nextSeq =
      match input with
      | .tick now _ => (d.due now).2.nextSeq
      | _ => d.nextSeq := by
  obtain ⟨counts, hstep⟩ := d.step_eq input
  rw [hstep]
  change (d.turn input).nextSeq = _
  cases input with
  | frame wire now queue =>
    rw [turn]
    split
    · exact handleRequest_nextSeq ..
    · rfl
  | request request now => exact handleRequest_nextSeq ..
  | tick | stop => rfl

theorem Numbered.step (h : Numbered frames d.nextSeq) (hchecked : d.config.Checked)
    (input : Input) :
    Numbered (frames ++ ((d.emits input).filter fun sent =>
      Command.isUnsolicited sent.2.command).map (·.2)) (d.step input).nextSeq := by
  rw [unprompted_emits, step_nextSeq]
  cases input with
  | tick now queue =>
    have hsame : ((d.due now).1.map (now, ·)).map (·.2) = (d.due now).1 := by simp
    rw [hsame]
    exact h.moves (due_moves hchecked now)
  | frame | request | stop => rwa [List.map_nil, List.append_nil]

theorem Numbered.run (h : Numbered frames d.nextSeq) (hchecked : d.config.Checked)
    (inputs : List Input) :
    Numbered (frames ++ (d.unpromptedOver inputs).map (·.2)) (d.run inputs).nextSeq := by
  induction inputs generalizing d frames with
  | nil =>
    rw [unpromptedOver, emissions, List.filter_nil, List.map_nil, List.append_nil]
    exact h
  | cons input rest ih =>
    have hrest := ih (h.step hchecked input) ((d.step_config input).symm ▸ hchecked)
    rw [unpromptedOver, emissions, List.filter_append, List.map_append, ← List.append_assoc]
    exact hrest

-- The numbers of two frames tell how many there are between them.
theorem Numbered.gap {next : UInt8} {g : Frame} {before between after : List Frame}
    (h : Numbered (before ++ f :: (between ++ g :: after)) next) :
    g.seq - f.seq - 1 = UInt8.ofNat between.length := by
  have hf := h.seqs before.length (by simp)
  have hg := h.seqs (before.length + (between.length + 1)) (by simp)
  rw [List.getElem_append_right (Nat.le_refl _)] at hf
  rw [List.getElem_append_right (Nat.le_add_right ..)] at hg
  simp only [Nat.sub_self, Nat.add_sub_cancel_left, List.getElem_cons_zero,
    List.getElem_cons_succ, List.getElem_append_right (Nat.le_refl _)] at hf hg
  rw [hf, hg, UInt8.ofNat_add, UInt8.ofNat_add, UInt8.add_comm, UInt8.add_sub_cancel]
  exact UInt8.add_sub_cancel _ _

/-- Over a run, whatever replies come between and whether or not there is room in the queues, the
frames that a device attempts to send without being asked are numbered one after the other, modulo
256. A reply has the number of its request and does not count. Each attempt is counted as queued or
as dropped, and attempts are replies to handled frames or unprompted. So if between two unprompted
frames, queued or not, none was queued, the difference of their numbers less one is, modulo 256, how
many unprompted frames were dropped between them, each because the queue was full. -/
theorem seq_of_attempts {config : Config} {entropy : Random.Stream} {d₀ : Device}
    (hpower : powerOn config entropy = .ok d₀) (inputs : List Input) :
    let d := d₀.run inputs
    let unprompted := d₀.unpromptedOver inputs
    let offers := d₀.offersOver inputs
    let unpromptedOffers := offers.filter fun o => Command.isUnsolicited o.frame.command
    (∀ i (h : i < unprompted.length), unprompted[i].2.seq = UInt8.ofNat i) ∧
    (∀ wire now queue,
      (d.step (.frame wire now queue)).nextSeq = d.nextSeq ∧
      match received? wire with
      | some f => ∃ reply, d.emits (.frame wire now queue) = [(now, reply)] ∧ reply.seq = f.seq
      | none => d.emits (.frame wire now queue) = []) ∧
    d.stats.framesQueued = offers.countP Offer.queued ∧
    d.stats.framesDropped = offers.countP (!·.queued) ∧
    d.stats.framesQueued + d.stats.framesDropped = d.stats.framesHandled + unprompted.length ∧
    unpromptedOffers.map Offer.frame = unprompted.map (·.2) ∧
    ∀ before first between second after,
      unpromptedOffers = before ++ first :: (between ++ second :: after) →
      (∀ lost ∈ between, ¬ lost.queued) →
      (∀ lost ∈ between, ∃ needed free,
        lost.result = .error (.queueFull needed free) ∧ free < needed) ∧
      second.frame.seq - first.frame.seq - 1 = UInt8.ofNat between.length := by
  intro d unprompted offers unpromptedOffers
  obtain ⟨hvalid, hconfig, hstats⟩ := powerOn_ok hpower
  have hchecked : d₀.config.Checked := hconfig ▸ Config.checked_of_validate hvalid
  have hnumbered := (numbered_powerOn hpower).run hchecked inputs
  obtain ⟨hcounted, hfull⟩ := counted_run (fun before input sent hsent =>
    (readable_run hpower before input sent hsent).wireSize) inputs
  rw [hstats] at hcounted
  have hqueued := hcounted.queued.trans (Nat.zero_add _)
  have hdropped := hcounted.dropped.trans (Nat.zero_add _)
  have hframes : unpromptedOffers.map Offer.frame = unprompted.map (·.2) := calc
    _ = (offers.map Offer.frame).filter (Command.isUnsolicited ·.command) :=
      (List.filter_map ..).symm
    _ = ((d₀.emissions inputs).map (·.2)).filter (Command.isUnsolicited ·.command) := by
      rw [map_frame_offersOver]
    _ = _ := List.filter_map ..
  refine ⟨fun i h => ?_, fun wire now queue => ⟨step_nextSeq .., ?_⟩, hqueued, hdropped, ?_,
    hframes, fun before first between second after hsplit hlost => ⟨fun lost hmem => ?_, ?_⟩⟩
  · have hseq := hnumbered.seqs i (by simpa using h)
    simpa using hseq
  · cases hreceived : received? wire with
    | some f =>
      refine ⟨_, ?_, reply_seq d f now⟩
      rw [emits, respond_of_received hreceived]
      rfl
    | none =>
      dsimp only
      rw [emits, respond_of_not_received hreceived]
      rfl
  · exact hcounted.all.trans hcounted.handled.symm
  · have hoffer : lost ∈ unpromptedOffers := by
      rw [hsplit]
      simp [hmem]
    exact hfull lost (List.mem_filter.mp hoffer).1 (Bool.eq_false_iff.mpr (hlost lost hmem))
  · rw [List.nil_append, ← hframes, hsplit] at hnumbered
    simp only [List.map_append, List.map_cons] at hnumbered
    simpa using hnumbered.gap

-- A packet finds no room, and a ping is answered before the next one.
theorem seq_of_attempts_full_queue :
    let config : Config :=
      { dataIntervalMs := 3, samplesPerPacket := 1, signal := { noise := 0 } }
    let queue := RecordQueue.ofCapacity 64
    let full := RecordQueue.ofCapacity 4
    let ping : Frame := ⟨Command.ping, 200, []⟩
    let inputs : List Input := [.request .startStream 0, .tick 0 queue, .tick 3 full,
      .frame ping.wire 4 queue, .tick 6 queue]
    ∃ d₀, powerOn config (Random.Stream.ofSeed 7) = .ok d₀ ∧
      ((d₀.offersOver inputs).map fun o => (o.frame.seq, o.queued)) =
        [(0, true), (1, false), (200, true), (2, true)] ∧
      (d₀.run inputs).stats.framesQueued + (d₀.run inputs).stats.framesDropped =
        (d₀.run inputs).stats.framesHandled + (d₀.unpromptedOver inputs).length ∧
      ∃ first lost second,
        ((d₀.offersOver inputs).filter fun o => Command.isUnsolicited o.frame.command) =
          [first, lost, second] ∧
        (∃ needed free, lost.result = .error (.queueFull needed free) ∧ free < needed) ∧
        second.frame.seq - first.frame.seq - 1 = 1 := by
  intro config queue full ping inputs
  let d₀ : Device := ⟨config, State.powerOn config, Random.Stream.ofSeed 7, 0, {}⟩
  have hpower : powerOn config (Random.Stream.ofSeed 7) = .ok d₀ := rfl
  obtain ⟨-, -, -, -, hcounts, -, hgap⟩ := seq_of_attempts hpower inputs
  refine ⟨d₀, hpower, by decide +kernel, hcounts, ?_⟩
  have hqueued : (((d₀.offersOver inputs).filter fun o =>
      Command.isUnsolicited o.frame.command).map Offer.queued) = [true, false, true] := by
    decide +kernel
  obtain ⟨first, lost, second, hsplit⟩ :=
    List.length_eq_three.mp ((List.length_map _).symm.trans (congrArg List.length hqueued))
  rw [hsplit] at hqueued
  obtain ⟨hfull, hseq⟩ := hgap [] first [lost] second [] hsplit (by simp_all)
  exact ⟨first, lost, second, hsplit, hfull lost (List.mem_singleton_self lost), hseq⟩

end Acquisition.Device
