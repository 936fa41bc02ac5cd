import Mathlib
import Acquisition.Link.Loopback
import Acquisition.Proofs.Device.Counting
import Acquisition.Proofs.Device.Readable
import Acquisition.Proofs.Queue.Bounded
import Acquisition.Proofs.Session.Recording

/-!
# What a device sends gets through its session

The device of a session is at all times one that a run has led to, so its frames can be read. They
also get through the queue: an empty one takes each of them, and none is queued that could not be
taken from it again (`readable_emissions`).
-/

namespace Acquisition

/-! ## Queues that frames pass through -/

namespace RecordQueue

/-- Each record can be taken with room for a frame of the largest size. -/
structure Passes (capacity : Nat) (q : RecordQueue) : Prop where
  capacity : q.ring.capacity = capacity
  records : ∃ records, q.Holds records ∧ ∀ record ∈ records, record.length ≤ Frame.maxSize

variable {capacity : Nat} {q : RecordQueue}

theorem Passes.dequeue (h : Passes capacity q) :
    (∃ record, (q.dequeue Frame.maxSize).1 = .ok record) ∧
      Passes capacity (q.dequeue Frame.maxSize).2 := by
  have hcapacity := (capacity_dequeue q Frame.maxSize).trans h.capacity
  obtain ⟨records, hholds, hsize⟩ := h.records
  cases records with
  | nil =>
    rw [hholds.dequeue_nil]
    exact ⟨⟨none, rfl⟩, h⟩
  | cons record rest =>
    obtain ⟨hfirst, hmore⟩ := List.forall_mem_cons.mp hsize
    obtain ⟨q', hrest, hdequeue⟩ := hholds.dequeue_cons Frame.maxSize
    rw [if_neg (Nat.not_lt_of_le hfirst)] at hdequeue
    rw [hdequeue] at hcapacity ⊢
    exact ⟨⟨some record, rfl⟩, hcapacity, rest, hrest, hmore⟩

theorem Passes.iterate_dequeue (h : Passes capacity q) (n : Nat) :
    Passes capacity ((fun q => (q.dequeue Frame.maxSize).2)^[n] q) := by
  induction n generalizing q with
  | zero => exact h
  | succ n ih => exact ih h.dequeue.2

theorem Passes.enqueueAll (h : Passes capacity q) (frames : List Frame) :
    Passes capacity (q.enqueueAll frames).queue := by
  obtain ⟨records, hholds, hsize⟩ := h.records
  refine ⟨?_, _, hholds.enqueueAll frames, fun record hrecord => ?_⟩
  · rw [← h.capacity]
    clear h hholds
    induction frames generalizing q with
    | nil => rfl
    | cons f rest ih =>
      have henqueue := q.capacity_enqueue f.wire
      simp only [RecordQueue.enqueueAll]
      split
      · exact ih
      · split <;> rename_i hq <;> rw [hq] at henqueue <;> exact ih.trans henqueue
  · rcases List.mem_append.mp hrecord with hrecord | hrecord
    · exact hsize record hrecord
    · obtain ⟨f, hf, rfl⟩ := List.mem_map.mp hrecord
      exact f.length_wire.trans_le (wireSize_le_of_admitted hf)

-- An empty queue has all of its capacity free.
theorem Passes.enqueue_of_isEmpty (h : Passes capacity q) (hempty : q.isEmpty = true)
    {f : Frame} (hsize : f.wireSize ≤ Frame.maxSize)
    (hroom : Frame.maxSize + lengthBytes ≤ capacity) :
    ∃ q', q.enqueue f.wire = (.ok (), q') := by
  obtain ⟨records, hholds, -⟩ := h.records
  have hlength := f.length_wire
  have hfree : q.ring.free = capacity := by
    rw [Ring.free, h.capacity, (Ring.isEmpty_iff _).mp hempty, Nat.sub_zero]
  obtain ⟨q', hq, -, -⟩ := hholds.enqueue_of_room (Frame.length_wire_lt hsize) (by omega)
  exact ⟨q', hq⟩

end RecordQueue

/-! ## Sessions as runs of the device -/

namespace Device

theorem exists_emits_of_mem {d : Device} {inputs : List Input} {sent : Nat × Frame}
    (h : sent ∈ d.emissions inputs) : ∃ before input, sent ∈ (d.run before).emits input := by
  induction inputs generalizing d with
  | nil => cases h
  | cons input rest ih =>
    rcases List.mem_append.mp h with hfirst | hrest
    · exact ⟨[], input, hfirst⟩
    · obtain ⟨before, last, hsent⟩ := ih hrest
      exact ⟨input :: before, last, hsent⟩

end Device

namespace Session

-- A cycle gives the device the frames that have arrived, and then the time.
theorem exists_run_of_cycle (d : Device) (now : Nat) (wires : List Bytes) (q : RecordQueue) :
    ∃ inputs, d.run inputs = ((handleAll d now wires q).1.tick now (handleAll d now wires q).2).1 ∧
      d.emissions inputs = (d.emit now wires).1.map (now, ·) := by
  induction wires generalizing d q with
  | nil => exact ⟨[.tick now q], rfl, List.append_nil _⟩
  | cons wire rest ih =>
    obtain ⟨inputs, hrun, hemissions⟩ :=
      ih (d.handleFrame wire now q).1 (d.handleFrame wire now q).2
    refine ⟨.frame wire now q :: inputs, hrun, ?_⟩
    rw [Device.emissions, Device.step, hemissions]
    simp only [Device.handleFrame, Device.sendAll_eq, Device.emits, Device.emit, Device.respondAll,
      Device.respondAll_tally, Device.due_tally, List.map_append, List.append_assoc]

variable {σ : Type}

/-- A run has led to the device, and its frames pass through the queue. -/
structure Reached (d₀ : Device) (capacity : Nat) (d : Device) (tx : RecordQueue) : Prop where
  device : ∃ inputs, d = d₀.run inputs
  queue : tx.Passes capacity

variable {d₀ : Device} {capacity : Nat} {s : Session σ}

theorem reached_dispatch (h : Reached d₀ capacity s.device s.tx) (arrived : Bytes) (now : Nat) :
    Reached d₀ capacity (s.dispatch arrived now).2.device (s.dispatch arrived now).2.tx := by
  obtain ⟨inputs, hinputs⟩ := h.device
  obtain ⟨more, hrun, -⟩ := exists_run_of_cycle s.device now
    ((s.rx.feed arrived).2.drain Frame.maxSize).1 s.tx
  constructor
  · refine ⟨inputs ++ more, ?_⟩
    rw [Device.run_append, ← hinputs, hrun]
    rfl
  · rw [dispatch_eq]
    exact h.queue.enqueueAll _

theorem reached_dequeue {tx tx' : RecordQueue} {d : Device}
    {result : Except FrameError (Option Bytes)} (h : Reached d₀ capacity d tx)
    (hdequeue : tx.dequeue Frame.maxSize = (result, tx')) : Reached d₀ capacity d tx' := by
  have hpasses := h.queue.dequeue.2
  rw [hdequeue] at hpasses
  exact ⟨h.device, hpasses⟩

variable [Link σ]

theorem reached_transmit (h : Reached d₀ capacity s.device s.tx) (p : PollStats) :
    Reached d₀ capacity (s.transmit p).2.device (s.transmit p).2.tx := by
  fun_induction transmit s p with
  | case1 _ _ _ hdequeue | case3 _ _ _ _ hdequeue | case4 _ _ _ _ hdequeue =>
    exact reached_dequeue h hdequeue
  | case2 _ _ _ _ hdequeue ih | case5 _ _ _ _ hdequeue _ _ _ _ _ ih =>
    exact ih (reached_dequeue h hdequeue)

theorem reached_sendOut (h : Reached d₀ capacity s.device s.tx) (p : PollStats) :
    Reached d₀ capacity (s.sendOut p).2.device (s.sendOut p).2.tx := by
  have hflush : Reached d₀ capacity (s.flush p).2.device (s.flush p).2.tx := by
    rw [flush]
    split
    · exact h
    · split <;> exact h
  rw [sendOut]
  rcases hfirst : s.flush p with ⟨e | moved, s'⟩ <;> rw [hfirst] at hflush
  · exact hflush
  · dsimp only
    split
    · exact reached_transmit hflush moved
    · exact hflush

theorem reached_poll (h : Reached d₀ capacity s.device s.tx) (now : Nat) :
    Reached d₀ capacity (s.poll now).2.device (s.poll now).2.tx := by
  rcases hreceive : Link.receive s.link s.config.receiveChunk with ⟨e | arrived, link⟩
  · rw [poll_of_error hreceive]
    exact h
  · have hdispatch := reached_dispatch (s := { s with link }) h arrived now
    have hout := reached_sendOut hdispatch (dispatch { s with link } arrived now).1
    rw [poll_of_arrival hreceive]
    rcases hsent : sendOut (dispatch { s with link } arrived now).2
      (dispatch { s with link } arrived now).1 with ⟨e | moved, s'⟩ <;>
      rw [hsent] at hout <;> exact hout

theorem reached_pollAll (h : Reached d₀ capacity s.device s.tx) (times : List Nat) :
    Reached d₀ capacity (s.pollAll times).device (s.pollAll times).tx := by
  induction times generalizing s with
  | nil => exact h
  | cons now rest ih => exact ih (reached_poll h now)

/-! ## All frames get through -/

theorem Config.txCapacity_of_validate {c : Config} (h : c.validate = .ok ()) :
    Frame.maxSize + RecordQueue.lengthBytes < c.txCapacity := by
  rw [validate] at h
  split_ifs at h with hframe hreceiver hqueue
  exact Nat.lt_of_not_le hqueue

omit [Link σ] in
theorem reached_create {link : σ} {config : Config} {deviceConfig : Device.Config}
    {entropy : Random.Stream} (hpower : Device.powerOn deviceConfig entropy = .ok d₀)
    (hcreate : create link config deviceConfig entropy = .ok s) :
    Frame.maxSize + RecordQueue.lengthBytes ≤ config.txCapacity - 1 ∧
      Reached d₀ (config.txCapacity - 1) s.device s.tx := by
  obtain ⟨device, hconfig, hdevice, rfl⟩ := create_ok hcreate
  have hlarge := Config.txCapacity_of_validate hconfig
  have hlength : RecordQueue.lengthBytes = 2 := rfl
  obtain rfl : d₀ = device := Except.ok.inj (hpower.symm.trans hdevice)
  obtain ⟨hholds, hcapacity⟩ := RecordQueue.bounded_ofCapacity config.txCapacity
  rw [Nat.max_eq_left (by omega)] at hcapacity
  exact ⟨by omega, ⟨[], rfl⟩, hcapacity, [], hholds, nofun⟩

-- What the device of a session wants to send is what it sends in a run.
omit [Link σ] in
theorem reached_wireSize {deviceConfig : Device.Config} {entropy : Random.Stream}
    (hpower : Device.powerOn deviceConfig entropy = .ok d₀)
    (h : Reached d₀ capacity s.device s.tx) {now : Nat} {wires : List Bytes} {f : Frame}
    (hf : f ∈ (s.device.emit now wires).1) : f.wireSize ≤ Frame.maxSize := by
  obtain ⟨inputs, hinputs⟩ := h.device
  obtain ⟨more, -, hemissions⟩ := exists_run_of_cycle s.device now wires s.tx
  have hmem : (now, f) ∈ s.device.emissions more := hemissions ▸ List.mem_map_of_mem hf
  obtain ⟨earlier, input, hsent⟩ := Device.exists_emits_of_mem hmem
  rw [hinputs, ← Device.run_append] at hsent
  exact (Device.readable_run hpower (inputs ++ earlier) input _ hsent).wireSize

/-- Whatever a device was given since power-on, each frame that it wants to send can be encoded, is
queued or dropped and counted once, and can be read. In a session, what is queued between reception
and sending is what was taken of such frames, each record can be taken from the queue again, and a
frame that finds the queue empty is queued. -/
theorem readable_emissions {deviceConfig : Device.Config} {entropy : Random.Stream} {d₀ : Device}
    (hpower : Device.powerOn deviceConfig entropy = .ok d₀) :
    (∀ (inputs : List Device.Input) (input : Device.Input),
      let d := d₀.run inputs
      (∀ sent ∈ d.emits input, d.Readable sent.2) ∧
      (d.step input).stats.framesQueued + (d.step input).stats.framesDropped =
        d.stats.framesQueued + d.stats.framesDropped + (d.emits input).length) ∧
    ∀ {σ : Type} [Link σ] (link : σ) (config : Config) (s₀ : Session σ),
      create link config deviceConfig entropy = .ok s₀ →
      ∀ (times : List Nat) (arrived : Bytes) (now : Nat),
        let s := s₀.pollAll times
        let frames := (s.device.emit now ((s.rx.feed arrived).2.drain Frame.maxSize).1).1
        let q := (s.dispatch arrived now).2.tx
        q = (s.device.sendAll frames s.tx).2 ∧
        (∀ n, ∃ record,
          ((fun q => (q.dequeue Frame.maxSize).2)^[n] q |>.dequeue Frame.maxSize).1 =
            .ok record) ∧
        ∀ before f after, frames = before ++ f :: after →
          let waiting := (s.device.sendAll before s.tx).2
          waiting.isEmpty = true →
            ∀ sender : Device, (sender.send f waiting).1 = sender.tally { framesQueued := 1 } := by
  have hreadable := Device.readable_run hpower
  refine ⟨fun inputs input => ⟨hreadable inputs input, Device.step_counts fun sent hsent =>
    (hreadable inputs input sent hsent).wireSize⟩, ?_⟩
  intro σ _ link config s₀ hcreate times arrived now s frames q
  obtain ⟨hroom, hstart⟩ := reached_create hpower hcreate
  have hreached := reached_pollAll hstart times
  have hdispatch := reached_dispatch hreached arrived now
  refine ⟨?_, fun n => (hdispatch.queue.iterate_dequeue n).dequeue.1, ?_⟩
  · rw [Device.sendAll_eq]
    exact congrArg tx (dispatch_eq s arrived now)
  · intro before f after hframes waiting hempty sender
    have hf : f ∈ frames := hframes ▸ List.mem_append_right before List.mem_cons_self
    have hsize := reached_wireSize hpower hreached hf
    have hwaiting : waiting.Passes (config.txCapacity - 1) := by
      change (s.device.sendAll before s.tx).2.Passes _
      rw [Device.sendAll_eq]
      exact hreached.queue.enqueueAll before
    obtain ⟨q', hq'⟩ := hwaiting.enqueue_of_isEmpty hempty hsize hroom
    rw [Device.send_eq, RecordQueue.enqueueAll, if_neg (Nat.not_lt_of_le hsize), hq']
    rfl

-- The largest packet that a configuration may have, and the smallest queue.
theorem readable_emissions_largest_packet :
    let deviceConfig : Device.Config :=
      { channels := [{ name := "Voltage" }], samplesPerPacket := 4087 }
    let config : Config := { rxCapacity := 40, txCapacity := 8195, maxFrameSize := 32 }
    let entropy := Random.Stream.ofSeed 1
    let queue := RecordQueue.ofCapacity 8195
    deviceConfig.maxDataPayload = Frame.maxPayload ∧
    ∃ d₀, Device.powerOn deviceConfig entropy = .ok d₀ ∧
      let d := d₀.run [.request .startStream 0]
      d.emits (.tick 5 queue) = [(5, (d.dataPacket 5).1)] ∧
      (∀ sent ∈ d.emits (.tick 5 queue), d.Readable sent.2) ∧
      ∃ s₀ : Session Loopback,
        create (Loopback.ofCapacity 64) config deviceConfig entropy = .ok s₀ ∧
        ∃ record, ((((s₀.pollAll [0, 10]).dispatch [] 20).2.tx).dequeue Frame.maxSize).1 =
          .ok record := by
  intro deviceConfig config entropy queue
  have hvalid : deviceConfig.validate = .ok () := by
    simp +decide [deviceConfig, Device.Config.validate]
  have hlargest : deviceConfig.maxDataPayload = Frame.maxPayload := by
    have hcount : deviceConfig.channels.length = 1 := rfl
    have hsamples : deviceConfig.samplesPerPacket.toNat = 4087 := rfl
    rw [Device.Config.maxDataPayload, hcount, hsamples]
    decide
  let d₀ : Device := ⟨deviceConfig, Device.State.powerOn deviceConfig, entropy, 0, {}⟩
  have hpower : Device.powerOn deviceConfig entropy = .ok d₀ := by
    rw [Device.powerOn, hvalid]
  obtain ⟨s₀, hcreate⟩ : ∃ s₀ : Session Loopback,
      create (Loopback.ofCapacity 64) config deviceConfig entropy = .ok s₀ := by
    rw [create, hpower]
    exact ⟨_, rfl⟩
  obtain ⟨hframes, hsession⟩ := readable_emissions hpower
  have hemits : (d₀.run [.request .startStream 0]).emits (.tick 5 queue) =
      [(5, ((d₀.run [.request .startStream 0]).dataPacket 5).1)] :=
    Device.emits_sample rfl rfl rfl queue
  have hsent := (hframes [.request .startStream 0] (.tick 5 queue)).1
  have hdequeue := (hsession _ config _ hcreate [0, 10] [] 20).2.1 0
  exact ⟨hlargest, d₀, hpower, hemits, hsent, s₀, hcreate, hdequeue⟩

end Session

end Acquisition
