import Mathlib
import Acquisition.Session
import Acquisition.Proofs.Queue.Admission

/-!
# What a device wants to send

Which frames a device sends does not depend on the queue, and what happens to them in the queue
changes its counters only. So a cycle splits in two: the device emits frames (`emit`), and the queue
admits them (`dispatch_eq`).
-/

namespace Acquisition

namespace Device

namespace Stats

instance : Add Stats where
  add a b := {
    framesHandled := a.framesHandled + b.framesHandled
    framesRejected := a.framesRejected + b.framesRejected
    framesQueued := a.framesQueued + b.framesQueued
    framesDropped := a.framesDropped + b.framesDropped }

theorem add_def (a b : Stats) : a + b = {
    framesHandled := a.framesHandled + b.framesHandled
    framesRejected := a.framesRejected + b.framesRejected
    framesQueued := a.framesQueued + b.framesQueued
    framesDropped := a.framesDropped + b.framesDropped } := rfl

protected theorem add_assoc (a b c : Stats) : a + b + c = a + (b + c) := by
  simp only [add_def, Nat.add_assoc]

protected theorem add_right_comm (a b c : Stats) : a + b + c = a + c + b := by
  simp only [add_def, Nat.add_right_comm]

end Stats

/-- Counts further frames. -/
def tally (d : Device) (counts : Stats) : Device := { d with stats := d.stats + counts }

theorem tally_tally (d : Device) (a b : Stats) : (d.tally a).tally b = d.tally (a + b) := by
  simp only [tally, Stats.add_assoc]

theorem tally_comm (d : Device) (a b : Stats) : (d.tally a).tally b = (d.tally b).tally a := by
  simp only [tally, Stats.add_right_comm]

@[simp] theorem tally_state (d : Device) (c : Stats) : (d.tally c).state = d.state := rfl

@[simp] theorem tally_stats (d : Device) (c : Stats) : (d.tally c).stats = d.stats + c := rfl

theorem powerOn_ok {config : Config} {entropy : Random.Stream} {d : Device}
    (h : powerOn config entropy = .ok d) :
    config.validate = .ok () ∧ d.config = config ∧ d.stats = {} := by
  rw [powerOn] at h
  split at h <;> cases h
  rename_i hvalid
  exact ⟨hvalid, rfl, rfl⟩

/-! ## Replies -/

/-- The reply to a well-formed frame. -/
def reply (d : Device) (f : Frame) (now : Nat) : Frame × Device :=
  match Request.parse f.command f.payload with
  | .ok request =>
    let (response, d) := d.handleRequest request now
    (response.toFrame f.seq, d)
  | .error refusal => ((Response.ofRefusal refusal).toFrame f.seq, d)

theorem handleRequest_tally (d : Device) (c : Stats) (request : Request) (now : Nat) :
    (d.tally c).handleRequest request now =
      ((d.handleRequest request now).1, (d.handleRequest request now).2.tally c) := by
  cases request with
  | requestBufferedData =>
    rw [handleRequest, handleRequest]
    change (if d.state.mode = .trigger ∧ d.state.trigger.occurred then _ else _) = _
    split <;> rfl
  | _ => rfl

theorem reply_tally (d : Device) (c : Stats) (f : Frame) (now : Nat) :
    (d.tally c).reply f now = ((d.reply f now).1, (d.reply f now).2.tally c) := by
  simp only [reply, handleRequest_tally]
  split <;> rfl

theorem respond_eq (d : Device) (wire : Bytes) (now : Nat) :
    d.respond wire now =
      match Frame.parseInto wire payloadRoom with
      | (.error _, _) => (none, d.tally { framesRejected := 1 })
      | (.ok header, room) =>
        let f : Frame := ⟨header.command, header.seq, room.take header.payloadLength⟩
        (some (d.reply f now).1, (d.reply f now).2.tally { framesHandled := 1 }) := by
  have hhandled : { d with stats := { d.stats with framesHandled := d.stats.framesHandled + 1 } } =
    d.tally { framesHandled := 1 } := rfl
  rw [respond]
  rcases Frame.parseInto wire payloadRoom with ⟨_ | header, room⟩
  · rfl
  · simp only [hhandled, handleRequest_tally, reply]
    cases Request.parse header.command (room.take header.payloadLength) <;> rfl

-- A frame that was written is answered.
theorem respond_wire (d : Device) {f : Frame} (hsize : f.wireSize ≤ Frame.maxSize) (now : Nat) :
    d.respond f.wire now =
      (some (d.reply f now).1, (d.reply f now).2.tally { framesHandled := 1 }) := by
  have hroom : f.payload.length ≤ payloadRoom.length := by
    rw [payloadRoom, List.length_replicate]
    exact Frame.wireSize_le_iff.mp hsize
  rw [respond_eq, Frame.parseInto_wire (Frame.fits_of_wireSize_le hsize) hroom]
  dsimp only
  rw [List.take_left]

theorem respond_tally (d : Device) (c : Stats) (wire : Bytes) (now : Nat) :
    (d.tally c).respond wire now = ((d.respond wire now).1, (d.respond wire now).2.tally c) := by
  simp only [respond_eq, reply_tally]
  rcases Frame.parseInto wire payloadRoom with ⟨_ | header, room⟩
  · simp only [tally_comm _ c]
  · simp only [tally_comm _ c]

/-! ## Unprompted frames -/

theorem unprompted_tally (d : Device) (c : Stats) (r : Response) :
    (d.tally c).unprompted r = ((d.unprompted r).1, (d.unprompted r).2.tally c) := rfl

theorem dataPacket_tally (d : Device) (c : Stats) (stamp : Nat) :
    (d.tally c).dataPacket stamp = ((d.dataPacket stamp).1, (d.dataPacket stamp).2.tally c) := rfl

theorem dataDue_tally (d : Device) (c : Stats) (now : Nat) :
    (d.tally c).dataDue now = d.dataDue now := rfl

theorem fire_tally (d : Device) (c : Stats) (now : Nat) :
    (d.tally c).fire now = ((d.fire now).1, (d.fire now).2.tally c) := by
  simp only [fire, tally_state, unprompted_tally]
  change (if d.state.trigger.armed ∧ ¬ d.state.trigger.occurred ∧
    d.state.trigger.nextTriggerMs ≤ now then _ else _) = _
  split <;> rfl

theorem continueBurst_tally (d : Device) (c : Stats) (now : Nat) :
    (d.tally c).continueBurst now =
      ((d.continueBurst now).1, (d.continueBurst now).2.tally c) := by
  simp only [continueBurst, tally_state, dataDue_tally, dataPacket_tally, unprompted_tally]
  change (if ¬ d.state.trigger.sending ∨ ¬ d.dataDue now then _ else
    if d.state.trigger.packetsSent < d.state.trigger.packetsToSend then _ else _) = _
  split
  · rfl
  · split <;> rfl

theorem due_tally (d : Device) (c : Stats) (now : Nat) :
    (d.tally c).due now = ((d.due now).1, (d.due now).2.tally c) := by
  simp only [due, fire_tally, continueBurst_tally, dataPacket_tally, tally_state]
  cases d.state.isRunning with
  | false => rfl
  | true =>
    cases d.state.mode with
    | trigger => rfl
    | continuous =>
      change (if d.dataDue now then _ else _) = _
      dsimp only
      split <;> rfl

/-! ## What stays -/

theorem handleRequest_keeps (d : Device) (request : Request) (now : Nat) :
    (d.handleRequest request now).2.config = d.config ∧
      (d.handleRequest request now).2.stats = d.stats := by
  cases request with
  | requestBufferedData =>
    simp only [handleRequest]
    split <;> exact ⟨rfl, rfl⟩
  | _ => exact ⟨rfl, rfl⟩

theorem reply_keeps (d : Device) (f : Frame) (now : Nat) :
    (d.reply f now).2.config = d.config ∧ (d.reply f now).2.stats = d.stats := by
  rw [reply]
  split
  · exact handleRequest_keeps ..
  · exact ⟨rfl, rfl⟩

theorem due_keeps (d : Device) (now : Nat) :
    (d.due now).2.config = d.config ∧ (d.due now).2.stats = d.stats := by
  have hfire : (d.fire now).2.config = d.config ∧ (d.fire now).2.stats = d.stats := by
    simp only [fire]
    split <;> exact ⟨rfl, rfl⟩
  have hburst (d : Device) : (d.continueBurst now).2.config = d.config ∧
      (d.continueBurst now).2.stats = d.stats := by
    simp only [continueBurst]
    split
    · exact ⟨rfl, rfl⟩
    · split <;> exact ⟨rfl, rfl⟩
  simp only [due]
  split
  · exact ⟨rfl, rfl⟩
  · split
    · exact ⟨(hburst _).1.trans hfire.1, (hburst _).2.trans hfire.2⟩
    · split <;> exact ⟨rfl, rfl⟩

/-! ## A cycle -/

/-- The replies to received frames, in their order. -/
def respondAll (d : Device) (now : Nat) : List Bytes → List Frame × Device
  | [] => ([], d)
  | wire :: rest =>
    let (reply, d) := d.respond wire now
    let (more, d) := d.respondAll now rest
    (reply.toList ++ more, d)

/-- What the device wants to send in one cycle: its replies, and then what is due. -/
def emit (d : Device) (now : Nat) (wires : List Bytes) : List Frame × Device :=
  let (replies, d) := d.respondAll now wires
  let (prompts, d) := d.due now
  (replies ++ prompts, d)

theorem respondAll_tally (d : Device) (c : Stats) (now : Nat) (wires : List Bytes) :
    (d.tally c).respondAll now wires =
      ((d.respondAll now wires).1, (d.respondAll now wires).2.tally c) := by
  induction wires generalizing d with
  | nil => rfl
  | cons wire rest ih => simp only [respondAll, respond_tally, ih]

theorem emit_tally (d : Device) (c : Stats) (now : Nat) (wires : List Bytes) :
    (d.tally c).emit now wires = ((d.emit now wires).1, (d.emit now wires).2.tally c) := by
  simp only [emit, respondAll_tally, due_tally]

-- What has become of the frames in the queue is not counted before they get there.
theorem respond_stats (d : Device) (wire : Bytes) (now : Nat) :
    (d.respond wire now).2.stats.framesQueued = d.stats.framesQueued ∧
      (d.respond wire now).2.stats.framesDropped = d.stats.framesDropped := by
  rw [respond_eq]
  split
  · exact ⟨rfl, rfl⟩
  · simp only [tally_stats, (reply_keeps ..).2]
    exact ⟨rfl, rfl⟩

-- A frame is handled when it has a reply.
theorem framesHandled_respond (d : Device) (wire : Bytes) (now : Nat) :
    (d.respond wire now).2.stats.framesHandled =
      d.stats.framesHandled + (d.respond wire now).1.toList.length := by
  rw [respond_eq]
  split
  · rfl
  · rw [tally_stats, (reply_keeps ..).2]
    rfl

theorem emit_stats (d : Device) (now : Nat) (wires : List Bytes) :
    (d.emit now wires).2.stats.framesQueued = d.stats.framesQueued ∧
      (d.emit now wires).2.stats.framesDropped = d.stats.framesDropped := by
  simp only [emit, (due_keeps ..).2]
  induction wires generalizing d with
  | nil => exact ⟨rfl, rfl⟩
  | cons wire rest ih =>
    have hfirst := d.respond_stats wire now
    exact ⟨(ih _).1.trans hfirst.1, (ih _).2.trans hfirst.2⟩

end Device

/-! ## Queueing -/

/-- How the fate of frames in a queue is counted. -/
def RecordQueue.Admission.counts (a : RecordQueue.Admission) : Device.Stats :=
  { framesQueued := a.admitted.length, framesDropped := a.refused.length }

theorem RecordQueue.counts_enqueueAll_append (q : RecordQueue) (first second : List Frame) :
    (q.enqueueAll (first ++ second)).counts =
      (q.enqueueAll first).counts + ((q.enqueueAll first).queue.enqueueAll second).counts := by
  simp only [enqueueAll_append, Admission.counts, List.length_append, Device.Stats.add_def]

namespace Device

theorem send_eq (d : Device) (f : Frame) (q : RecordQueue) :
    d.send f q = (d.tally (q.enqueueAll [f]).counts, (q.enqueueAll [f]).queue) := by
  have hroom : frameRoom.length = Frame.maxSize := List.length_replicate
  rw [send, RecordQueue.enqueueAll]
  by_cases hsize : Frame.maxSize < f.wireSize
  · have hlarge : ¬ f.Fits ∨ frameRoom.length < f.wireSize := .inr (by rw [hroom]; exact hsize)
    obtain ⟨e, he⟩ := Frame.writeInto_error hlarge
    rw [he, if_pos hsize]
    rfl
  · have hfits : f.Fits := Frame.fits_of_wireSize_le (Nat.le_of_not_lt hsize)
    rw [Frame.writeInto_eq hfits (by rw [hroom]; exact Nat.le_of_not_lt hsize), if_neg hsize]
    dsimp only
    rw [List.take_left' f.length_wire]
    rcases q.enqueue f.wire with ⟨_ | _, q⟩ <;> rfl

-- A frame that can be encoded is offered to the queue.
theorem send_eq_enqueue (d : Device) {f : Frame} (hsize : f.wireSize ≤ Frame.maxSize)
    (q : RecordQueue) :
    d.send f q =
      match q.enqueue f.wire with
      | (.ok (), q) => (d.tally { framesQueued := 1 }, q)
      | (.error _, q) => (d.tally { framesDropped := 1 }, q) := by
  rw [send_eq, RecordQueue.enqueueAll, if_neg (Nat.not_lt_of_le hsize)]
  rcases q.enqueue f.wire with ⟨_ | _, q'⟩ <;> rfl

-- Sending touches the counters and the queue only.
theorem sendAll_eq (d : Device) (frames : List Frame) (q : RecordQueue) :
    d.sendAll frames q = (d.tally (q.enqueueAll frames).counts, (q.enqueueAll frames).queue) := by
  induction frames generalizing d q with
  | nil => rfl
  | cons f rest ih =>
    rw [sendAll, send_eq]
    dsimp only
    rw [ih, tally_tally, ← RecordQueue.counts_enqueueAll_append, List.singleton_append,
      ← List.singleton_append, RecordQueue.enqueueAll_append]

end Device

namespace Session

theorem handleAll_eq (d : Device) (now : Nat) (wires : List Bytes) (q : RecordQueue) :
    handleAll d now wires q =
      ((d.respondAll now wires).2.tally (q.enqueueAll (d.respondAll now wires).1).counts,
        (q.enqueueAll (d.respondAll now wires).1).queue) := by
  induction wires generalizing d q with
  | nil => rfl
  | cons wire rest ih =>
    simp only [handleAll, Device.handleFrame, Device.sendAll_eq, ih, Device.respondAll,
      Device.respondAll_tally, RecordQueue.counts_enqueueAll_append]
    rw [Device.tally_tally, RecordQueue.enqueueAll_append]

-- Between reception and sending, the device emits and the queue admits.
theorem dispatch_eq {σ : Type} (s : Session σ) (arrived : Bytes) (now : Nat) :
    let drained := (s.rx.feed arrived).2.drain Frame.maxSize
    let emitted := s.device.emit now drained.1
    (s.dispatch arrived now).2 =
      { s with
        rx := drained.2
        device := emitted.2.tally (s.tx.enqueueAll emitted.1).counts
        tx := (s.tx.enqueueAll emitted.1).queue } := by
  simp only [dispatch, handleAll_eq, Device.tick, Device.sendAll_eq, Device.due_tally, Device.emit,
    RecordQueue.counts_enqueueAll_append]
  rw [Device.tally_tally, RecordQueue.enqueueAll_append]

end Session

end Acquisition
