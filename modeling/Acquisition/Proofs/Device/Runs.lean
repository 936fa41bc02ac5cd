import Mathlib
import Acquisition.Proofs.Device.Emission

/-!
# Runs of a device

A device is given received bytes, requests, the time and the order to stop, in any sequence. What an
input does to it is said here once: apart from the counters a step is a `turn`, and what is due at a
time comes of single `Move`s, each of which sends one frame.
-/

namespace Acquisition.Device

/-- What a device is given. With received bytes and with the time comes the queue for the frames
that it has to send. -/
inductive Input
  | frame (wire : Bytes) (now : Nat) (queue : RecordQueue)
  | request (request : Request) (now : Nat)
  | tick (now : Nat) (queue : RecordQueue)
  | stop

def step (d : Device) : Input → Device
  | .frame wire now queue => (d.handleFrame wire now queue).1
  | .request request now => (d.handleRequest request now).2
  | .tick now queue => (d.tick now queue).1
  | .stop => d.stop

def run (d : Device) (inputs : List Input) : Device := inputs.foldl step d

/-- The frames that the device tries to send on an input, with the time of each. -/
def emits (d : Device) : Input → List (Nat × Frame)
  | .frame wire now _ => (d.respond wire now).1.toList.map (now, ·)
  | .tick now _ => (d.due now).1.map (now, ·)
  | .request .. | .stop => []

/-- The frames that the device tries to send over a run. -/
def emissions (d : Device) : List Input → List (Nat × Frame)
  | [] => []
  | input :: rest => d.emits input ++ (d.step input).emissions rest

/-! ## Received frames and their requests -/

/-- The frame that received bytes stand for. -/
def received? (wire : Bytes) : Option Frame :=
  match Frame.parseInto wire payloadRoom with
  | (.ok header, room) => some ⟨header.command, header.seq, room.take header.payloadLength⟩
  | (.error _, _) => none

def requested? (wire : Bytes) : Option Request :=
  (received? wire).bind fun f => (Request.parse f.command f.payload).toOption

/-- The request that is carried out on an input, and when. -/
def Input.request? : Input → Option (Request × Nat)
  | .frame wire now _ => (requested? wire).map (·, now)
  | .request r now => some (r, now)
  | .tick .. | .stop => none

theorem respond_of_received {wire : Bytes} {f : Frame} (h : received? wire = some f) (d : Device)
    (now : Nat) : d.respond wire now =
      (some (d.reply f now).1, (d.reply f now).2.tally { framesHandled := 1 }) := by
  rw [respond_eq]
  unfold received? at h
  split at h
  · cases h
    rename_i heq
    rw [heq]
  · cases h

theorem respond_of_not_received {wire : Bytes} (h : received? wire = none) (d : Device)
    (now : Nat) : d.respond wire now = (none, d.tally { framesRejected := 1 }) := by
  rw [respond_eq]
  unfold received? at h
  split at h
  · cases h
  · rename_i heq
    rw [heq]

/-- What an input does to a device, but for the counters. -/
def turn (d : Device) : Input → Device
  | .frame wire now _ =>
    match requested? wire with
    | some request => (d.handleRequest request now).2
    | none => d
  | .request request now => (d.handleRequest request now).2
  | .tick now _ => (d.due now).2
  | .stop => d.stop

theorem turn_of_request {d : Device} {input : Input} {request : Request} {now : Nat}
    (h : input.request? = some (request, now)) :
    d.turn input = (d.handleRequest request now).2 := by
  cases input with
  | frame wire time queue =>
    obtain ⟨r, hr, heq⟩ := Option.map_eq_some_iff.mp h
    cases heq
    rw [turn, hr]
  | request => cases h; rfl
  | tick | stop => cases h

theorem reply_turn (d : Device) (f : Frame) (now : Nat) : (d.reply f now).2 =
    match (Request.parse f.command f.payload).toOption with
    | some request => (d.handleRequest request now).2
    | none => d := by
  rw [reply]
  cases Request.parse f.command f.payload <;> rfl

theorem step_eq (d : Device) (input : Input) :
    ∃ counts, d.step input = (d.turn input).tally counts := by
  have hkept (d : Device) : d = d.tally {} := rfl
  cases input with
  | frame wire now queue =>
    simp only [step, handleFrame, sendAll_eq, turn, requested?]
    cases hreceived : received? wire with
    | some f =>
      rw [respond_of_received hreceived, reply_turn]
      exact ⟨_, tally_tally ..⟩
    | none =>
      rw [respond_of_not_received hreceived]
      exact ⟨_, tally_tally ..⟩
  | request request now => exact ⟨{}, hkept _⟩
  | tick now queue =>
    simp only [step, tick, sendAll_eq, turn]
    exact ⟨_, rfl⟩
  | stop => exact ⟨{}, hkept _⟩

@[simp] theorem step_state (d : Device) (input : Input) :
    (d.step input).state = (d.turn input).state := by
  obtain ⟨counts, h⟩ := d.step_eq input
  rw [h, tally_state]

/-- Requests that end what the trigger is doing. -/
def Request.EndsTrigger (r : Request) : Prop :=
  r = .setModeTrigger ∨ r = .setModeContinuous ∨ r = .stopStream

theorem handleRequest_undisturbing (d : Device) {request : Request} (h : ¬ request.EndsTrigger)
    (now : Nat) :
    (d.handleRequest request now).2.state.trigger = d.state.trigger ∧
      (d.handleRequest request now).2.state.mode = d.state.mode := by
  cases request with
  | setModeTrigger => exact absurd (.inl rfl) h
  | setModeContinuous => exact absurd (.inr (.inl rfl)) h
  | stopStream => exact absurd (.inr (.inr rfl)) h
  | requestBufferedData =>
    simp only [handleRequest]
    split <;> exact ⟨rfl, rfl⟩
  | _ => exact ⟨rfl, rfl⟩

@[simp] theorem step_config (d : Device) (input : Input) : (d.step input).config = d.config := by
  obtain ⟨counts, h⟩ := d.step_eq input
  rw [h]
  change (d.turn input).config = d.config
  cases input with
  | frame wire now queue =>
    rw [turn]
    split
    · exact (handleRequest_keeps ..).1
    · rfl
  | request request now => exact (handleRequest_keeps ..).1
  | tick now queue => exact (due_keeps d now).1
  | stop => rfl

theorem run_config (d : Device) (inputs : List Input) : (d.run inputs).config = d.config := by
  induction inputs generalizing d with
  | nil => rfl
  | cons input rest ih => exact (ih (d.step input)).trans (d.step_config input)

theorem run_append (d : Device) (first second : List Input) :
    d.run (first ++ second) = (d.run first).run second := List.foldl_append ..

theorem run_concat (d : Device) (inputs : List Input) (input : Input) :
    d.run (inputs ++ [input]) = (d.run inputs).step input := run_append ..

theorem powerOn_state {config : Config} {entropy : Random.Stream} {d : Device}
    (h : powerOn config entropy = .ok d) : d.state = State.powerOn config := by
  rw [powerOn] at h
  split at h <;> cases h
  rfl

/-! ## What is due -/

/-- A single thing that a device does as time passes: it sends one frame. -/
inductive Move (now : Nat) (d : Device) : Frame → Device → Prop
  | fire (packets : Nat) (random : Random.Stream) (hrunning : d.state.isRunning = true)
      (hmode : d.state.mode = .trigger) (harmed : d.state.trigger.armed = true)
      (hidle : d.state.trigger.occurred = false) (hdue : d.state.trigger.nextTriggerMs ≤ now)
      (hfew : d.config.burstPacketsMin.toNat ≤ packets)
      (hmany : packets ≤ d.config.burstPacketsMax.toNat) :
    Move now d
      ((Response.eventTriggered (UInt32.ofNat now) 0 d.config.preTriggerSamples
        d.config.postTriggerSamples).toFrame d.nextSeq)
      { d with
        random
        nextSeq := d.nextSeq + 1
        state := { d.state with trigger := { d.state.trigger with
          occurred := true
          sending := true
          timestampMs := now
          packetsToSend := packets
          packetsSent := 0 } } }
  | packet (stamp : Nat)
      (hstamp : stamp = d.state.trigger.timestampMs +
        d.state.trigger.packetsSent * d.config.dataIntervalMs.toNat)
      (hrunning : d.state.isRunning = true) (hmode : d.state.mode = .trigger)
      (hsending : d.state.trigger.sending = true) (hdue : d.dataDue now = true)
      (hleft : d.state.trigger.packetsSent < d.state.trigger.packetsToSend) :
    Move now d (d.dataPacket stamp).1
      { (d.dataPacket stamp).2 with state := { d.state with
        trigger := { d.state.trigger with packetsSent := d.state.trigger.packetsSent + 1 }
        lastDataMs := some now } }
  | complete (delay : Nat) (random : Random.Stream) (hrunning : d.state.isRunning = true)
      (hmode : d.state.mode = .trigger) (hsending : d.state.trigger.sending = true)
      (hdue : d.dataDue now = true)
      (hsent : d.state.trigger.packetsToSend ≤ d.state.trigger.packetsSent)
      (hearly : d.config.triggerRearm.minMs.toNat ≤ delay)
      (hlate : delay < d.config.triggerRearm.maxMs.toNat) :
    Move now d (Response.bufferTransferComplete.toFrame d.nextSeq)
      { d with
        random
        nextSeq := d.nextSeq + 1
        state := { d.state with trigger := { d.state.trigger with
          sending := false
          occurred := false
          nextTriggerMs := now + delay } } }
  | sample (hrunning : d.state.isRunning = true) (hmode : d.state.mode = .continuous)
      (hdue : d.dataDue now = true) :
    Move now d (d.dataPacket now).1
      { (d.dataPacket now).2 with state := { d.state with lastDataMs := some now } }

/-- Moves one after the other, and the frames that they send. -/
inductive Moves (now : Nat) : Device → List Frame → Device → Prop
  | nil {d : Device} : Moves now d [] d
  | cons {d d₁ d₂ : Device} {f : Frame} {frames : List Frame} (hmove : Move now d f d₁)
      (hmore : Moves now d₁ frames d₂) : Moves now d (f :: frames) d₂

variable {d d' : Device} {now : Nat} {f : Frame} {frames : List Frame}

theorem Moves.single (h : Move now d f d') : Moves now d [f] d' := .cons h .nil

theorem Moves.append {d₂ : Device} {more : List Frame} (h : Moves now d frames d')
    (hmore : Moves now d' more d₂) : Moves now d (frames ++ more) d₂ := by
  induction h with
  | nil => exact hmore
  | cons hmove _ ih => exact .cons hmove (ih hmore)

/-- What no passing of time changes. -/
theorem Move.keeps (h : Move now d f d') :
    d'.config = d.config ∧ d'.state.mode = d.state.mode ∧ d'.state.stream = d.state.stream ∧
      d'.state.channels = d.state.channels := by
  cases h <;> exact ⟨rfl, rfl, rfl, rfl⟩

-- Either the trigger does not fire, or its event is a move.
theorem fire_cases (hchecked : d.config.Checked) (hrunning : d.state.isRunning = true)
    (hmode : d.state.mode = .trigger) (now : Nat) :
    d.fire now = ([], d) ∨ ∃ f d', Move now d f d' ∧ f.command = Command.eventTriggered ∧
      d.fire now = ([f], d') := by
  rw [fire]
  dsimp only
  split
  · rename_i hfires
    obtain ⟨harmed, hidle, hdue⟩ := hfires
    obtain ⟨hfew, hmany⟩ := Random.count_bounds hchecked.burst d.random
    exact .inr ⟨_, _, .fire _ _ hrunning hmode harmed (Bool.eq_false_iff.mpr hidle) hdue hfew hmany,
      rfl, rfl⟩
  · exact .inl rfl

-- Either nothing is due for a burst, or what is sent for it is a move.
theorem continueBurst_cases (hchecked : d.config.Checked) (hrunning : d.state.isRunning = true)
    (hmode : d.state.mode = .trigger) (now : Nat) :
    (¬ (d.state.trigger.sending = true ∧ d.dataDue now = true) ∧ d.continueBurst now = ([], d)) ∨
      ∃ f d', Move now d f d' ∧ f.command ≠ Command.eventTriggered ∧
        d.continueBurst now = ([f], d') := by
  rw [continueBurst]
  dsimp only
  split
  · rename_i hwaits
    exact .inl ⟨not_and_or.mpr hwaits, rfl⟩
  · rename_i hgo
    rw [not_or, not_not, not_not] at hgo
    split
    · rename_i hleft
      exact .inr ⟨_, _, .packet _ rfl hrunning hmode hgo.1 hgo.2 hleft,
        (by decide : Command.dataPacket ≠ Command.eventTriggered), rfl⟩
    · rename_i hsent
      obtain ⟨hearly, hlate⟩ := Random.delay_bounds hchecked.triggerRearm d.random
      exact .inr ⟨_, _,
        .complete _ _ hrunning hmode hgo.1 hgo.2 (Nat.le_of_not_lt hsent) hearly hlate,
        (by decide : Command.bufferTransferComplete ≠ Command.eventTriggered), rfl⟩

theorem fire_moves (hchecked : d.config.Checked) (hrunning : d.state.isRunning = true)
    (hmode : d.state.mode = .trigger) (now : Nat) :
    Moves now d (d.fire now).1 (d.fire now).2 := by
  rcases fire_cases hchecked hrunning hmode now with hwaits | ⟨f, d', hmove, -, hfires⟩
  · rw [hwaits]
    exact .nil
  · rw [hfires]
    exact .single hmove

theorem continueBurst_moves (hchecked : d.config.Checked) (hrunning : d.state.isRunning = true)
    (hmode : d.state.mode = .trigger) (now : Nat) :
    Moves now d (d.continueBurst now).1 (d.continueBurst now).2 := by
  rcases continueBurst_cases hchecked hrunning hmode now with ⟨-, hwaits⟩ | ⟨f, d', hmove, -, hgoes⟩
  · rw [hwaits]
    exact .nil
  · rw [hgoes]
    exact .single hmove

theorem due_of_not_running (h : d.state.isRunning = false) (now : Nat) : d.due now = ([], d) := by
  rw [due, if_pos (Bool.eq_false_iff.mp h)]

theorem due_of_trigger (hrunning : d.state.isRunning = true) (hmode : d.state.mode = .trigger)
    (now : Nat) : d.due now = ((d.fire now).1 ++ ((d.fire now).2.continueBurst now).1,
      ((d.fire now).2.continueBurst now).2) := by
  rw [due, if_neg (not_not.mpr hrunning), hmode]

theorem due_of_continuous (hrunning : d.state.isRunning = true)
    (hmode : d.state.mode = .continuous) (now : Nat) :
    d.due now =
      if d.dataDue now then
        ([(d.dataPacket now).1],
          { (d.dataPacket now).2 with state := { d.state with lastDataMs := some now } })
      else ([], d) := by
  rw [due, if_neg (not_not.mpr hrunning), hmode]
  rfl

-- A trigger that fires leaves mode and stream to the burst that follows.
theorem fire_keeps (d : Device) (now : Nat) :
    (d.fire now).2.config = d.config ∧
      (d.fire now).2.state.isRunning = d.state.isRunning ∧
      (d.fire now).2.state.mode = d.state.mode := by
  rw [fire]
  dsimp only
  split <;> exact ⟨rfl, rfl, rfl⟩

theorem due_moves (hchecked : d.config.Checked) (now : Nat) :
    Moves now d (d.due now).1 (d.due now).2 := by
  cases hrunning : d.state.isRunning with
  | true =>
    cases hmode : d.state.mode with
    | trigger =>
      obtain ⟨hconfig, hrunning', hmode'⟩ := d.fire_keeps now
      rw [due_of_trigger hrunning hmode]
      exact (fire_moves hchecked hrunning hmode now).append (continueBurst_moves
        (hconfig ▸ hchecked) (hrunning'.trans hrunning) (hmode'.trans hmode) now)
    | continuous =>
      rw [due_of_continuous hrunning hmode]
      split
      · rename_i hdue
        exact .single (.sample hrunning hmode hdue)
      · exact .nil
  | false =>
    rw [due_of_not_running hrunning]
    exact .nil

end Acquisition.Device
