import Mathlib
import Acquisition.Proofs.Device.Consistency
import Acquisition.Proofs.Device.Pacing

/-!
# The stamps of a burst

The packets of a burst are stamped an interval apart from the time of the trigger on, whenever they
are sent. Because they are also sent at least an interval apart, and the first one not before the
trigger fired, no stamp is ahead of the tick that sends it (`stamp_le_time`). So a clock that fits
into a word keeps the stamps in it, however long the interval and the burst are.
-/

namespace Acquisition.Device

variable {d d' : Device} {now start count : Nat} {f : Frame} {frames : List Frame} {input : Input}

/-- The trigger fired at `start`, and `count` packets of its burst have been sent. -/
structure Triggered (d : Device) (start count : Nat) : Prop where
  running : d.state.isRunning = true
  mode : d.state.mode = .trigger
  sending : d.state.trigger.sending = true
  occurred : d.state.trigger.occurred = true
  fired : d.state.trigger.timestampMs = start
  sent : d.state.trigger.packetsSent = count

/-- Moreover the next packet is not due before its stamp. -/
structure UnderWay (d : Device) (start count : Nat) : Prop extends Triggered d start count where
  onTime : ∀ now, d.dataDue now = true → start + count * d.config.dataIntervalMs.toNat ≤ now

theorem UnderWay.of_eq (h : d.UnderWay start count) (hstate : d'.state = d.state)
    (hconfig : d'.config = d.config) : d'.UnderWay start count := by
  obtain ⟨⟨hrunning, hmode, hsending, hoccurred, hfired, hsent⟩, honTime⟩ := h
  simp only [dataDue, ← hstate, ← hconfig] at *
  exact ⟨⟨hrunning, hmode, hsending, hoccurred, hfired, hsent⟩, honTime⟩

instance : DecidablePred Request.EndsTrigger := fun r =>
  inferInstanceAs (Decidable (r = .setModeTrigger ∨ r = .setModeContinuous ∨ r = .stopStream))

instance : DecidablePred Occurrence.EndsBurst
  | .served request => inferInstanceAs (Decidable request.EndsTrigger)
  | .sent f => inferInstanceAs (Decidable (f.command = Command.bufferTransferComplete))
  | .stopped => isTrue trivial

/-! ## Single moves -/

theorem Move.triggered (hmove : Move now d f d') (hf : f.command = Command.eventTriggered) :
    d'.Triggered now 0 ∧ d'.state.lastDataMs = d.state.lastDataMs := by
  cases hmove with
  | fire _ _ hrunning hmode => exact ⟨⟨hrunning, hmode, rfl, rfl, rfl, rfl⟩, rfl⟩
  | packet | sample => exact absurd hf (by decide : Command.dataPacket ≠ Command.eventTriggered)
  | complete =>
    exact absurd hf (by decide : Command.bufferTransferComplete ≠ Command.eventTriggered)

-- Unless it ends the burst, the next move is its next packet.
theorem Triggered.move (h : d.Triggered start count) (hchecked : d.config.Checked)
    (hmove : Move now d f d') (hopen : f.command ≠ Command.bufferTransferComplete)
    (htime : d.dataDue now = true → start + count * d.config.dataIntervalMs.toNat ≤ now) :
    IsData (now, f) ∧ Burst.IsPacket (start + count * d.config.dataIntervalMs.toNat) f ∧
      start + count * d.config.dataIntervalMs.toNat ≤ now ∧ d'.UnderWay start (count + 1) := by
  cases hmove with
  | fire _ _ _ _ _ hidle => rw [h.occurred] at hidle; cases hidle
  | packet stamp hstamp _ _ _ hdue =>
    rw [h.fired, h.sent] at hstamp
    refine ⟨rfl, hstamp ▸ isPacket_dataPacket d stamp, htime hdue,
      ⟨⟨h.running, h.mode, h.sending, h.occurred, h.fired, congrArg (· + 1) h.sent⟩, ?_⟩⟩
    intro later hlater
    have hafter := (dataDue_iff (by exact hchecked) later).mp hlater now rfl
    have hbefore := htime hdue
    change now + d.config.dataIntervalMs.toNat ≤ later at hafter
    change start + (count + 1) * d.config.dataIntervalMs.toNat ≤ later
    rw [Nat.add_mul]
    omega
  | complete => exact absurd rfl hopen
  | sample _ hmode => rw [h.mode] at hmode; cases hmode

/-! ## Steps -/

/-- What an input does to a burst that it does not end: nothing, or the next packet is sent. -/
def Carries (d : Device) (start count : Nat) (sent : List (Nat × Frame)) (d' : Device) : Prop :=
  (sent = [] ∧ d'.UnderWay start count) ∨
    ∃ now f, sent = [(now, f)] ∧
      Burst.IsPacket (start + count * d.config.dataIntervalMs.toNat) f ∧
      start + count * d.config.dataIntervalMs.toNat ≤ now ∧ d'.UnderWay start (count + 1)

-- A trigger fires before anything else is sent at that time.
theorem due_of_event (hchecked : d.config.Checked)
    (hevent : ∃ f ∈ (d.due now).1, f.command = Command.eventTriggered) :
    ∃ f d₁, Move now d f d₁ ∧ f.command = Command.eventTriggered ∧
      d.due now = (f :: (d₁.continueBurst now).1, (d₁.continueBurst now).2) := by
  obtain ⟨f, hf, hcommand⟩ := hevent
  cases hrunning : d.state.isRunning with
  | true =>
    cases hmode : d.state.mode with
    | trigger =>
      rw [due_of_trigger hrunning hmode] at hf ⊢
      rcases fire_cases hchecked hrunning hmode now with hwaits | ⟨event, d₁, hmove, hevent, hfires⟩
      · rw [hwaits] at hf
        rcases continueBurst_cases hchecked hrunning hmode now with
          ⟨-, hnone⟩ | ⟨g, _, -, hg, hnext⟩
        · rw [hnone] at hf
          cases hf
        · rw [hnext] at hf
          exact absurd hcommand (List.mem_singleton.mp hf ▸ hg)
      · rw [hfires]
        exact ⟨event, d₁, hmove, hevent, rfl⟩
    | continuous =>
      rw [due_of_continuous hrunning hmode] at hf
      split at hf
      · rw [List.mem_singleton.mp hf] at hcommand
        exact absurd hcommand (by decide : Command.dataPacket ≠ Command.eventTriggered)
      · cases hf
  | false =>
    rw [due_of_not_running hrunning] at hf
    cases hf

theorem due_carries (hchecked : d.config.Checked)
    (hevent : ∃ f ∈ (d.due now).1, f.command = Command.eventTriggered)
    (hopen : ∀ f ∈ (d.due now).1, f.command ≠ Command.bufferTransferComplete) :
    Carries d now 0 (((d.due now).1.map (now, ·)).filter (IsData ·)) (d.due now).2 := by
  obtain ⟨f, d₁, hmove, hf, hdue⟩ := due_of_event hchecked hevent
  obtain ⟨htriggered, hlast⟩ := hmove.triggered hf
  have hconfig := hmove.keeps.1
  have hchecked₁ : d₁.config.Checked := hconfig ▸ hchecked
  have hevent : ¬ IsData (now, f) := fun hdata =>
    absurd (hf.symm.trans hdata) (by decide : Command.eventTriggered ≠ Command.dataPacket)
  rw [hdue] at hopen ⊢
  rw [List.map_cons, List.filter_cons_of_neg (by simpa using hevent)]
  rcases continueBurst_cases hchecked₁ htriggered.running htriggered.mode now with
    ⟨hearly, hidle⟩ | ⟨g, d₂, hnext, -, hburst⟩
  · -- The last packet was sent less than an interval ago, so the next one comes later than now.
    rw [hidle]
    refine .inl ⟨rfl, htriggered, fun later hlater => ?_⟩
    rw [dataDue_iff hchecked₁] at hlater
    have hlate := mt (dataDue_iff hchecked₁ now).mpr fun hdue => hearly ⟨htriggered.sending, hdue⟩
    push Not at hlate
    obtain ⟨last, hmem, hlt⟩ := hlate
    have := hlater last hmem
    omega
  · rw [hburst] at hopen ⊢
    obtain ⟨hdata, hpacket, htime, hunderWay⟩ := htriggered.move hchecked₁ hnext
      (hopen g (by simp)) (fun _ => by omega)
    rw [hconfig] at hpacket htime
    refine .inr ⟨now, g, ?_, hpacket, htime, hunderWay⟩
    rw [List.map_singleton, List.filter_cons_of_pos (by simpa using hdata), List.filter_nil]

-- The counters do not matter to a burst.
theorem Carries.step {sent : List (Nat × Frame)} (h : Carries d start count sent (d.turn input)) :
    Carries d start count sent (d.step input) := by
  obtain ⟨counts, hstep⟩ := d.step_eq input
  rw [hstep]
  rcases h with ⟨hnone, hsame⟩ | ⟨now, f, hsent, hpacket, htime, hnext⟩
  · exact .inl ⟨hnone, hsame.of_eq rfl rfl⟩
  · exact .inr ⟨now, f, hsent, hpacket, htime, hnext.of_eq rfl rfl⟩

theorem UnderWay.due_carries (h : d.UnderWay start count) (hchecked : d.config.Checked)
    (hopen : ∀ f ∈ (d.due now).1, f.command ≠ Command.bufferTransferComplete) :
    Carries d start count (((d.due now).1.map (now, ·)).filter (IsData ·)) (d.due now).2 := by
  have hmoves := due_moves hchecked now
  have hbeats := hmoves.beats hchecked
  generalize d.due now = result at *
  obtain ⟨frames, d'⟩ := result
  cases hmoves with
  | nil => exact .inl ⟨rfl, h⟩
  | @cons _ d₁ _ f frames hmove hmore =>
    obtain ⟨hdata, hpacket, htime, hnext⟩ :=
      h.move hchecked hmove (hopen f (by simp)) (h.onTime now)
    cases hmore with
    | nil => exact .inr ⟨now, f, by simp [hdata], hpacket, htime, hnext⟩
    | @cons _ d₂ _ g frames hmove' _ =>
      -- A second packet at one time does not keep the pace.
      obtain ⟨hagain, -⟩ := hnext.move (hmove.keeps.1 ▸ hchecked) hmove' (hopen g (by simp))
        (hnext.onTime now)
      simp [Beats, hdata, hagain] at hbeats

theorem UnderWay.handleRequest (h : d.UnderWay start count) {request : Request}
    (hends : ¬ request.EndsTrigger) (hstart : request ≠ .startStream) (now : Nat) :
    (d.handleRequest request now).2.UnderWay start count := by
  cases request with
  | setModeTrigger => exact absurd (.inl rfl) hends
  | setModeContinuous => exact absurd (.inr (.inl rfl)) hends
  | stopStream => exact absurd (.inr (.inr rfl)) hends
  | startStream => exact absurd rfl hstart
  | configureStream => exact { h with }
  | requestBufferedData =>
    simp only [Device.handleRequest]
    split <;> exact h
  | _ => exact h

theorem UnderWay.step (h : d.UnderWay start count) (hchecked : d.config.Checked)
    (hstart : input.startsStream = false) (hopen : ∀ o ∈ d.occurrences input, ¬ o.EndsBurst) :
    Carries d start count (d.packets input) (d.step input) := by
  have hserved {request : Request} {now : Nat} (hrequest : input.request? = some (request, now))
      (hmem : .served request ∈ d.occurrences input) :
      (d.handleRequest request now).2.UnderWay start count := by
    have hother : request ≠ .startStream := by simpa [Input.startsStream, hrequest] using hstart
    exact h.handleRequest (hopen (.served request) hmem) hother now
  rw [packets_eq]
  refine Carries.step ?_
  cases input with
  | frame wire now queue =>
    refine .inl ⟨rfl, ?_⟩
    rw [turn]
    cases hrequested : requested? wire with
    | some request =>
      exact hserved (by rw [Input.request?, hrequested]; rfl)
        (by simp [occurrences, Input.request?, hrequested])
    | none => exact h
  | request request now => exact .inl ⟨rfl, hserved rfl (by simp [occurrences, Input.request?])⟩
  | tick now queue =>
    refine h.due_carries hchecked fun f hf hends => hopen (.sent f) ?_ hends
    exact List.mem_append_right _ (by simpa [emits] using hf)
  | stop => exact absurd trivial (hopen .stopped (by simp [occurrences]))

/-! ## Runs -/

/-- The packets of a burst that have been sent: each has the stamp that its place in the burst gives
it, and was sent then or later. -/
structure Timely (interval start : Nat) (packets : List (Nat × Frame)) : Prop where
  stamps : ∀ k (h : k < packets.length), Burst.IsPacket (start + k * interval) packets[k].2
  times : ∀ k (h : k < packets.length), start + k * interval ≤ packets[k].1

theorem Timely.carries {packets sent : List (Nat × Frame)}
    (h : Timely d.config.dataIntervalMs.toNat start packets)
    (hcarries : Carries d start packets.length sent d') :
    Timely d.config.dataIntervalMs.toNat start (packets ++ sent) ∧
      d'.UnderWay start (packets ++ sent).length := by
  rcases hcarries with ⟨rfl, hunderWay⟩ | ⟨now, f, rfl, hpacket, htime, hunderWay⟩
  · rw [List.append_nil]
    exact ⟨h, hunderWay⟩
  · generalize d.config.dataIntervalMs.toNat = interval at *
    refine ⟨⟨?_, ?_⟩, by rwa [List.length_append]⟩
    · exact forall_getElem_concat
        (p := fun k (sent : Nat × Frame) => Burst.IsPacket (start + k * interval) sent.2)
        h.stamps hpacket
    · exact forall_getElem_concat
        (p := fun k (sent : Nat × Frame) => start + k * interval ≤ sent.1)
        h.times htime

theorem history_append (d : Device) (first second : List Input) :
    d.history (first ++ second) = d.history first ++ (d.run first).history second := by
  induction first generalizing d with
  | nil => rfl
  | cons input rest ih =>
    rw [List.cons_append, history, history, ih, List.append_assoc]
    rfl

theorem history_concat (d : Device) (inputs : List Input) (input : Input) :
    d.history (inputs ++ [input]) = d.history inputs ++ (d.run inputs).occurrences input := by
  rw [history_append, history, history, List.append_nil]

-- From the tick on at which the trigger fires.
theorem timely_run (hchecked : d.config.Checked) {queue : RecordQueue}
    (hfires : ∃ sent ∈ d.emits (.tick start queue), sent.2.command = Command.eventTriggered)
    {during : List Input} (hkept : ∀ input ∈ during, input.startsStream = false)
    (hopen : ∀ o ∈ d.history (.tick start queue :: during), ¬ o.EndsBurst) :
    let packets := d.packetsOver (.tick start queue :: during)
    Timely d.config.dataIntervalMs.toNat start packets ∧
      (d.run (.tick start queue :: during)).UnderWay start packets.length := by
  induction during using List.reverseRecOn with
  | nil =>
    have hevent : ∃ f ∈ (d.due start).1, f.command = Command.eventTriggered := by
      simpa [emits] using hfires
    have hgoesOn : ∀ f ∈ (d.due start).1, f.command ≠ Command.bufferTransferComplete := by
      intro f hf hends
      refine hopen (.sent f) ?_ hends
      simpa [history, occurrences, Input.request?, emits] using hf
    have hcarries :
        Carries d start 0 (d.packets (.tick start queue)) (d.turn (.tick start queue)) := by
      rw [packets_eq]
      exact due_carries hchecked hevent hgoesOn
    have hnone : Timely d.config.dataIntervalMs.toNat start [] :=
      ⟨fun k hk => absurd hk (Nat.not_lt_zero k), fun k hk => absurd hk (Nat.not_lt_zero k)⟩
    rw [packetsOver, packetsOver, List.append_nil]
    exact hnone.carries hcarries.step
  | append_singleton during input ih =>
    obtain ⟨hkept, hinput⟩ := List.forall_mem_append.mp hkept
    rw [← List.cons_append, history_concat] at hopen
    obtain ⟨hbefore, hlast⟩ := List.forall_mem_append.mp hopen
    obtain ⟨htimely, hunderWay⟩ := ih hkept hbefore
    have hconfig := d.run_config (.tick start queue :: during)
    rw [← List.cons_append, packetsOver_concat, run_concat]
    rw [← hconfig] at hchecked htimely ⊢
    exact htimely.carries
      (hunderWay.step hchecked (hinput input (List.mem_singleton_self input)) hlast)

/-- In whatever state a device is when its trigger fires at `start`, until the burst is over, and
unless the stream is started again: the packets of the burst are stamped an interval apart from
`start` on, and none is sent before the time that is its stamp. The device keeps that time and the
number of the packets, and the next packet is not due before the stamp that follows from them. So
if the times fit into a word, then so do the stamps and their distances from `start`. -/
theorem stamp_le_time (hvalid : d.config.validate = .ok ()) {queue : RecordQueue}
    (hfires : ∃ sent ∈ d.emits (.tick start queue), sent.2.command = Command.eventTriggered)
    {during : List Input} (hkept : ∀ input ∈ during, input.startsStream = false)
    (hopen : ∀ o ∈ d.history (.tick start queue :: during), ¬ o.EndsBurst) :
    let interval := d.config.dataIntervalMs.toNat
    let packets := d.packetsOver (.tick start queue :: during)
    let d' := d.run (.tick start queue :: during)
    let t := d'.state.trigger
    (∀ k (h : k < packets.length),
      Burst.IsPacket (start + k * interval) packets[k].2 ∧
      start + k * interval ≤ packets[k].1 ∧
      (packets[k].1 < UInt64.size →
        k * interval < UInt64.size ∧ start + k * interval < UInt64.size)) ∧
    t.sending = true ∧ t.timestampMs = start ∧ t.packetsSent = packets.length ∧
    ∀ now, d'.dataDue now = true →
      t.timestampMs + t.packetsSent * interval ≤ now ∧
      (now < UInt64.size →
        t.packetsSent * interval < UInt64.size ∧
        t.timestampMs + t.packetsSent * interval < UInt64.size) := by
  intro interval packets d' t
  obtain ⟨htimely, hunderWay⟩ := timely_run (Config.checked_of_validate hvalid) hfires hkept hopen
  have hfits {stamp distance now : Nat} (hstamp : start + distance = stamp) (htime : stamp ≤ now)
      (hnow : now < UInt64.size) : distance < UInt64.size ∧ stamp < UInt64.size := by omega
  refine ⟨fun k h => ⟨htimely.stamps k h, htimely.times k h, fun hnow => ?_⟩, hunderWay.sending,
    hunderWay.fired, hunderWay.sent, fun now hdue => ?_⟩
  · exact hfits rfl (htimely.times k h) hnow
  · have htime := hunderWay.onTime now hdue
    rw [d.run_config] at htime
    rw [show t.timestampMs = start from hunderWay.fired, show t.packetsSent = _ from hunderWay.sent]
    exact ⟨htime, fun hnow => hfits rfl htime hnow⟩

-- The second packet comes late, and the clock steps back before the third.
theorem stamp_le_time_late :
    let config : Config :=
      { dataIntervalMs := 3, triggerDelay := ⟨0, 1⟩, burstPacketsMin := 3, burstPacketsMax := 3,
        samplesPerPacket := 1, signal := { noise := 0 } }
    let queue := RecordQueue.ofCapacity 64
    let during := [.tick 6 queue, .tick 11 queue, .request .ping 4, .tick 4 queue, .tick 14 queue]
    ∃ d₀, powerOn config (Random.Stream.ofSeed 7) = .ok d₀ ∧
      let d := d₀.run [.request .startStream 0, .request .setModeTrigger 5]
      let packets := d.packetsOver (.tick 5 queue :: during)
      packets.map (·.1) = [5, 11, 14] ∧
      (∀ k (h : k < packets.length), Burst.IsPacket (5 + k * 3) packets[k].2 ∧
        5 + k * 3 ≤ packets[k].1) ∧
      ∀ now, (d.run (.tick 5 queue :: during)).dataDue now = true → 5 + 3 * 3 ≤ now := by
  intro config queue during
  let d₀ : Device := ⟨config, State.powerOn config, Random.Stream.ofSeed 7, 0, {}⟩
  have hpower : powerOn config (Random.Stream.ofSeed 7) = .ok d₀ := rfl
  refine ⟨d₀, hpower, ?_⟩
  intro d packets
  have hlength : packets.length = 3 := by decide +kernel
  have hvalid : d.config.validate = .ok () := rfl
  have hfires : ∃ sent ∈ d.emits (.tick 5 queue), sent.2.command = Command.eventTriggered := by
    decide +kernel
  have hkept : ∀ input ∈ during, input.startsStream = false := by decide +kernel
  have hopen : ∀ o ∈ d.history (.tick 5 queue :: during), ¬ o.EndsBurst := by decide +kernel
  obtain ⟨hpackets, -, hstart, hsent, hnext⟩ := stamp_le_time hvalid hfires hkept hopen
  refine ⟨by decide +kernel, fun k h => ⟨(hpackets k h).1, (hpackets k h).2.1⟩, fun now hdue => ?_⟩
  have htime := (hnext now hdue).1
  rwa [hstart, hsent, hlength] at htime

end Acquisition.Device
