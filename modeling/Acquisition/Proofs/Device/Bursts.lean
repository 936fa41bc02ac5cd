import Mathlib
import Acquisition.Proofs.Device.Replies
import Acquisition.Proofs.Device.Runs

/-!
# The trigger on the link

Once trigger mode is set, and as long as neither the mode nor the stream is ended, what the device
sends unprompted is a sequence of bursts: an event, as many data packets as were drawn for the
burst, and the end of the transfer (`unprompted_isPrefix_bursts`). The bursts keep their distance in
time, and their packets are stamped as if they were sent on time.
-/

namespace Acquisition.Device

/-- The frames of one triggered transfer, each with the time at which it is sent. -/
structure Burst where
  event : Nat × Frame
  packets : List (Nat × Frame)
  complete : Nat × Frame

namespace Burst

def trace (b : Burst) : List (Nat × Frame) := b.event :: b.packets ++ [b.complete]

/-- An event that is stamped with the time at which it is sent. -/
def IsEvent (c : Config) (sent : Nat × Frame) : Prop :=
  ∃ seq, sent.2 = (Response.eventTriggered (UInt32.ofNat sent.1) 0 c.preTriggerSamples
    c.postTriggerSamples).toFrame seq

def IsPacket (stamp : Nat) (f : Frame) : Prop :=
  ∃ seq packet, f = (Response.dataPacket packet).toFrame seq ∧
    packet.timestamp = UInt32.ofNat stamp

/-- One packet for each interval from the time of the event on. -/
def ArePackets (c : Config) (start : Nat) (packets : List (Nat × Frame)) : Prop :=
  ∀ k (h : k < packets.length), IsPacket (start + k * c.dataIntervalMs.toNat) packets[k].2

/-- A burst whose event is not sent before `earliest`. -/
structure Follows (c : Config) (earliest : Nat) (b : Burst) : Prop where
  event : IsEvent c b.event
  earliest : earliest ≤ b.event.1
  packets : ArePackets c b.event.1 b.packets
  fewest : c.burstPacketsMin.toNat ≤ b.packets.length
  most : b.packets.length ≤ c.burstPacketsMax.toNat
  complete : ∃ seq, b.complete.2 = Response.bufferTransferComplete.toFrame seq

end Burst

/-- Bursts one after the other, the first from `earliest` on. Another one may follow from `next`
on. -/
inductive Bursts (c : Config) (earliest : Nat) : List (Nat × Frame) → (next : Nat) → Prop
  | none : Bursts c earliest [] earliest
  | burst {trace : List (Nat × Frame)} {next : Nat} (h : Bursts c earliest trace next) (b : Burst)
      (hb : b.Follows c next) :
    Bursts c earliest (trace ++ b.trace) (b.complete.1 + c.triggerRearm.minMs.toNat)

/-- The trace so far, and how far the trigger is with it: it waits for its time, or it has sent the
event and some packets of a burst. -/
inductive Progress (c : Config) (earliest : Nat) :
    (trace : List (Nat × Frame)) → TriggerState → Prop
  | waiting {trace : List (Nat × Frame)} {next : Nat} {t : TriggerState}
      (h : Bursts c earliest trace next) (harmed : t.armed = true) (hidle : t.occurred = false)
      (hsending : t.sending = false) (hnext : next ≤ t.nextTriggerMs) :
    Progress c earliest trace t
  | bursting {trace packets : List (Nat × Frame)} {next : Nat} {event : Nat × Frame}
      {t : TriggerState} (h : Bursts c earliest trace next) (harmed : t.armed = true)
      (hoccurred : t.occurred = true) (hsending : t.sending = true)
      (hevent : Burst.IsEvent c event) (hnext : next ≤ event.1) (hstart : t.timestampMs = event.1)
      (hpackets : Burst.ArePackets c event.1 packets) (hsent : t.packetsSent = packets.length)
      (hleft : t.packetsSent ≤ t.packetsToSend)
      (hfew : c.burstPacketsMin.toNat ≤ t.packetsToSend)
      (hmany : t.packetsToSend ≤ c.burstPacketsMax.toNat) :
    Progress c earliest (trace ++ event :: packets) t

variable {c : Config} {earliest now : Nat} {trace : List (Nat × Frame)}

/-! ## Packets of a burst -/

theorem isPacket_dataPacket (d : Device) (stamp : Nat) :
    Burst.IsPacket stamp (d.dataPacket stamp).1 := ⟨_, _, rfl, rfl⟩

theorem forall_getElem_concat {α : Type} {p : Nat → α → Prop} {xs : List α} {x : α}
    (h : ∀ k (hk : k < xs.length), p k xs[k]) (hx : p xs.length x) :
    ∀ k (hk : k < (xs ++ [x]).length), p k (xs ++ [x])[k] := by
  intro k hk
  rw [List.length_append, List.length_singleton] at hk
  by_cases hlast : k < xs.length
  · rw [List.getElem_append_left hlast]
    exact h k hlast
  · obtain rfl : k = xs.length := by omega
    rw [List.getElem_concat_length rfl]
    exact hx

theorem Burst.ArePackets.concat {start : Nat} {packets : List (Nat × Frame)} {sent : Nat × Frame}
    (h : ArePackets c start packets)
    (hsent : IsPacket (start + packets.length * c.dataIntervalMs.toNat) sent.2) :
    ArePackets c start (packets ++ [sent]) :=
  forall_getElem_concat
    (p := fun k (sent : Nat × Frame) => IsPacket (start + k * c.dataIntervalMs.toNat) sent.2)
    h hsent

-- Packets can be put to those of a burst until there are as many as it has.
theorem Burst.ArePackets.extend {start : Nat} {packets : List (Nat × Frame)}
    (h : ArePackets c start packets) (count : Nat) :
    ∃ more, more.length = count ∧ ArePackets c start (packets ++ more) := by
  induction count with
  | zero => exact ⟨[], rfl, by rwa [List.append_nil]⟩
  | succ count ih =>
    obtain ⟨more, hcount, hmore⟩ := ih
    refine ⟨more ++ [(0, (Response.dataPacket ⟨UInt32.ofNat
      (start + (packets ++ more).length * c.dataIntervalMs.toNat), 0, 0, []⟩).toFrame 0)], ?_, ?_⟩
    · rw [List.length_append, hcount, List.length_singleton]
    · rw [← List.append_assoc]
      exact hmore.concat ⟨_, _, rfl, rfl⟩

/-! ## Progress -/

-- A burst under way can be completed.
theorem Progress.isPrefix {t : TriggerState} (h : Progress c earliest trace t) :
    ∃ whole next, Bursts c earliest whole next ∧ trace <+: whole := by
  cases h with
  | waiting h => exact ⟨_, _, h, List.prefix_refl _⟩
  | @bursting done packets next event _ h _ _ _ hevent hnext _ hpackets hsent hleft hfew hmany =>
    obtain ⟨more, hcount, hall⟩ := hpackets.extend (t.packetsToSend - t.packetsSent)
    have hlength : (packets ++ more).length = t.packetsToSend := by
      rw [List.length_append]
      omega
    let b : Burst := ⟨event, packets ++ more, (0, Response.bufferTransferComplete.toFrame 0)⟩
    have hb : b.Follows c next :=
      ⟨hevent, hnext, hall, hlength.symm ▸ hfew, hlength.symm ▸ hmany, 0, rfl⟩
    refine ⟨_, _, h.burst b hb, ?_⟩
    rw [List.prefix_append_right_inj, Burst.trace, List.cons_append, List.prefix_cons_inj,
      List.append_assoc]
    exact List.prefix_append ..

theorem Progress.move {d d' : Device} {f : Frame} (h : Progress c earliest trace d.state.trigger)
    (hconfig : d.config = c) (hmode : d.state.mode = .trigger) (hmove : Move now d f d') :
    Progress c earliest (trace ++ [(now, f)]) d'.state.trigger := by
  subst hconfig
  cases hmove with
  | fire packets random _ _ harmed hidle hdue hfew hmany =>
    cases h with
    | waiting h _ _ _ hnext =>
      exact .bursting h harmed rfl rfl ⟨_, rfl⟩ (hnext.trans hdue) rfl (fun _ hk => nomatch hk) rfl
        (Nat.zero_le _) hfew hmany
    | bursting _ _ hoccurred => rw [hidle] at hoccurred; cases hoccurred
  | packet stamp hstamp _ _ hsending _ hleft =>
    cases h with
    | waiting _ _ _ hnot => rw [hsending] at hnot; cases hnot
    | bursting h harmed hoccurred _ hevent hnext hstart hpackets hsent _ hfew hmany =>
      rw [List.append_assoc, List.cons_append]
      refine .bursting h harmed hoccurred hsending hevent hnext hstart (hpackets.concat ?_) ?_
        hleft hfew hmany
      · rw [← hsent, ← hstart, ← hstamp]
        exact isPacket_dataPacket d stamp
      · rw [List.length_append, ← hsent, List.length_singleton]
  | complete delay random _ _ hsending _ hsent hearly _ =>
    cases h with
    | waiting _ _ _ hnot => rw [hsending] at hnot; cases hnot
    | @bursting done packets next event _ h harmed _ _ hevent hnext _ hpackets hcount hleft hfew
        hmany =>
      have hlength : packets.length = d.state.trigger.packetsToSend := by omega
      let b : Burst := ⟨event, packets, (now, Response.bufferTransferComplete.toFrame d.nextSeq)⟩
      have hb : b.Follows d.config next :=
        ⟨hevent, hnext, hpackets, hlength ▸ hfew, hlength ▸ hmany, _, rfl⟩
      rw [List.append_assoc]
      exact .waiting (h.burst b hb) harmed rfl rfl (Nat.add_le_add_left hearly now)
  | sample _ hcontinuous => rw [hmode] at hcontinuous; cases hcontinuous

theorem Progress.moves {d d' : Device} {frames : List Frame}
    (h : Progress c earliest trace d.state.trigger) (hconfig : d.config = c)
    (hmode : d.state.mode = .trigger) (hmoves : Moves now d frames d') :
    Progress c earliest (trace ++ frames.map (now, ·)) d'.state.trigger ∧
      d'.state.mode = .trigger := by
  induction hmoves generalizing trace with
  | nil =>
    rw [List.map_nil, List.append_nil]
    exact ⟨h, hmode⟩
  | cons hmove _ ih =>
    have hkeeps := hmove.keeps
    rw [List.map_cons, List.append_cons]
    exact ih (h.move hconfig hmode hmove) (hkeeps.1.trans hconfig) (hkeeps.2.1.trans hmode)

/-! ## Inputs -/

/-- An input that leaves a trigger to itself. -/
def Input.Undisturbing (input : Input) : Prop :=
  input ≠ .stop ∧ ∀ request now, input.request? = some (request, now) → ¬ request.EndsTrigger

/-- What the device sends without being asked over a run. -/
def unpromptedOver (d : Device) (inputs : List Input) : List (Nat × Frame) :=
  (d.emissions inputs).filter fun sent => Command.isUnsolicited sent.2.command

-- Replies are not among what is sent without being asked.
theorem unprompted_emits (d : Device) (input : Input) :
    (d.emits input).filter (fun sent => Command.isUnsolicited sent.2.command) =
      match input with
      | .tick now _ => (d.due now).1.map (now, ·)
      | _ => [] := by
  cases input with
  | frame wire now queue =>
    simp only [emits]
    cases hreceived : received? wire with
    | some f =>
      rw [respond_of_received hreceived, List.filter_eq_nil_iff]
      intro sent hsent
      rw [Option.toList_some, List.map_singleton, List.mem_singleton] at hsent
      rw [hsent, reply_solicited]
      exact Bool.false_ne_true
    | none =>
      rw [respond_of_not_received hreceived]
      rfl
  | tick now queue =>
    rw [emits, List.filter_eq_self]
    intro sent hsent
    obtain ⟨f, hf, rfl⟩ := List.mem_map.mp hsent
    exact due_unsolicited d now f hf
  | request | stop => rfl

theorem Progress.step {d : Device} (h : Progress c earliest trace d.state.trigger)
    (hchecked : c.Checked) (hconfig : d.config = c) (hmode : d.state.mode = .trigger)
    {input : Input} (hinput : input.Undisturbing) :
    Progress c earliest
        (trace ++ (d.emits input).filter fun sent => Command.isUnsolicited sent.2.command)
        (d.step input).state.trigger ∧
      (d.step input).state.mode = .trigger := by
  rw [unprompted_emits, step_state]
  cases input with
  | frame wire now queue =>
    rw [List.append_nil, turn]
    cases hrequested : requested? wire with
    | some request =>
      have hleft := hinput.2 request now (by rw [Input.request?, hrequested]; rfl)
      obtain ⟨htrigger, hkept⟩ := handleRequest_undisturbing d hleft now
      rw [htrigger, hkept]
      exact ⟨h, hmode⟩
    | none => exact ⟨h, hmode⟩
  | request request now =>
    obtain ⟨htrigger, hkept⟩ := handleRequest_undisturbing d (hinput.2 request now rfl) now
    rw [List.append_nil, turn, htrigger, hkept]
    exact ⟨h, hmode⟩
  | tick now queue => exact h.moves hconfig hmode (due_moves (hconfig ▸ hchecked) now)
  | stop => exact absurd rfl hinput.1

theorem Progress.run {d : Device} (h : Progress c earliest trace d.state.trigger)
    (hchecked : c.Checked) (hconfig : d.config = c) (hmode : d.state.mode = .trigger)
    {inputs : List Input} (hinputs : ∀ input ∈ inputs, input.Undisturbing) :
    Progress c earliest (trace ++ d.unpromptedOver inputs) (d.run inputs).state.trigger := by
  induction inputs generalizing d trace with
  | nil =>
    rw [unpromptedOver, emissions, List.filter_nil, List.append_nil]
    exact h
  | cons input rest ih =>
    obtain ⟨hstep, hmode'⟩ := h.step hchecked hconfig hmode (hinputs input List.mem_cons_self)
    have hrest := ih hstep ((d.step_config input).trans hconfig) hmode' fun other hother =>
      hinputs other (List.mem_cons_of_mem _ hother)
    rw [unpromptedOver, emissions, List.filter_append, ← List.append_assoc]
    exact hrest

theorem progress_arm (d : Device) (hchecked : d.config.Checked) (now : Nat) :
    Progress d.config (now + d.config.triggerDelay.minMs.toNat) [] (d.arm now).state.trigger :=
  .waiting .none rfl rfl rfl
    (Nat.add_le_add_left (Random.delay_bounds hchecked.triggerDelay d.random).1 now)

/-- From the time at which trigger mode is set, and until the mode is set again or the stream is
stopped, what the device sends unprompted is the beginning of a sequence of bursts. The first event
keeps the least delay from that time, and each later one from the end of the burst before it. -/
theorem unprompted_isPrefix_bursts {config : Config} {entropy : Random.Stream} {d₀ : Device}
    (hpower : powerOn config entropy = .ok d₀) (before : List Input) {setting : Input} {t₀ : Nat}
    (hsetting : setting.request? = some (.setModeTrigger, t₀)) {after : List Input}
    (hafter : ∀ input ∈ after, input.Undisturbing) :
    ∃ whole next, Bursts config (t₀ + config.triggerDelay.minMs.toNat) whole next ∧
      (d₀.run (before ++ [setting])).unpromptedOver after <+: whole := by
  obtain ⟨hvalid, hconfig, -⟩ := powerOn_ok hpower
  have hchecked := Config.checked_of_validate hvalid
  have hbefore : (d₀.run before).config = config := (run_config ..).trans hconfig
  have hset : d₀.run (before ++ [setting]) = (d₀.run before).step setting := by
    rw [run, List.foldl_append]
    rfl
  have harmed : (d₀.run (before ++ [setting])).state = ((d₀.run before).arm t₀).state := by
    rw [hset, step_state, turn_of_request hsetting]
    rfl
  have hstart := progress_arm (d₀.run before) (hbefore ▸ hchecked) t₀
  rw [hbefore, ← harmed] at hstart
  have hrun := hstart.run hchecked ((run_config ..).trans hconfig) (by rw [harmed]; rfl) hafter
  rw [List.nil_append] at hrun
  exact hrun.isPrefix

-- A burst of one packet, ended by the first tick that leaves an interval after it.
theorem unprompted_isPrefix_bursts_one_packet :
    let config : Config :=
      { triggerDelay := ⟨0, 1⟩, burstPacketsMin := 1, burstPacketsMax := 1, samplesPerPacket := 1 }
    let queue := RecordQueue.ofCapacity 64
    let set := Input.frame (Frame.wire ⟨Command.setModeTrigger, 1, []⟩) 5 queue
    let after := [.tick 5 queue, .tick 9 queue, .tick 15 queue, .tick 16 queue]
    ∃ d₀, powerOn config (Random.Stream.ofSeed 7) = .ok d₀ ∧
      let d := d₀.run ([.request .startStream 0] ++ [set])
      ((d.unpromptedOver after).map fun sent => (sent.1, sent.2.command)) =
        [(5, Command.eventTriggered), (5, Command.dataPacket),
          (15, Command.bufferTransferComplete)] ∧
      ∃ whole next, Bursts config 5 whole next ∧ d.unpromptedOver after <+: whole := by
  intro config queue set after
  have hpower : powerOn config (Random.Stream.ofSeed 7) = .ok _ := rfl
  have hset : set.request? = some (.setModeTrigger, 5) := by
    rw [Input.request?, requested?, received?, Frame.parseInto_wire (by decide) (Nat.zero_le _)]
    rfl
  have hafter : ∀ input ∈ after, input.Undisturbing := by
    simp [after, Input.Undisturbing, Input.request?]
  exact ⟨_, hpower, by decide +kernel,
    unprompted_isPrefix_bursts hpower [.request .startStream 0] hset hafter⟩

end Acquisition.Device
