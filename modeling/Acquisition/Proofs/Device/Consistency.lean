import Mathlib
import Acquisition.Proofs.Device.Channels
import Acquisition.Proofs.Device.Replies
import Acquisition.Proofs.Device.Runs

/-!
# What holds of a device at all times

The flags and counts of a state belong together, whatever the device was given since power-on, and
they tell what has happened: the buffered data of a burst can be had from the event on until the
burst is over (`consistent_run`).
-/

namespace Acquisition.Device

/-- How the parts of a state belong together. -/
structure State.Consistent (c : Config) (s : State) : Prop where
  armed : s.mode = .trigger ↔ s.trigger.armed = true
  idle : s.mode = .continuous → s.trigger = {}
  sending : s.trigger.sending = s.trigger.occurred
  running : s.trigger.sending = true → s.stream = .running
  sent : s.trigger.sending = true → s.trigger.packetsSent ≤ s.trigger.packetsToSend
  fewest : s.trigger.sending = true → c.burstPacketsMin.toNat ≤ s.trigger.packetsToSend
  most : s.trigger.sending = true → s.trigger.packetsToSend ≤ c.burstPacketsMax.toNat
  channels : s.channels.length = c.channels.length

namespace State

variable {c : Config} {s : State}

theorem consistent_powerOn (c : Config) : (powerOn c).Consistent c where
  armed := by simp [powerOn]
  idle _ := rfl
  sending := rfl
  running := nofun
  sent := nofun
  fewest := nofun
  most := nofun
  channels := List.length_map ..

-- Nothing is said about a burst while none is under way.
theorem Consistent.of_not_sending {s' : State} (h : s.Consistent c)
    (harmed : s'.mode = .trigger ↔ s'.trigger.armed = true)
    (hidle : s'.mode = .continuous → s'.trigger = {}) (hsending : s'.trigger.sending = false)
    (hoccurred : s'.trigger.occurred = false) (hchannels : s'.channels = s.channels) :
    s'.Consistent c := by
  have hnever {p : Prop} : s'.trigger.sending = true → p := by
    rw [hsending]
    exact nofun
  exact ⟨harmed, hidle, hsending.trans hoccurred.symm, hnever, hnever, hnever, hnever,
    hchannels ▸ h.channels⟩

end State

theorem length_configureChannel (channels : List ChannelState) (entry : ChannelConfig) :
    (configureChannel channels entry).length = channels.length := List.length_modify ..

theorem length_foldl_configureChannel (channels : List ChannelState)
    (entries : List ChannelConfig) :
    (entries.foldl configureChannel channels).length = channels.length := by
  induction entries generalizing channels with
  | nil => rfl
  | cons entry rest ih => rw [List.foldl_cons, ih, length_configureChannel]

variable {c : Config} {d d' : Device} {now : Nat}

/-! ## Steps -/

theorem consistent_stop (h : d.state.Consistent c) : d.stop.state.Consistent c := by
  refine h.of_not_sending h.armed (fun hmode => ?_) rfl rfl rfl
  have hidle := h.idle hmode
  simp only [stop, hidle]

theorem consistent_handleRequest (h : d.state.Consistent c) (request : Request) (now : Nat) :
    (d.handleRequest request now).2.state.Consistent c := by
  cases request with
  | ping | getStatus | getDeviceInfo => exact h
  | setModeContinuous =>
    exact h.of_not_sending (by simp [handleRequest]) (fun _ => rfl) rfl rfl rfl
  | setModeTrigger =>
    refine h.of_not_sending (by simp [handleRequest, arm]) (fun hmode => ?_) rfl rfl rfl
    cases hmode
  | startStream => exact { h with running := fun _ => rfl }
  | stopStream => exact consistent_stop h
  | configureStream entries =>
    exact { h with channels := (length_foldl_configureChannel ..).trans h.channels }
  | requestBufferedData =>
    simp only [handleRequest]
    split <;> exact h

theorem Move.consistent {f : Frame} (hmove : Move now d f d') (h : d.state.Consistent d.config) :
    d'.state.Consistent d.config := by
  have hcontinuous (hmode : d.state.mode = .trigger) {p : Prop} :
      d.state.mode = .continuous → p := by
    rw [hmode]
    exact nofun
  cases hmove with
  | fire packets random hrunning hmode _ _ _ hfew hmany =>
    exact {
      armed := h.armed
      idle := hcontinuous hmode
      sending := rfl
      running := fun _ => eq_of_beq hrunning
      sent := fun _ => Nat.zero_le _
      fewest := fun _ => hfew
      most := fun _ => hmany
      channels := h.channels }
  | packet stamp _ _ hmode _ _ hleft =>
    exact { h with idle := hcontinuous hmode, sent := fun _ => hleft }
  | complete delay random _ hmode =>
    exact h.of_not_sending h.armed (hcontinuous hmode) rfl rfl rfl
  | sample => exact { h with }

theorem Moves.consistent {frames : List Frame} (hmoves : Moves now d frames d')
    (h : d.state.Consistent d.config) : d'.state.Consistent d.config := by
  induction hmoves with
  | nil => exact h
  | cons hmove _ ih =>
    have hconfig := hmove.keeps.1
    rw [← hconfig]
    exact ih (hconfig ▸ hmove.consistent h)

theorem consistent_step (hchecked : d.config.Checked) (h : d.state.Consistent d.config)
    (input : Input) : (d.step input).state.Consistent d.config := by
  rw [step_state]
  cases input with
  | frame wire now queue =>
    rw [turn]
    split
    · exact consistent_handleRequest h _ now
    · exact h
  | request request now => exact consistent_handleRequest h request now
  | tick now queue => exact (due_moves hchecked now).consistent h
  | stop => exact consistent_stop h

/-! ## What has happened -/

inductive Occurrence
  | served (request : Request)
  | sent (f : Frame)
  | stopped

/-- What happens on an input. A request is served before the reply to it is sent. -/
def occurrences (d : Device) : Input → List Occurrence
  | .stop => [.stopped]
  | input => (input.request?.toList.map fun served => .served served.1) ++
      (d.emits input).map fun sent => .sent sent.2

def history (d : Device) : List Input → List Occurrence
  | [] => []
  | input :: rest => d.occurrences input ++ (d.step input).history rest

def Occurrence.IsEvent : Occurrence → Prop
  | .sent f => f.command = Command.eventTriggered
  | .served _ | .stopped => False

def Occurrence.EndsBurst : Occurrence → Prop
  | .served request => request.EndsTrigger
  | .sent f => f.command = Command.bufferTransferComplete
  | .stopped => True

/-- A trigger has fired, and its burst is not over. -/
def BurstOpen (history : List Occurrence) : Prop :=
  ∃ before event after, history = before ++ event :: after ∧ event.IsEvent ∧
    ∀ occurrence ∈ after, ¬ occurrence.EndsBurst

theorem burstOpen_concat (history : List Occurrence) (last : Occurrence) :
    BurstOpen (history ++ [last]) ↔ last.IsEvent ∨ BurstOpen history ∧ ¬ last.EndsBurst := by
  constructor
  · rintro ⟨before, event, after, heq, hevent, hafter⟩
    rcases List.eq_nil_or_concat' after with rfl | ⟨after, final, rfl⟩
    · obtain ⟨-, hlast⟩ := List.append_inj' heq rfl
      cases hlast
      exact .inl hevent
    · rw [← List.cons_append, ← List.append_assoc] at heq
      obtain ⟨rfl, hlast⟩ := List.append_inj' heq rfl
      cases hlast
      exact .inr ⟨⟨before, event, after, rfl, hevent, fun o ho =>
        hafter o (List.mem_append_left _ ho)⟩, hafter last (by simp)⟩
  · rintro (hevent | ⟨⟨before, event, after, rfl, hevent, hafter⟩, hlast⟩)
    · exact ⟨history, last, [], rfl, hevent, fun _ ho => nomatch ho⟩
    · refine ⟨before, event, after ++ [last], by simp, hevent, fun o ho => ?_⟩
      rcases List.mem_append.mp ho with ho | ho
      · exact hafter o ho
      · rwa [List.mem_singleton.mp ho]

theorem not_burstOpen_nil : ¬ BurstOpen [] := by
  rintro ⟨before, event, after, heq, -⟩
  simp at heq

/-- The device knows whether a burst is open. -/
def Recalls (d : Device) (history : List Occurrence) : Prop :=
  d.state.trigger.occurred = true ↔ BurstOpen history

section

variable {history : List Occurrence}

theorem Recalls.event (last : Occurrence) (hlast : last.IsEvent)
    (hoccurred : d'.state.trigger.occurred = true) : d'.Recalls (history ++ [last]) := by
  rw [Recalls, burstOpen_concat]
  exact ⟨fun _ => .inl hlast, fun _ => hoccurred⟩

theorem Recalls.ends (last : Occurrence) (hlast : ¬ last.IsEvent) (hends : last.EndsBurst)
    (hoccurred : d'.state.trigger.occurred = false) : d'.Recalls (history ++ [last]) := by
  rw [Recalls, burstOpen_concat, hoccurred]
  simp [hlast, hends]

theorem Recalls.other (h : d.Recalls history) (last : Occurrence) (hlast : ¬ last.IsEvent)
    (hends : ¬ last.EndsBurst) (hoccurred : d'.state.trigger.occurred = d.state.trigger.occurred) :
    d'.Recalls (history ++ [last]) := by
  rw [Recalls, burstOpen_concat, hoccurred, or_iff_right hlast, and_iff_left hends]
  exact h

theorem Recalls.served (h : d.Recalls history) (request : Request) (now : Nat) :
    (d.handleRequest request now).2.Recalls (history ++ [.served request]) := by
  by_cases hends : request.EndsTrigger
  · refine .ends _ id hends ?_
    rcases hends with rfl | rfl | rfl <;> rfl
  · exact h.other _ id hends (by rw [(handleRequest_undisturbing d hends now).1])

theorem Recalls.replied (h : d.Recalls history) {f : Frame}
    (hf : Command.isUnsolicited f.command = false) : d.Recalls (history ++ [.sent f]) := by
  refine h.other _ (fun hevent : f.command = _ => ?_) (fun hcomplete : f.command = _ => ?_) rfl
  · rw [hevent] at hf
    cases hf
  · rw [hcomplete] at hf
    cases hf

theorem Recalls.packet (h : d.Recalls history) {f : Frame} (hf : f.command = Command.dataPacket)
    (hoccurred : d'.state.trigger.occurred = d.state.trigger.occurred) :
    d'.Recalls (history ++ [.sent f]) := by
  refine h.other _ (fun hevent : f.command = _ => ?_) (fun hcomplete : f.command = _ => ?_)
    hoccurred
  · rw [hf] at hevent
    cases hevent
  · rw [hf] at hcomplete
    cases hcomplete

theorem Recalls.move (h : d.Recalls history) {f : Frame} (hmove : Move now d f d') :
    d'.Recalls (history ++ [.sent f]) := by
  cases hmove with
  | fire => exact .event _ rfl rfl
  | packet => exact h.packet rfl rfl
  | complete =>
    have hother : ¬ Command.bufferTransferComplete = Command.eventTriggered := by decide
    exact .ends _ hother rfl rfl
  | sample => exact h.packet rfl rfl

theorem Recalls.moves (h : d.Recalls history) {frames : List Frame}
    (hmoves : Moves now d frames d') : d'.Recalls (history ++ frames.map .sent) := by
  induction hmoves generalizing history with
  | nil =>
    rw [List.map_nil, List.append_nil]
    exact h
  | cons hmove _ ih =>
    rw [List.map_cons, List.append_cons]
    exact ih (h.move hmove)

theorem Recalls.received (h : d.Recalls history) (f : Frame) (now : Nat) :
    (d.reply f now).2.Recalls (history ++
      ((Request.parse f.command f.payload).toOption.toList.map .served ++
        [.sent (d.reply f now).1])) := by
  have hreply := reply_solicited d f now
  rw [← List.append_assoc]
  refine Recalls.replied ?_ hreply
  rw [reply_turn]
  cases Request.parse f.command f.payload with
  | ok request => exact h.served request now
  | error refusal =>
    rw [Except.toOption, Option.toList_none, List.map_nil, List.append_nil]
    exact h

-- The counters do not matter to what a device recalls.
theorem Recalls.step (h : d.Recalls history) (hchecked : d.config.Checked) (input : Input) :
    (d.step input).Recalls (history ++ d.occurrences input) := by
  rw [Recalls, step_state, ← Recalls]
  cases input with
  | frame wire now queue =>
    simp only [occurrences, emits, turn, Input.request?, requested?]
    cases hreceived : received? wire with
    | some f =>
      have hreplied := h.received f now
      rw [reply_turn] at hreplied
      rw [respond_of_received hreceived]
      dsimp only [Option.bind_some, Option.toList_some, List.map_cons, List.map_nil]
      cases hparsed : (Request.parse f.command f.payload).toOption with
      | some request => simpa [hparsed] using hreplied
      | none => simpa [hparsed] using hreplied
    | none => simpa [respond_of_not_received hreceived] using h
  | request request now =>
    simpa [occurrences, emits, Input.request?, turn] using h.served request now
  | tick now queue =>
    have hdue := h.moves (due_moves hchecked now)
    simpa [occurrences, emits, Input.request?, turn, Function.comp_def] using hdue
  | stop => exact .ends _ id trivial rfl

end

/-! ## Runs -/

theorem consistent_recalls_run (hchecked : d.config.Checked) (h : d.state.Consistent d.config)
    {history : List Occurrence} (hrecalls : d.Recalls history) (inputs : List Input) :
    (d.run inputs).state.Consistent d.config ∧
      (d.run inputs).Recalls (history ++ d.history inputs) := by
  induction inputs generalizing d history with
  | nil =>
    rw [Device.history, List.append_nil]
    exact ⟨h, hrecalls⟩
  | cons input rest ih =>
    have hconfig := d.step_config input
    have hrest := ih (hconfig.symm ▸ hchecked) (hconfig.symm ▸ consistent_step hchecked h input)
      (hrecalls.step hchecked input)
    rw [hconfig, List.append_assoc] at hrest
    exact hrest

section

variable {config : Config} {entropy : Random.Stream} {d₀ : Device}

theorem consistent_recalls_of_powerOn (hpower : powerOn config entropy = .ok d₀)
    (inputs : List Input) :
    (d₀.run inputs).state.Consistent config ∧ (d₀.run inputs).Recalls (d₀.history inputs) := by
  obtain ⟨hvalid, hconfig, -⟩ := powerOn_ok hpower
  have hchecked := Config.checked_of_validate hvalid
  have hstart : d₀.state.Consistent d₀.config := by
    rw [powerOn_state hpower, hconfig]
    exact State.consistent_powerOn config
  have hfirst : d₀.Recalls [] := by
    rw [Recalls, powerOn_state hpower]
    exact ⟨nofun, fun hopen => absurd hopen not_burstOpen_nil⟩
  have hrun := consistent_recalls_run (hconfig ▸ hchecked) hstart hfirst inputs
  rw [hconfig] at hrun
  exact hrun

/-- Whatever a device was given since power-on, the parts of its state belong together, and it
answers a request for buffered data with an acknowledgement if a burst is open, and refuses it
otherwise. -/
theorem consistent_run (hpower : powerOn config entropy = .ok d₀) (inputs : List Input) :
    let d := d₀.run inputs
    let s := d.state
    let t := s.trigger
    (s.mode = .trigger ↔ t.armed = true) ∧ (s.mode = .continuous → t = {}) ∧
    (t.sending = true ↔ t.occurred = true) ∧
    (t.sending = true → s.stream = .running ∧ t.packetsSent ≤ t.packetsToSend ∧
      config.burstPacketsMin.toNat ≤ t.packetsToSend ∧
      t.packetsToSend ≤ config.burstPacketsMax.toNat) ∧
    s.channels.length = config.channels.length ∧ 1 ≤ s.channels.length ∧ s.channels.length ≤ 8 ∧
    (∀ i, s.channelMask.toNat.testBit i = true ↔ ∃ ch, s.channels[i]? = some ch ∧ ch.enabled) ∧
    (BurstOpen (d₀.history inputs) → ∀ now, (d.handleRequest .requestBufferedData now).1 = .ack) ∧
    (¬ BurstOpen (d₀.history inputs) →
      ∀ now, (d.handleRequest .requestBufferedData now).1 = .nack 0x02 0x02) ∧
    (∀ wire f now, received? wire = some f → f.command = Command.requestBufferedData →
      (d.respond wire now).1 =
        some ((d.handleRequest .requestBufferedData now).1.toFrame f.seq)) := by
  intro d s t
  have hchecked := Config.checked_of_validate (powerOn_ok hpower).1
  obtain ⟨h, hrecalls⟩ := consistent_recalls_of_powerOn hpower inputs
  have hpos := hchecked.channels_pos
  have hmany : config.channels.length ≤ 8 := hchecked.channels_le
  have hchannels : s.channels.length = config.channels.length := h.channels
  -- Only in trigger mode a burst can be open.
  have hmode : t.occurred = true → s.mode = .trigger := by
    intro hoccurred
    cases hmode : s.mode with
    | trigger => rfl
    | continuous => rw [show t = {} from h.idle hmode] at hoccurred; cases hoccurred
  refine ⟨h.armed, h.idle, by rw [h.sending], fun hsending => ⟨h.running hsending, h.sent hsending,
    h.fewest hsending, h.most hsending⟩, hchannels, by omega, by omega, fun i => ?_,
    fun hopen now => ?_, fun hopen now => ?_, fun wire f now hreceived hcommand => ?_⟩
  · rw [State.testBit_channelMask (by omega), Option.any_eq_true]
  · have hoccurred := hrecalls.mpr hopen
    rw [handleRequest, if_pos ⟨hmode hoccurred, hoccurred⟩]
  · have hoccurred := mt hrecalls.mp hopen
    rw [handleRequest, if_neg fun hboth => hoccurred hboth.2]
    rfl
  · rw [respond_of_received hreceived, reply, hcommand]
    rfl

end

-- The trigger fires on the first tick, and its burst is not over yet.
theorem consistent_run_mid_burst :
    let config : Config :=
      { triggerDelay := ⟨0, 1⟩, burstPacketsMin := 3, burstPacketsMax := 3, samplesPerPacket := 1 }
    let inputs := [.request .startStream 0, .request .setModeTrigger 5,
      .tick 5 (RecordQueue.ofCapacity 64)]
    ∃ d₀, powerOn config (Random.Stream.ofSeed 7) = .ok d₀ ∧ BurstOpen (d₀.history inputs) ∧
      let d := d₀.run inputs
      d.state.trigger.sending = true ∧ d.state.stream = .running ∧ d.state.channels.length = 2 ∧
      ∀ now, (d.handleRequest .requestBufferedData now).1 = .ack := by
  intro config inputs
  let d₀ : Device := ⟨config, State.powerOn config, Random.Stream.ofSeed 7, 0, {}⟩
  have hpower : powerOn config (Random.Stream.ofSeed 7) = .ok d₀ := rfl
  obtain ⟨-, -, hoccurred, hsending, hchannels, -, -, -, hopen, -⟩ := consistent_run hpower inputs
  have hsends : (d₀.run inputs).state.trigger.sending = true := by decide +kernel
  have hburst := (consistent_recalls_of_powerOn hpower inputs).2.mp (hoccurred.mp hsends)
  exact ⟨_, hpower, hburst, hsends, (hsending hsends).1, hchannels, hopen hburst⟩

end Acquisition.Device
