import Mathlib
import Acquisition.Proofs.Device.Idling
import Acquisition.Proofs.Reception.Backlog
import Acquisition.Proofs.Session.Conversation

/-!
# Idle polls

A session polls as often as it likes. What its device does depends on the polls that receive
something and on the first one in each millisecond: those that bring nothing after it do not show in
what is emitted (`emittedOver_of_idle_polls`).
-/

namespace Acquisition

open Link

namespace Session

/-! ## What a session is told -/

section

variable {σ : Type} [Link σ]

/-- What the next poll receives, unless it fails to. -/
def arrivalIn (s : Session σ) : Option Bytes :=
  (Link.receive s.link s.config.receiveChunk).1.toOption

/-- The polls of a run that do not fail to receive: the time of each, and what has arrived. -/
def visits (s : Session σ) : List Nat → List (Nat × Bytes)
  | [] => []
  | now :: rest => (s.arrivalIn.map (now, ·)).toList ++ visits (s.poll now).2 rest

/-- The frames that the device wants to send over a run, with the time of each. -/
def emittedOver (s : Session σ) : List Nat → List (Nat × Frame)
  | [] => []
  | now :: rest => (s.emittedIn now).map (now, ·) ++ emittedOver (s.poll now).2 rest

end

/-- One more visit in the same millisecond, at which nothing has arrived. -/
def Idle (visit next : Nat × Bytes) : Prop := next = (visit.1, [])

instance : DecidableRel Idle := fun visit next =>
  inferInstanceAs (Decidable (next = (visit.1, [])))

def withoutIdle (visits : List (Nat × Bytes)) : List (Nat × Bytes) :=
  visits.destutter (¬ Idle · ·)

end Session

namespace Device

/-- What the device of a session emits over visits, with the receiver in front of it. -/
def attend (d : Device) (rx : Receiver) : List (Nat × Bytes) → List (Nat × Frame) × Device
  | [] => ([], d)
  | (now, arrived) :: rest =>
    let (delivered, rx) := rx.receive Frame.maxSize [arrived]
    let (frames, d) := d.emit now delivered
    let (more, d) := attend d rx rest
    (frames.map (now, ·) ++ more, d)

theorem attend_cons (d : Device) (rx : Receiver) (now : Nat) (arrived : Bytes)
    (rest : List (Nat × Bytes)) :
    d.attend rx ((now, arrived) :: rest) =
      let received := rx.receive Frame.maxSize [arrived]
      let emitted := d.emit now received.1
      (emitted.1.map (now, ·) ++ (emitted.2.attend received.2 rest).1,
        (emitted.2.attend received.2 rest).2) := by
  rw [attend]

theorem attend_tally (d : Device) (counts : Stats) (rx : Receiver) (visits : List (Nat × Bytes)) :
    (d.tally counts).attend rx visits =
      ((d.attend rx visits).1, (d.attend rx visits).2.tally counts) := by
  induction visits generalizing d rx with
  | nil => rfl
  | cons visit rest ih =>
    obtain ⟨now, arrived⟩ := visit
    simp only [attend_cons, emit_tally, ih]

theorem respond_config (d : Device) (wire : Bytes) (now : Nat) :
    (d.respond wire now).2.config = d.config := by
  rw [respond_eq]
  split
  · rfl
  · exact (reply_keeps ..).1

theorem respondAll_config (d : Device) (now : Nat) (wires : List Bytes) :
    (d.respondAll now wires).2.config = d.config := by
  induction wires generalizing d with
  | nil => rfl
  | cons wire rest ih => exact (ih _).trans (respond_config ..)

theorem emit_config (d : Device) (now : Nat) (wires : List Bytes) :
    (d.emit now wires).2.config = d.config :=
  (due_keeps ..).1.trans (respondAll_config ..)

-- After a cycle nothing is left to do at its time.
theorem emit_emit_nil {d : Device} (hchecked : d.config.Checked)
    (hrearm : 0 < d.config.triggerRearm.minMs.toNat) (now : Nat) (wires : List Bytes) :
    (d.emit now wires).2.emit now [] = ([], (d.emit now wires).2) := by
  have hconfig := d.respondAll_config now wires
  have hidle := due_due (hconfig.symm ▸ hchecked) (hconfig.symm ▸ hrearm) now
  simp only [emit, respondAll, hidle, List.append_nil]

-- An idle visit right after another one can be left out.
theorem attend_idle {d : Device} (hchecked : d.config.Checked)
    (hrearm : 0 < d.config.triggerRearm.minMs.toNat) (rx : Receiver) (now : Nat) (arrived : Bytes)
    (rest : List (Nat × Bytes)) :
    d.attend rx ((now, arrived) :: (now, []) :: rest) = d.attend rx ((now, arrived) :: rest) := by
  simp only [attend_cons, Receiver.receive_receive_nil, emit_emit_nil hchecked hrearm,
    List.map_nil, List.nil_append]

theorem attend_withoutIdle {d : Device} (hchecked : d.config.Checked)
    (hrearm : 0 < d.config.triggerRearm.minMs.toNat) (rx : Receiver)
    (visits : List (Nat × Bytes)) :
    d.attend rx (Session.withoutIdle visits) = d.attend rx visits := by
  cases visits with
  | nil => rfl
  | cons visit rest =>
    rw [Session.withoutIdle, List.destutter_cons']
    induction rest generalizing d rx visit with
    | nil => rfl
    | cons next rest ih =>
      by_cases hidle : Session.Idle visit next
      · rw [List.destutter'_cons_neg _ (not_not.mpr hidle), ih hchecked hrearm, hidle]
        exact (attend_idle hchecked hrearm rx visit.1 visit.2 rest).symm
      · have hconfig := d.emit_config visit.1 (rx.receive Frame.maxSize [visit.2]).1
        rw [List.destutter'_cons_pos _ hidle, attend_cons, attend_cons]
        dsimp only
        rw [ih (hconfig.symm ▸ hchecked) (hconfig.symm ▸ hrearm)]

end Device

namespace Session

variable {σ : Type} [Link σ] {s : Session (Recorded σ)} {left : List Departure}
  {waiting : List Frame}

/-! ## The device of a session -/

theorem arrivalIn_of_error {e : LinkError} {link : Recorded σ}
    (h : Link.receive s.link s.config.receiveChunk = (.error e, link)) :
    s.arrivalIn = none ∧ ∀ now, s.emittedIn now = [] := by
  rw [arrivalIn, h]
  refine ⟨rfl, fun now => ?_⟩
  rw [emittedIn, h]

theorem arrivalIn_of_arrival {arrived : Bytes} {link : Recorded σ}
    (h : Link.receive s.link s.config.receiveChunk = (.ok arrived, link)) :
    s.arrivalIn = some arrived ∧
      ∀ now, s.emittedIn now = (s.device.emit now (s.rx.receive Frame.maxSize [arrived]).1).1 := by
  rw [arrivalIn, h]
  refine ⟨rfl, fun now => ?_⟩
  rw [emittedIn, h, Receiver.receive_singleton]

-- Apart from the counters, the device of a session does what it does without the session.
theorem emittedOver_eq (h : Accounts s left waiting) (times : List Nat) :
    s.emittedOver times = (s.device.attend s.rx (s.visits times)).1 ∧
      ∃ counts, (s.pollAll times).device =
        (s.device.attend s.rx (s.visits times)).2.tally counts := by
  induction times generalizing s left waiting with
  | nil => exact ⟨rfl, {}, rfl⟩
  | cons now rest ih =>
    obtain ⟨_, _, hnext, -, -⟩ := h.poll now
    obtain ⟨hemitted, counts, hdevice⟩ := ih hnext
    rw [emittedOver, pollAll, visits, hemitted, hdevice]
    rcases hreceive : Link.receive s.link s.config.receiveChunk with ⟨e | arrived, link⟩
    · obtain ⟨harrival, hnone⟩ := arrivalIn_of_error hreceive
      rw [harrival, hnone, poll_of_error hreceive]
      exact ⟨rfl, counts, rfl⟩
    · obtain ⟨harrival, hframes⟩ := arrivalIn_of_arrival hreceive
      obtain ⟨-, hrx, hpolled, -⟩ := poll_received h hreceive now
      rw [harrival, hframes, hpolled, hrx, Option.map_some, Option.toList_some,
        List.singleton_append, Device.attend_cons, Device.attend_tally, Device.tally_tally]
      exact ⟨rfl, _, rfl⟩

-- If nothing is dropped, all that is emitted is queued.
theorem queuedOver_of_kept (h : Accounts s left waiting) {times : List Nat}
    (hkept : (s.pollAll times).device.stats.framesDropped = 0) :
    s.queuedOver times =
        ((s.emittedOver times).map (·.2)).filter (·.wireSize ≤ Frame.maxSize) ∧
      s.device.stats.framesDropped = 0 := by
  induction times generalizing s left waiting with
  | nil => exact ⟨rfl, hkept⟩
  | cons now rest ih =>
    obtain ⟨_, _, hnext, -, -⟩ := h.poll now
    obtain ⟨hrest, hdropped⟩ := ih hnext hkept
    have hmap (frames : List Frame) : (frames.map (now, ·)).map (·.2) = frames := by simp
    rw [queuedOver, emittedOver, hrest, List.map_append, List.filter_append, hmap]
    rcases hreceive : Link.receive s.link s.config.receiveChunk with ⟨e | arrived, link⟩
    · rw [poll_of_error hreceive] at hdropped
      rw [queuedIn, (arrivalIn_of_error hreceive).2]
      exact ⟨rfl, hdropped⟩
    · obtain ⟨-, -, hpolled, hqueued⟩ := poll_received h hreceive now
      rw [hpolled, Device.tally_stats, Device.Stats.add_def, (Device.emit_stats ..).2] at hdropped
      obtain ⟨hbefore, hrefused⟩ := Nat.add_eq_zero_iff.mp hdropped
      rw [hqueued, (arrivalIn_of_arrival hreceive).2,
        RecordQueue.admitted_of_refused_nil (List.length_eq_zero_iff.mp hrefused)]
      exact ⟨rfl, hbefore⟩

/-- If the trigger never rearms at once, a second tick at the same time does nothing, whatever a
device was given since power-on and whichever queues it is given. So it does not matter how often a
session polls within a millisecond. Two sessions, each over any link, that are visited alike but for
idle polls emit the same frames at the same times and leave the same device, but for the counters;
and if neither drops a frame, they queue the same frames. -/
theorem emittedOver_of_idle_polls {deviceConfig : Device.Config} {entropy : Random.Stream}
    {d₀ : Device} (hpower : Device.powerOn deviceConfig entropy = .ok d₀)
    (hrearm : 1 ≤ deviceConfig.triggerRearm.minMs.toNat) :
    (∀ (inputs : List Device.Input) (now : Nat) (queue queue' : RecordQueue),
      let d := (d₀.run inputs).step (.tick now queue)
      d.emits (.tick now queue') = [] ∧ d.tick now queue' = (d, queue')) ∧
    ∀ {σ₁ σ₂ : Type} [Link σ₁] [Link σ₂] (link₁ : σ₁) (link₂ : σ₂) (config : Config)
      (s₁ : Session (Recorded σ₁)) (s₂ : Session (Recorded σ₂)),
      create (Recorded.ofLink link₁) config deviceConfig entropy = .ok s₁ →
      create (Recorded.ofLink link₂) config deviceConfig entropy = .ok s₂ →
      ∀ times₁ times₂, withoutIdle (s₁.visits times₁) = withoutIdle (s₂.visits times₂) →
        let d₁ := (s₁.pollAll times₁).device
        let d₂ := (s₂.pollAll times₂).device
        s₁.emittedOver times₁ = s₂.emittedOver times₂ ∧
        { d₁ with stats := {} } = { d₂ with stats := {} } ∧
        (d₁.stats.framesDropped = 0 → d₂.stats.framesDropped = 0 →
          s₁.queuedOver times₁ = s₂.queuedOver times₂) := by
  obtain ⟨hvalid, hconfig, -⟩ := Device.powerOn_ok hpower
  have hchecked := Device.Config.checked_of_validate hvalid
  constructor
  · intro inputs now queue queue' d
    have hrun : (d₀.run inputs).config = deviceConfig := (Device.run_config ..).trans hconfig
    have hidle : d.due now = ([], d) := by
      change ((d₀.run inputs).tick now queue).1.due now = ([], ((d₀.run inputs).tick now queue).1)
      simp only [Device.tick, Device.sendAll_eq, Device.due_tally,
        Device.due_due (hrun.symm ▸ hchecked) (hrun.symm ▸ hrearm)]
    exact ⟨by rw [Device.emits, hidle]; rfl,
      Device.tick_tick (hrun.symm ▸ hchecked) (hrun.symm ▸ hrearm) now queue queue'⟩
  · intro σ₁ σ₂ _ _ link₁ link₂ config s₁ s₂ hcreate₁ hcreate₂ times₁ times₂ hvisits d₁ d₂
    have haccounts₁ := accounts_create hcreate₁
    have haccounts₂ := accounts_create hcreate₂
    obtain ⟨hemitted₁, counts₁, hdevice₁⟩ := emittedOver_eq haccounts₁ times₁
    obtain ⟨hemitted₂, counts₂, hdevice₂⟩ := emittedOver_eq haccounts₂ times₂
    obtain ⟨device, -, hdevice, hs₁⟩ := create_ok hcreate₁
    obtain ⟨device', -, hdevice', hs₂⟩ := create_ok hcreate₂
    obtain rfl := Except.ok.inj (hpower.symm.trans hdevice)
    obtain rfl := Except.ok.inj (hpower.symm.trans hdevice')
    have hsame : s₁.device.attend s₁.rx (s₁.visits times₁) =
        s₂.device.attend s₂.rx (s₂.visits times₂) := by
      have hstart : s₁.device = d₀ ∧ s₂.device = d₀ ∧ s₁.rx = s₂.rx := by
        rw [hs₁, hs₂]
        exact ⟨rfl, rfl, rfl⟩
      have hcourse := Device.attend_withoutIdle (hconfig.symm ▸ hchecked) (hconfig.symm ▸ hrearm)
      rw [hstart.1, hstart.2.1, hstart.2.2, ← hcourse _ (s₁.visits times₁), hvisits, hcourse]
    rw [hsame] at hemitted₁ hdevice₁
    have hemitted := hemitted₁.trans hemitted₂.symm
    refine ⟨hemitted, ?_, fun hkept₁ hkept₂ => ?_⟩
    · rw [show d₁ = _ from hdevice₁, show d₂ = _ from hdevice₂]
      rfl
    · rw [(queuedOver_of_kept haccounts₁ hkept₁).1, (queuedOver_of_kept haccounts₂ hkept₂).1,
        hemitted]

-- A burst that rearms in the least time, and polls that come twice or more in a millisecond.
theorem emittedOver_of_idle_polls_burst :
    let deviceConfig : Device.Config :=
      { dataIntervalMs := 3, triggerDelay := ⟨0, 1⟩, triggerRearm := ⟨1, 2⟩, burstPacketsMin := 1,
        burstPacketsMax := 1, samplesPerPacket := 1, signal := { noise := 0 } }
    let entropy := Random.Stream.ofSeed 7
    let queue := RecordQueue.ofCapacity 64
    let requests : List Frame := [⟨Command.setModeTrigger, 1, []⟩, ⟨Command.startStream, 2, []⟩]
    let host : Loopback := { Loopback.ofCapacity 64 with inbound := requests.flatMap Frame.wire }
    let config : Config := { rxCapacity := 64, txCapacity := 8195, maxFrameSize := 32 }
    ∃ d₀ s₀, Device.powerOn deviceConfig entropy = .ok d₀ ∧
      create (Recorded.ofLink host) config deviceConfig entropy = .ok s₀ ∧
      (let d := d₀.run [.request .setModeTrigger 2, .request .startStream 3]
       (d.emits (.tick 5 queue)).map (·.2.command) =
          [Command.eventTriggered, Command.dataPacket] ∧
        (d.step (.tick 5 queue)).emits (.tick 5 queue) = []) ∧
      (s₀.emittedOver [5, 8, 9]).map (fun sent => (sent.1, sent.2.command)) =
        [(5, Command.ack), (5, Command.ack), (5, Command.eventTriggered), (5, Command.dataPacket),
          (8, Command.bufferTransferComplete), (9, Command.eventTriggered),
          (9, Command.dataPacket)] ∧
      s₀.emittedOver [5, 5, 8, 9, 9, 9] = s₀.emittedOver [5, 8, 9] := by
  intro deviceConfig entropy queue requests host config
  have hpower : Device.powerOn deviceConfig entropy = .ok _ := rfl
  have hcreate : create (Recorded.ofLink host) config deviceConfig entropy = .ok _ := rfl
  obtain ⟨hdevice, hsession⟩ := emittedOver_of_idle_polls hpower (by decide)
  refine ⟨_, _, hpower, hcreate, ⟨by decide +kernel, (hdevice _ 5 queue queue).1⟩,
    by decide +kernel, ?_⟩
  exact (hsession _ _ config _ _ hcreate hcreate [5, 5, 8, 9, 9, 9] [5, 8, 9]
    (by decide +kernel)).1

end Session

end Acquisition
