import Mathlib
import Acquisition.Proofs.Device.Bursts

/-!
# The pace of data packets

Continuous mode and bursts share one timer, which only a start of the stream resets. From one start
to the next, data packets keep an interval from each other, in whichever mode they are sent. In
continuous mode one is sent on each tick that is not too early, so ticks at every millisecond give
one packet for each interval (`packets_paced`).
-/

namespace Acquisition.Device

/-- Whether a request to start the stream is carried out on an input. -/
def Input.startsStream (input : Input) : Bool :=
  input.request?.any fun served => served.1 = .startStream

def IsData (sent : Nat × Frame) : Prop := sent.2.command = Command.dataPacket

instance : DecidablePred IsData := fun sent =>
  inferInstanceAs (Decidable (sent.2.command = Command.dataPacket))

/-- The data packets that are sent on an input, with the time of each. -/
def packets (d : Device) (input : Input) : List (Nat × Frame) := (d.emits input).filter (IsData ·)

def packetsOver (d : Device) : List Input → List (Nat × Frame)
  | [] => []
  | input :: rest => d.packets input ++ (d.step input).packetsOver rest

/-- The data packets of a run that were sent since the stream was last started. -/
def packetsSinceStart (d : Device) (inputs : List Input) : List (Nat × Frame) :=
  (d.run (inputs.rdropWhile (!·.startsStream))).packetsOver (inputs.rtakeWhile (!·.startsStream))

variable {d d' : Device} {now : Nat} {f : Frame} {frames : List Frame} {input : Input}

theorem packetsOver_append (d : Device) (first second : List Input) :
    d.packetsOver (first ++ second) = d.packetsOver first ++ (d.run first).packetsOver second := by
  induction first generalizing d with
  | nil => rfl
  | cons input rest ih =>
    rw [List.cons_append, packetsOver, packetsOver, ih, List.append_assoc]
    rfl

theorem packetsOver_concat (d : Device) (inputs : List Input) (input : Input) :
    d.packetsOver (inputs ++ [input]) = d.packetsOver inputs ++ (d.run inputs).packets input := by
  rw [packetsOver_append, packetsOver, packetsOver, List.append_nil]

theorem emissions_append (d : Device) (first second : List Input) :
    d.emissions (first ++ second) = d.emissions first ++ (d.run first).emissions second := by
  induction first generalizing d with
  | nil => rfl
  | cons input rest ih =>
    rw [List.cons_append, emissions, emissions, ih, List.append_assoc]
    rfl

/-! ## The timer -/

theorem Config.Checked.interval_pos {c : Config} (h : c.Checked) : 0 < c.dataIntervalMs.toNat :=
  Nat.pos_of_ne_zero fun hzero => h.interval (UInt64.toNat_inj.mp hzero)

theorem dataDue_iff (hchecked : d.config.Checked) (now : Nat) :
    d.dataDue now = true ↔
      ∀ last ∈ d.state.lastDataMs, last + d.config.dataIntervalMs.toNat ≤ now := by
  have hpos := hchecked.interval_pos
  rw [dataDue]
  cases d.state.lastDataMs with
  | none => simp
  | some last =>
    rw [decide_eq_true_iff]
    simp only [Option.mem_some_iff, forall_eq']
    omega

/-- Either no packet is sent and the timer is left alone, or one that was due is sent and sets
it. -/
def Beats (d : Device) (now : Nat) (sent : List (Nat × Frame)) (next : Option Nat) : Prop :=
  (sent = [] ∧ next = d.state.lastDataMs) ∨
    ∃ f, sent = [(now, f)] ∧ d.dataDue now = true ∧ next = some now

theorem Moves.beats (h : Moves now d frames d') (hchecked : d.config.Checked) :
    Beats d now ((frames.map (now, ·)).filter (IsData ·)) d'.state.lastDataMs := by
  induction h with
  | nil => exact .inl ⟨rfl, rfl⟩
  | @cons d d₁ d₂ f frames hmove _ ih =>
    have hconfig := hmove.keeps.1
    have hrest := ih (hconfig ▸ hchecked)
    have hother (hf : ¬ IsData (now, f)) (hlast : d₁.state.lastDataMs = d.state.lastDataMs) :
        Beats d now (((now, f) :: frames.map (now, ·)).filter (IsData ·)) d₂.state.lastDataMs := by
      have hdue : d₁.dataDue now = d.dataDue now := by rw [dataDue, dataDue, hlast, hconfig]
      rw [List.filter_cons_of_neg (by simpa using hf)]
      rwa [Beats, hlast, hdue] at hrest
    -- After a packet no other one is due at that time.
    have hpacket (hf : IsData (now, f)) (hdue : d.dataDue now = true)
        (hlast : d₁.state.lastDataMs = some now) :
        Beats d now (((now, f) :: frames.map (now, ·)).filter (IsData ·)) d₂.state.lastDataMs := by
      rcases hrest with ⟨hnone, hsame⟩ | ⟨g, -, hagain, -⟩
      · refine .inr ⟨f, ?_, hdue, hsame.trans hlast⟩
        rw [List.filter_cons_of_pos (by simpa using hf), hnone]
      · have hearly := (dataDue_iff (hconfig ▸ hchecked) now).mp hagain now hlast
        have hpos := (hconfig ▸ hchecked : d₁.config.Checked).interval_pos
        omega
    cases hmove with
    | fire => exact hother (by decide : Command.eventTriggered ≠ Command.dataPacket) rfl
    | packet stamp _ _ _ _ hdue => exact hpacket rfl hdue rfl
    | complete => exact hother (by decide : Command.bufferTransferComplete ≠ Command.dataPacket) rfl
    | sample _ _ hdue => exact hpacket rfl hdue rfl

theorem handleRequest_lastData (d : Device) (request : Request) (now : Nat) :
    (d.handleRequest request now).2.state.lastDataMs =
      if request = .startStream then none else d.state.lastDataMs := by
  cases request with
  | requestBufferedData =>
    simp only [handleRequest]
    split <;> rfl
  | _ => rfl

-- Data packets are among what is sent without being asked.
theorem packets_eq (d : Device) (input : Input) :
    d.packets input =
      match input with
      | .tick now _ => ((d.due now).1.map (now, ·)).filter (IsData ·)
      | _ => [] := by
  have hunprompted : d.packets input = ((d.emits input).filter
      fun sent => Command.isUnsolicited sent.2.command).filter (IsData ·) := by
    rw [packets, List.filter_filter]
    refine List.filter_congr fun sent _ => ?_
    by_cases hdata : IsData sent
    · have hcommand : sent.2.command = Command.dataPacket := hdata
      simp [hdata, hcommand, Command.isUnsolicited]
    · simp [hdata]
  rw [hunprompted, unprompted_emits]
  cases input <;> rfl

theorem step_of_start (hstart : input.startsStream = true) (d : Device) :
    d.packets input = [] ∧
      (d.step input).state = { d.state with stream := .running, lastDataMs := none } := by
  rw [packets_eq, step_state]
  obtain ⟨⟨request, now⟩, hrequest, hserved⟩ := (Option.any_eq_true _ _).mp hstart
  obtain rfl : request = .startStream := by simpa using hserved
  rw [turn_of_request hrequest]
  cases input with
  | tick => cases hrequest
  | _ => exact ⟨rfl, rfl⟩

theorem step_beats (hchecked : d.config.Checked) (hstart : input.startsStream = false) :
    ∃ now, Beats d now (d.packets input) (d.step input).state.lastDataMs := by
  rw [packets_eq, step_state]
  have hserved {request : Request} {now : Nat} (h : input.request? = some (request, now)) :
      (d.handleRequest request now).2.state.lastDataMs = d.state.lastDataMs := by
    have hother : request ≠ .startStream := by simpa [Input.startsStream, h] using hstart
    rw [handleRequest_lastData, if_neg hother]
  cases input with
  | frame wire now queue =>
    refine ⟨now, .inl ⟨rfl, ?_⟩⟩
    rw [turn]
    cases hrequested : requested? wire with
    | some request => exact hserved (by rw [Input.request?, hrequested]; rfl)
    | none => rfl
  | request request now => exact ⟨now, .inl ⟨rfl, hserved rfl⟩⟩
  | tick now queue => exact ⟨now, (due_moves hchecked now).beats hchecked⟩
  | stop => exact ⟨0, .inl ⟨rfl, rfl⟩⟩

/-! ## Distances -/

theorem length_packets_le (hchecked : d.config.Checked) (input : Input) :
    (d.packets input).length ≤ 1 := by
  cases hstart : input.startsStream with
  | true => simp [step_of_start hstart d]
  | false =>
    obtain ⟨now, ⟨hnone, -⟩ | ⟨f, hsent, -, -⟩⟩ := step_beats hchecked hstart
    · simp [hnone]
    · simp [hsent]

-- Without a start of the stream the timer runs on from one packet to the next.
theorem packets_apart (hchecked : d.config.Checked) {inputs : List Input}
    (hinputs : ∀ input ∈ inputs, input.startsStream = false) :
    let interval := d.config.dataIntervalMs.toNat
    (∀ last ∈ d.state.lastDataMs, ∀ sent ∈ d.packetsOver inputs, last + interval ≤ sent.1) ∧
      (d.packetsOver inputs).Pairwise fun first later => first.1 + interval ≤ later.1 := by
  intro interval
  induction inputs generalizing d with
  | nil => exact ⟨fun _ _ => nofun, .nil⟩
  | cons input rest ih =>
    obtain ⟨hinput, hrest⟩ := List.forall_mem_cons.mp hinputs
    have hconfig := d.step_config input
    obtain ⟨hlater, hpairs⟩ := ih (hconfig ▸ hchecked) hrest
    rw [hconfig] at hlater hpairs
    rw [packetsOver]
    obtain ⟨now, ⟨hnone, hsame⟩ | ⟨f, hsent, hdue, hlast⟩⟩ := step_beats hchecked hinput
    · rw [hnone]
      exact ⟨hsame ▸ hlater, hpairs⟩
    · rw [hsent, List.singleton_append]
      have hafter := hlater now hlast
      constructor
      · intro last hlast
        have hnow := (dataDue_iff hchecked now).mp hdue last hlast
        rw [List.forall_mem_cons]
        exact ⟨hnow, fun later hmem => (Nat.le_add_right_of_le hnow).trans (hafter later hmem)⟩
      · exact List.pairwise_cons.mpr ⟨hafter, hpairs⟩

/-! ## The last packet -/

-- The timer shows the last packet since the stream was started.
theorem lastData_run {d₀ : Device} (hchecked : d₀.config.Checked)
    (hfirst : d₀.state.lastDataMs = none) (inputs : List Input) :
    (d₀.run inputs).state.lastDataMs = (d₀.packetsSinceStart inputs).getLast?.map (·.1) := by
  induction inputs using List.reverseRecOn with
  | nil => exact hfirst
  | append_singleton inputs input ih =>
    rw [run_concat, packetsSinceStart]
    cases hstart : input.startsStream with
    | true =>
      rw [List.rtakeWhile_concat_neg _ _ _ (by simp [hstart]), (step_of_start hstart _).2]
      rfl
    | false =>
      rw [List.rtakeWhile_concat_pos _ _ _ (by simp [hstart]),
        List.rdropWhile_concat_pos _ _ _ (by simp [hstart]), packetsOver_concat, ← run_append,
        List.rdropWhile_append_rtakeWhile]
      have hconfig := d₀.run_config inputs
      obtain ⟨now, ⟨hnone, hsame⟩ | ⟨f, hsent, -, hlast⟩⟩ :=
        step_beats (hconfig ▸ hchecked : (d₀.run inputs).config.Checked) hstart
      · rw [hnone, hsame, ih, List.append_nil, packetsSinceStart]
      · rw [hsent, hlast, List.getLast?_concat, Option.map_some]

/-! ## Continuous mode -/

theorem emits_of_continuous (hrunning : d.state.isRunning = true)
    (hmode : d.state.mode = .continuous) (now : Nat) (queue : RecordQueue) :
    d.emits (.tick now queue) = if d.dataDue now then [(now, (d.dataPacket now).1)] else [] := by
  rw [emits, due_of_continuous hrunning hmode]
  split <;> rfl

theorem step_state_of_continuous (hrunning : d.state.isRunning = true)
    (hmode : d.state.mode = .continuous) (now : Nat) (queue : RecordQueue) :
    (d.step (.tick now queue)).state =
      if d.dataDue now then { d.state with lastDataMs := some now } else d.state := by
  rw [step_state, turn, due_of_continuous hrunning hmode]
  split <;> rfl

/-- A tick at every millisecond, `count` of them from `start` on. -/
def ticks (queue : Nat → RecordQueue) (start count : Nat) : List Input :=
  (List.range' start count).map fun now => .tick now (queue now)

/-- How a stream that has just been started stands after `count + 1` ticks: it has sent a packet for
each whole interval, and one at the beginning. -/
structure Steady (interval start count : Nat) (sent : List (Nat × Frame)) (s : State) : Prop where
  running : s.isRunning = true
  mode : s.mode = .continuous
  last : s.lastDataMs = some (start + count / interval * interval)
  times : sent.map (·.1) = (List.range (count / interval + 1)).map (start + · * interval)
  packets : ∀ p ∈ sent, Burst.IsPacket p.1 p.2

theorem steady_first (hrunning : d.state.isRunning = true) (hmode : d.state.mode = .continuous)
    (hlast : d.state.lastDataMs = none) (interval start : Nat) (queue : RecordQueue) :
    Steady interval start 0 (d.emits (.tick start queue)) (d.step (.tick start queue)).state := by
  have hdue : d.dataDue start = true := by rw [dataDue, hlast]
  rw [emits_of_continuous hrunning hmode, step_state_of_continuous hrunning hmode, if_pos hdue,
    if_pos hdue]
  exact {
    running := hrunning
    mode := hmode
    last := by rw [Nat.zero_div, Nat.zero_mul, Nat.add_zero]
    times := by simp
    packets := List.forall_mem_singleton.mpr (isPacket_dataPacket d start) }

-- The next packet is due when the number of whole intervals grows.
theorem Steady.tick {start count : Nat} {sent : List (Nat × Frame)}
    (h : Steady d.config.dataIntervalMs.toNat start count sent d.state)
    (hchecked : d.config.Checked) (hnow : now = start + (count + 1)) (queue : RecordQueue) :
    Steady d.config.dataIntervalMs.toNat start (count + 1) (sent ++ d.emits (.tick now queue))
      (d.step (.tick now queue)).state := by
  have hpos := hchecked.interval_pos
  have hdue := dataDue_iff hchecked now
  simp only [h.last, Option.mem_some_iff, forall_eq'] at hdue
  rw [emits_of_continuous h.running h.mode, step_state_of_continuous h.running h.mode]
  generalize d.config.dataIntervalMs.toNat = interval at h hpos hdue ⊢
  have hcount := Nat.div_add_mod' count interval
  have hrest := Nat.mod_lt count hpos
  by_cases hsent : d.dataDue now = true
  · have htime := hdue.mp hsent
    have hnext : (count + 1) / interval = count / interval + 1 := by
      rw [Nat.div_eq_iff hpos, Nat.add_mul]
      omega
    have hstamp : now = start + (count / interval + 1) * interval := by
      rw [Nat.add_mul]
      omega
    rw [if_pos hsent, if_pos hsent]
    refine ⟨h.running, h.mode, ?_, ?_, List.forall_mem_append.mpr ⟨h.packets, ?_⟩⟩
    · rw [hnext, ← hstamp]
    · rw [hnext, List.range_succ, List.map_append, List.map_append, ← h.times, hstamp]
      rfl
    · exact List.forall_mem_singleton.mpr (isPacket_dataPacket d now)
  · have htime := mt hdue.mpr hsent
    have hnext : (count + 1) / interval = count / interval := by
      rw [Nat.div_eq_iff hpos]
      omega
    rw [if_neg hsent, if_neg hsent, List.append_nil]
    exact ⟨h.running, h.mode, hnext ▸ h.last, hnext ▸ h.times, h.packets⟩

theorem steady_ticks (hchecked : d.config.Checked) (hrunning : d.state.isRunning = true)
    (hmode : d.state.mode = .continuous) (hlast : d.state.lastDataMs = none)
    (queue : Nat → RecordQueue) (start count : Nat) :
    Steady d.config.dataIntervalMs.toNat start count (d.emissions (ticks queue start (count + 1)))
      (d.run (ticks queue start (count + 1))).state := by
  induction count with
  | zero =>
    have hticks : ticks queue start (0 + 1) = [.tick start (queue start)] := rfl
    rw [hticks, emissions, emissions, List.append_nil]
    exact steady_first hrunning hmode hlast _ start (queue start)
  | succ count ih =>
    have hticks : ticks queue start (count + 1 + 1) = ticks queue start (count + 1) ++
        [.tick (start + (count + 1)) (queue (start + (count + 1)))] := by
      rw [ticks, List.range'_1_concat, List.map_append]
      rfl
    have hconfig := d.run_config (ticks queue start (count + 1))
    rw [hticks, emissions_append, run_append, emissions, emissions, List.append_nil]
    rw [← hconfig] at ih hchecked ⊢
    exact ih.tick hchecked rfl _

/-- Data packets keep their pace whatever a device is given. No tick sends two of them, and until
the stream is started again, each keeps the interval from those before it. In continuous mode a tick
sends a packet, stamped with its time, if none was sent since the stream was started or the interval
has passed since the last one, and nothing otherwise. So ticks at every millisecond after a start of
the stream send one at the first of them and one for each interval that has passed. -/
theorem packets_paced {config : Config} {entropy : Random.Stream} {d₀ : Device}
    (hpower : powerOn config entropy = .ok d₀) :
    let interval := config.dataIntervalMs.toNat
    (∀ inputs now queue, ((d₀.run inputs).packets (.tick now queue)).length ≤ 1) ∧
    (∀ before during, (∀ input ∈ during, input.startsStream = false) →
      ((d₀.run before).packetsOver during).Pairwise
        fun first later => first.1 + interval ≤ later.1) ∧
    (∀ inputs now queue,
      let d := d₀.run inputs
      let due := ∀ last ∈ (d₀.packetsSinceStart inputs).getLast?, last.1 + interval ≤ now
      d.state.isRunning = true → d.state.mode = .continuous →
        (due → ∃ f, Burst.IsPacket now f ∧ d.emits (.tick now queue) = [(now, f)]) ∧
        (¬ due → d.emits (.tick now queue) = [])) ∧
    (∀ before (start : Input) (first last : Nat) (queue : Nat → RecordQueue),
      (d₀.run before).state.mode = .continuous → start.startsStream = true → first ≤ last →
        let sent := (d₀.run (before ++ [start])).emissions (ticks queue first (last + 1 - first))
        sent.length = (last - first) / interval + 1 ∧
        sent.map (·.1) =
          (List.range ((last - first) / interval + 1)).map (first + · * interval) ∧
        ∀ p ∈ sent, Burst.IsPacket p.1 p.2) := by
  intro interval
  obtain ⟨hvalid, hconfig, -⟩ := powerOn_ok hpower
  have hrun (inputs : List Input) : (d₀.run inputs).config = config :=
    (d₀.run_config inputs).trans hconfig
  have hchecked := Config.checked_of_validate hvalid
  have hchecked' (inputs : List Input) : (d₀.run inputs).config.Checked := hrun inputs ▸ hchecked
  refine ⟨fun inputs now queue => length_packets_le (hchecked' inputs) _, fun before during h => ?_,
    fun inputs now queue => ?_, fun before start first last queue hmode hstart hle => ?_⟩
  · have hapart := (packets_apart (hchecked' before) h).2
    rwa [hrun] at hapart
  · intro d due hrunning hmode
    have hdue : d.dataDue now = true ↔ due := by
      rw [dataDue_iff (hchecked' inputs), hrun, lastData_run (hconfig ▸ hchecked)
        (by rw [powerOn_state hpower]; rfl) inputs, Option.forall_mem_map]
    rw [emits_of_continuous hrunning hmode]
    exact ⟨fun h => ⟨_, isPacket_dataPacket d now, if_pos (hdue.mpr h)⟩,
      fun h => if_neg (mt hdue.mp h)⟩
  · have hstate := (step_of_start hstart (d₀.run before)).2
    rw [← run_concat] at hstate
    have hsteady := steady_ticks (hchecked' (before ++ [start])) (by rw [hstate]; rfl)
      (by rw [hstate]; exact hmode) (by rw [hstate]) queue first (last - first)
    rw [hrun, ← Nat.sub_add_comm hle] at hsteady
    refine ⟨?_, hsteady.times, hsteady.packets⟩
    simpa using congrArg List.length hsteady.times

-- The clock steps back before the second packet, and the third is in the middle of an interval.
theorem packets_paced_steps_back :
    let config : Config :=
      { dataIntervalMs := 3, samplesPerPacket := 1, signal := { noise := 0 } }
    let queue := RecordQueue.ofCapacity 64
    let start := Input.request .startStream 5
    let during := [.tick 10 queue, .tick 4 queue, .request .ping 4, .tick 12 queue, .tick 13 queue]
    ∃ d₀, powerOn config (Random.Stream.ofSeed 7) = .ok d₀ ∧
      let d := d₀.run ([] ++ [start])
      ((d.packetsOver during).map (·.1) = [10, 13] ∧
        (d.packetsOver during).Pairwise fun first later => first.1 + 3 ≤ later.1) ∧
      ((d₀.run (start :: during)).emits (.tick 15 queue) = [] ∧
        ∃ f, Burst.IsPacket 17 f ∧ (d₀.run (start :: during)).emits (.tick 17 queue) = [(17, f)]) ∧
      (d.emissions (ticks (fun _ => queue) 20 8)).map (·.1) = [20, 23, 26] := by
  intro config queue start during
  let d₀ : Device := ⟨config, State.powerOn config, Random.Stream.ofSeed 7, 0, {}⟩
  have hpower : powerOn config (Random.Stream.ofSeed 7) = .ok d₀ := rfl
  obtain ⟨-, hapart, hdue, hticks⟩ := packets_paced hpower
  have hsent (now : Nat) := hdue (start :: during) now queue (by decide +kernel) (by decide +kernel)
  refine ⟨d₀, hpower, ⟨by decide +kernel, hapart ([] ++ [start]) during (by decide +kernel)⟩,
    ⟨(hsent 15).2 (by decide +kernel), (hsent 17).1 (by decide +kernel)⟩, ?_⟩
  rw [(hticks [] start 20 27 (fun _ => queue) (by decide +kernel) (by decide +kernel)
    (by decide)).2.1]
  decide

end Acquisition.Device
