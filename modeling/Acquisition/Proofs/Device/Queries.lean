import Mathlib
import Acquisition.Proofs.Device.Backpressure
import Acquisition.Proofs.Device.RequestFormat

/-!
# Queries leave no trace

A device that tells something, or that refuses what it is asked for, goes on as if it had not been
asked: only its counters show it. So such frames can be taken out of a run, and neither what the
device sends of its own accord nor its replies to the other frames are different (`run_of_kept`).
-/

namespace Acquisition.Device

/-! ## Frames that are passed over -/

/-- The commands of replies with which nothing is done. -/
def informing : List UInt8 :=
  [Command.pong, Command.statusResponse, Command.deviceInfoResponse, Command.nack]

/-- Received bytes that are malformed, ask for buffered data, or have an informing reply. -/
def PassesOver (d : Device) : Input → Prop
  | .frame wire now _ => ∀ f ∈ received? wire,
    f.command = Command.requestBufferedData ∨ (d.reply f now).1.command ∈ informing
  | .request .. | .tick .. | .stop => False

instance (d : Device) (input : Input) : Decidable (d.PassesOver input) :=
  match input with
  | .frame .. => inferInstanceAs (Decidable (∀ f ∈ received? _, _))
  | .request .. | .tick .. | .stop => inferInstanceAs (Decidable False)

variable {d d' : Device} {input input' : Input} {inputs shorter : List Input} {keep : Nat → Bool}

theorem handleRequest_of_informing {request : Request} {now : Nat}
    (h : request = .requestBufferedData ∨ (d.handleRequest request now).1.command ∈ informing) :
    (d.handleRequest request now).2 = d := by
  have hack : Command.ack ∉ informing := by decide
  cases request with
  | ping | getStatus | getDeviceInfo => rfl
  | requestBufferedData =>
    rw [handleRequest]
    split <;> rfl
  | setModeContinuous | setModeTrigger | startStream | stopStream | configureStream =>
    rcases h with hrequest | hinforming
    · cases hrequest
    · exact absurd hinforming hack

theorem reply_of_informing {f : Frame} {now : Nat}
    (h : f.command = Command.requestBufferedData ∨ (d.reply f now).1.command ∈ informing) :
    (d.reply f now).2 = d := by
  rw [reply] at h ⊢
  cases hparse : Request.parse f.command f.payload with
  | error refusal => rfl
  | ok request =>
    rw [hparse] at h
    apply handleRequest_of_informing
    rcases h with hcommand | hinforming
    · left
      have hrequest := (Request.eq_of_parse hparse).2.1
      rw [hcommand] at hrequest
      cases request <;> first | rfl | cases hrequest
    · exact .inr hinforming

/-! ## Devices without their counters -/

def uncounted (d : Device) : Device := { d with stats := {} }

theorem uncounted_tally (d : Device) (counts : Stats) :
    (d.tally counts).uncounted = d.uncounted := rfl

theorem tally_uncounted (d : Device) : d.uncounted.tally d.stats = d := by
  simp only [uncounted, tally, Stats.add_def, Nat.zero_add]

theorem keeps_of_uncounted (h : d.uncounted = d'.uncounted) :
    d.state = d'.state ∧ d.nextSeq = d'.nextSeq ∧ d.random = d'.random := by
  have hfields := Device.mk.inj h
  exact ⟨hfields.2.1, hfields.2.2.2.1, hfields.2.2.1⟩

theorem step_of_passesOver (h : d.PassesOver input) : (d.step input).uncounted = d.uncounted := by
  obtain ⟨counts, hstep⟩ := d.step_eq input
  rw [hstep, uncounted_tally]
  cases input with
  | frame wire now queue =>
    rw [turn, requested?]
    cases hreceived : received? wire with
    | none => rfl
    | some f =>
      have hkept := reply_of_informing (h f hreceived)
      rw [reply_turn] at hkept
      exact congrArg uncounted hkept
  | request | tick | stop => exact h.elim

/-- An input without the queue that comes with it. -/
def Input.call : Input → Call
  | .frame wire now _ => .frame wire now
  | .request r now => .request r now
  | .tick now _ => .tick now
  | .stop => .stop

theorem step_uncounted (d : Device) (input : Input) :
    (d.step input).uncounted = (d.uncounted.advance input.call).uncounted := by
  have hadvance :
      (d.uncounted.advance input.call).uncounted = (d.advance input.call).uncounted := by
    rw [← uncounted_tally _ d.stats, ← advance_tally, tally_uncounted]
  rw [hadvance]
  cases input with
  | frame wire now queue =>
    simp only [step, handleFrame, sendAll_eq]
    rfl
  | tick now queue =>
    simp only [step, tick, sendAll_eq]
    rfl
  | request | stop => rfl

theorem emits_uncounted (d : Device) (input : Input) : d.uncounted.emits input = d.emits input := by
  conv_rhs => rw [← d.tally_uncounted]
  cases input with
  | frame => rw [emits, emits, respond_tally]
  | tick => rw [emits, emits, due_tally]
  | request | stop => rfl

theorem emits_call (d : Device) (input : Input) (queue : RecordQueue) :
    d.emits (input.call.input queue) = d.emits input := by
  cases input <;> rfl

-- Neither its counters nor the queue decide what a device does.
theorem step_congr (h : d.uncounted = d'.uncounted) (hcall : input.call = input'.call) :
    (d.step input).uncounted = (d'.step input').uncounted := by
  rw [step_uncounted, step_uncounted, h, hcall]

theorem emits_congr (h : d.uncounted = d'.uncounted) (hcall : input.call = input'.call) :
    d.emits input = d'.emits input' := by
  rw [← d.emits_uncounted, ← d'.emits_uncounted, h, ← emits_call _ input (.ofCapacity 0), hcall,
    emits_call]

/-! ## Runs with and without them -/

/-- What the device tries to send on each of the inputs, with the time. -/
def emitsEach (d : Device) : List Input → List (List (Nat × Frame))
  | [] => []
  | input :: rest => d.emits input :: (d.step input).emitsEach rest

/-- The items at places that are to be kept. -/
def kept {α : Type} (keep : Nat → Bool) : List α → List α
  | [] => []
  | a :: rest =>
    let more := kept (fun i => keep (i + 1)) rest
    if keep 0 then a :: more else more

theorem unpromptedOver_cons (d : Device) (input : Input) (rest : List Input) :
    d.unpromptedOver (input :: rest) =
      ((d.emits input).filter fun sent => Command.isUnsolicited sent.2.command) ++
        (d.step input).unpromptedOver rest := by
  rw [unpromptedOver, emissions, List.filter_append]
  rfl

-- Two devices that do the same are given the same inputs, but the first one also gets some that it
-- passes over.
theorem run_of_kept_of_uncounted (h : d.uncounted = d'.uncounted)
    (hpassed : ∀ i (hi : i < inputs.length), keep i = false →
      (d.run (inputs.take i)).PassesOver inputs[i])
    (hshorter : shorter.map Input.call = kept keep (inputs.map Input.call)) :
    d'.emitsEach shorter = kept keep (d.emitsEach inputs) ∧
      d'.unpromptedOver shorter = d.unpromptedOver inputs ∧
      (d'.run shorter).uncounted = (d.run inputs).uncounted := by
  induction inputs generalizing d d' shorter keep with
  | nil =>
    obtain rfl : shorter = [] := List.map_eq_nil_iff.mp hshorter
    exact ⟨rfl, rfl, h.symm⟩
  | cons input rest ih =>
    have hrest : ∀ i (hi : i < rest.length), keep (i + 1) = false →
        ((d.step input).run (rest.take i)).PassesOver rest[i] :=
      fun i hi hkeep => hpassed (i + 1) (Nat.succ_lt_succ hi) hkeep
    rw [List.map_cons, kept] at hshorter
    rw [emitsEach, kept]
    cases hkeep : keep 0 with
    | true =>
      rw [hkeep, if_pos rfl] at hshorter
      obtain ⟨input', shorter', rfl, hcall, hshorter'⟩ := List.map_eq_cons_iff.mp hshorter
      obtain ⟨hemits, hunprompted, hrun⟩ := ih (step_congr h hcall.symm) hrest hshorter'
      rw [if_pos rfl, emitsEach, hemits, unpromptedOver_cons, unpromptedOver_cons, hunprompted,
        emits_congr h hcall.symm]
      exact ⟨rfl, rfl, hrun⟩
    | false =>
      have hpass : d.PassesOver input := hpassed 0 (Nat.succ_pos _) hkeep
      have hsilent : (d.emits input).filter (fun sent => Command.isUnsolicited sent.2.command) =
          [] := by
        rw [unprompted_emits]
        cases input with
        | frame => rfl
        | request | tick | stop => exact hpass.elim
      rw [hkeep, if_neg Bool.false_ne_true] at hshorter
      rw [if_neg Bool.false_ne_true, unpromptedOver_cons, hsilent, List.nil_append]
      exact ih ((step_of_passesOver hpass).trans h) hrest hshorter

/-- Received bytes that are malformed, ask for buffered data, or are answered with a pong, a status,
device info or a Nack leave state, sequence number and random numbers of any device as they are. So
any of them can be taken out of any run, whatever becomes of the queue: on each of the other inputs
the device sends the same, it sends the same of its own accord, and it ends in the same state. -/
theorem run_of_kept (d : Device) :
    (∀ (wire : Bytes) (now : Nat) (queue : RecordQueue), d.PassesOver (.frame wire now queue) →
      let d' := (d.handleFrame wire now queue).1
      d'.state = d.state ∧ d'.nextSeq = d.nextSeq ∧ d'.random = d.random) ∧
    ∀ (inputs shorter : List Input) (keep : Nat → Bool),
      (∀ i (hi : i < inputs.length), keep i = false →
        (d.run (inputs.take i)).PassesOver inputs[i]) →
      shorter.map Input.call = kept keep (inputs.map Input.call) →
      d.emitsEach shorter = kept keep (d.emitsEach inputs) ∧
      d.unpromptedOver shorter = d.unpromptedOver inputs ∧
      (d.run shorter).state = (d.run inputs).state ∧
      (d.run shorter).nextSeq = (d.run inputs).nextSeq ∧
      (d.run shorter).random = (d.run inputs).random := by
  refine ⟨fun wire now queue hpass => ?_, fun inputs shorter keep hpassed hshorter => ?_⟩
  · exact keeps_of_uncounted (step_of_passesOver hpass)
  · obtain ⟨hemits, hunprompted, hrun⟩ := run_of_kept_of_uncounted rfl hpassed hshorter
    exact ⟨hemits, hunprompted, keeps_of_uncounted hrun⟩

-- A status, bytes that are cut off, a configuration without its entry and a request for buffered
-- data in between two packets. The queue that takes the frames without them is another one.
theorem run_of_kept_polled :
    let config : Config := { samplesPerPacket := 1 }
    let queue := RecordQueue.ofCapacity 64
    let start : Frame := ⟨Command.startStream, 1, []⟩
    let status : Frame := ⟨Command.getStatus, 2, []⟩
    let configure : Frame := ⟨Command.configureStream, 3, [1]⟩
    let buffered : Frame := ⟨Command.requestBufferedData, 4, []⟩
    let inputs : List Input := [.frame start.wire 0 queue, .frame status.wire 1 queue,
      .tick 2 queue, .frame (start.wire.take 9) 3 queue, .frame configure.wire 4 queue,
      .frame buffered.wire 5 queue, .tick 12 queue]
    let shorter : List Input := [.frame start.wire 0 (.ofCapacity 0), .tick 2 queue, .tick 12 queue]
    let keep := fun i => i == 0 || i == 2 || i == 6
    ∃ d, powerOn config (Random.Stream.ofSeed 7) = .ok d ∧
      (d.emitsEach inputs).map List.length = [1, 1, 1, 0, 1, 1, 1] ∧
      d.emitsEach shorter = kept keep (d.emitsEach inputs) ∧
      d.unpromptedOver shorter = d.unpromptedOver inputs ∧
      (d.run shorter).state = (d.run inputs).state ∧
      (d.run shorter).random = (d.run inputs).random := by
  intro config queue start status configure buffered inputs shorter keep
  have hpower : powerOn config (Random.Stream.ofSeed 7) = .ok _ := rfl
  have hpassed {d : Device} (h : powerOn config (Random.Stream.ofSeed 7) = .ok d) :
      ∀ i (hi : i < inputs.length), keep i = false →
        (d.run (inputs.take i)).PassesOver inputs[i] := by
    cases h
    decide +kernel
  obtain ⟨hemits, hunprompted, hstate, -, hrandom⟩ :=
    (run_of_kept _).2 inputs shorter keep (hpassed hpower) rfl
  exact ⟨_, hpower, by decide +kernel, hemits, hunprompted, hstate, hrandom⟩

end Acquisition.Device
