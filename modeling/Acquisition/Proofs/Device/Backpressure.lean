import Mathlib
import Acquisition.Proofs.Device.Counting
import Acquisition.Proofs.Device.Readable
import Acquisition.Proofs.Queue.Bounded

/-!
# A full queue does not influence the device

A device is called with received bytes and with the time, and someone else takes records from its
queue whenever he likes. What the device does depends on the calls alone: a run is the `course` that
the device takes without a queue, but for the counts of what was queued and dropped, and what comes
into the queue is some of what the device has attempted to send (`run_of_calls_eq`).
-/

namespace Acquisition

namespace Device

/-- What a device is told. -/
inductive Call
  | frame (wire : Bytes) (now : Nat)
  | request (request : Request) (now : Nat)
  | tick (now : Nat)
  | stop

def Call.input (c : Call) (queue : RecordQueue) : Input :=
  match c with
  | .frame wire now => .frame wire now queue
  | .request r now => .request r now
  | .tick now => .tick now queue
  | .stop => .stop

inductive Event
  | call (c : Call)
  /-- The oldest record is taken, with room for so many bytes. -/
  | dequeue (room : Nat)

def calls : List Event → List Call
  | [] => []
  | .call c :: rest => c :: calls rest
  | .dequeue _ :: rest => calls rest

/-! ## Without a queue -/

/-- What a call does to the device, whatever becomes of the frames. -/
def advance (d : Device) : Call → Device
  | .frame wire now => (d.respond wire now).2
  | .request request now => (d.handleRequest request now).2
  | .tick now => (d.due now).2
  | .stop => d.stop

/-- The frames that the device attempts to send on a call. -/
def intends (d : Device) : Call → List Frame
  | .frame wire now => (d.respond wire now).1.toList
  | .tick now => (d.due now).1
  | .request .. | .stop => []

def course (d : Device) (cs : List Call) : Device := cs.foldl advance d

def intendsOver (d : Device) : List Call → List Frame
  | [] => []
  | c :: rest => d.intends c ++ (d.advance c).intendsOver rest

variable (d : Device) (counts : Stats)

theorem advance_tally (c : Call) : (d.tally counts).advance c = (d.advance c).tally counts := by
  cases c with
  | frame wire now => simp only [advance, respond_tally]
  | request request now => simp only [advance, handleRequest_tally]
  | tick now => simp only [advance, due_tally]
  | stop => rfl

theorem intends_tally (c : Call) : (d.tally counts).intends c = d.intends c := by
  cases c with
  | frame wire now => simp only [intends, respond_tally]
  | tick now => simp only [intends, due_tally]
  | request | stop => rfl

theorem course_tally (cs : List Call) :
    (d.tally counts).course cs = (d.course cs).tally counts := by
  induction cs generalizing d with
  | nil => rfl
  | cons c rest ih =>
    change ((d.tally counts).advance c).course rest = _
    rw [advance_tally, ih]
    rfl

theorem intendsOver_tally (cs : List Call) :
    (d.tally counts).intendsOver cs = d.intendsOver cs := by
  induction cs generalizing d with
  | nil => rfl
  | cons c rest ih => rw [intendsOver, intendsOver, intends_tally, advance_tally, ih]

/-! ## With a queue -/

/-- A device and the queue that it sends into. -/
structure Sender where
  device : Device
  queue : RecordQueue

namespace Sender

def call (s : Sender) : Call → Sender
  | .frame wire now =>
    let (device, queue) := s.device.handleFrame wire now s.queue
    { device, queue }
  | .request request now => { s with device := (s.device.handleRequest request now).2 }
  | .tick now =>
    let (device, queue) := s.device.tick now s.queue
    { device, queue }
  | .stop => { s with device := s.device.stop }

def step (s : Sender) : Event → Sender
  | .call c => s.call c
  | .dequeue room => { s with queue := (s.queue.dequeue room).2 }

def run (s : Sender) (events : List Event) : Sender := events.foldl step s

/-- The frames that the device attempts to send over a run. -/
def attempts (s : Sender) : List Event → List Frame
  | [] => []
  | .call c :: rest => s.device.intends c ++ (s.call c).attempts rest
  | .dequeue room :: rest => (s.step (.dequeue room)).attempts rest

/-- The records that come into the queue over a run: what a call leaves in the queue behind the
records that were there. -/
def placed (s : Sender) : List Event → List Bytes
  | [] => []
  | .call c :: rest =>
    (s.call c).queue.toList.drop s.queue.toList.length ++ (s.call c).placed rest
  | .dequeue room :: rest => (s.step (.dequeue room)).placed rest

/-- The records that leave the queue over a run. -/
def taken (s : Sender) : List Event → List Bytes
  | [] => []
  | .call c :: rest => (s.call c).taken rest
  | .dequeue room :: rest => s.queue.toList.take 1 ++ (s.step (.dequeue room)).taken rest

/-- A device with a queue of some capacity to which something was done before. -/
def start (d : Device) (capacity : Nat) (before : List RecordQueue.Op) : Sender where
  device := d
  queue := (RecordQueue.run RecordQueue.step (.ofCapacity capacity) before).2

variable (s : Sender)

theorem call_eq (c : Call) :
    let admission := s.queue.enqueueAll (s.device.intends c)
    s.call c = {
      device := (s.device.advance c).tally admission.counts
      queue := admission.queue } := by
  cases c with
  | frame wire now =>
    simp only [call, handleFrame, sendAll_eq]
    rfl
  | tick now =>
    simp only [call, tick, sendAll_eq]
    rfl
  | request | stop => rfl

theorem call_device (c : Call) : (s.call c).device = s.device.step (c.input s.queue) := by
  cases c <;> rfl

theorem intends_eq (c : Call) :
    s.device.intends c = (s.device.emits (c.input s.queue)).map (·.2) := by
  have hsame (frames : List Frame) (now : Nat) : (frames.map (now, ·)).map (·.2) = frames := by
    rw [List.map_map]
    exact List.map_id frames
  cases c with
  | frame wire now => exact (hsame _ now).symm
  | tick now => exact (hsame _ now).symm
  | request | stop => rfl

theorem attempts_eq (events : List Event) :
    s.attempts events = s.device.intendsOver (calls events) := by
  induction events generalizing s with
  | nil => rfl
  | cons event rest ih =>
    cases event with
    | call c => rw [attempts, ih, call_eq, intendsOver_tally, calls, intendsOver]
    | dequeue room => exact ih _

-- Without regard to what was queued and dropped, a run is the course of the device.
theorem run_device (events : List Event) :
    ∃ queued dropped, (s.run events).device =
      (s.device.course (calls events)).tally
        { framesQueued := queued, framesDropped := dropped } := by
  induction events generalizing s with
  | nil => exact ⟨0, 0, rfl⟩
  | cons event rest ih =>
    obtain ⟨queued, dropped, hrest⟩ := ih (s.step event)
    cases event with
    | call c =>
      let admission := s.queue.enqueueAll (s.device.intends c)
      rw [step, call_eq, course_tally, tally_tally] at hrest
      refine ⟨admission.admitted.length + queued, admission.refused.length + dropped, ?_⟩
      rw [run, List.foldl_cons, step, call_eq]
      exact hrest
    | dequeue room => exact ⟨queued, dropped, hrest⟩

/-! ## What comes into the queue -/

/-- What a run has done with a queue that held `records`: what was placed is some of what was
attempted, each of its records was counted, and records leave in the order in which they came. -/
structure Passed (records : List Bytes) (events : List Event) (left : List Bytes) : Prop where
  holds : (s.run events).queue.Holds left
  sublist : (s.placed events).Sublist ((s.attempts events).map Frame.wire)
  queued : (s.run events).device.stats.framesQueued =
    s.device.stats.framesQueued + (s.placed events).length
  order : records ++ s.placed events = s.taken events ++ left

variable {s} {records : List Bytes}

theorem framesQueued_call (c : Call) :
    (s.call c).device.stats.framesQueued = s.device.stats.framesQueued +
      (s.queue.enqueueAll (s.device.intends c)).admitted.length := by
  have hkept : (s.device.advance c).stats.framesQueued = s.device.stats.framesQueued := by
    cases c with
    | frame wire now => exact (s.device.respond_stats wire now).1
    | request request now => rw [advance, (handleRequest_keeps ..).2]
    | tick now => rw [advance, (due_keeps ..).2]
    | stop => rfl
  rw [call_eq, tally_stats, ← hkept]
  rfl

theorem passed_run (h : s.queue.Holds records) (events : List Event) :
    ∃ left, s.Passed records events left := by
  induction events generalizing s records with
  | nil => exact ⟨records, h, .slnil, rfl, List.append_nil _⟩
  | cons event rest ih =>
    cases event with
    | call c =>
      have hgrown : (s.call c).queue.Holds (records ++
          (s.queue.enqueueAll (s.device.intends c)).admitted.map Frame.wire) := by
        rw [call_eq]
        exact h.enqueueAll _
      have hplaced : s.placed (.call c :: rest) =
          (s.queue.enqueueAll (s.device.intends c)).admitted.map Frame.wire ++
            (s.call c).placed rest := by
        rw [placed, hgrown.toList_eq, h.toList_eq, List.drop_left]
      obtain ⟨left, hrest⟩ := ih hgrown
      refine ⟨left, hrest.holds, ?_, ?_, ?_⟩
      · rw [hplaced, attempts, List.map_append]
        exact ((s.queue.admitted_sublist _).map _).append hrest.sublist
      · have hqueued := hrest.queued
        rw [framesQueued_call] at hqueued
        rw [hplaced, List.length_append, List.length_map, ← Nat.add_assoc]
        exact hqueued
      · rw [hplaced, ← List.append_assoc]
        exact hrest.order
    | dequeue room =>
      cases records with
      | nil =>
        have hsame : s.step (.dequeue room) = s := by rw [step, h.dequeue_nil]
        obtain ⟨left, hrest⟩ := ih h
        refine ⟨left, ?_, ?_, ?_, ?_⟩
        · rw [run, List.foldl_cons, hsame]
          exact hrest.holds
        · rw [placed, attempts, hsame]
          exact hrest.sublist
        · rw [run, List.foldl_cons, placed, hsame]
          exact hrest.queued
        · rw [placed, taken, hsame, h.toList_eq]
          exact hrest.order
      | cons record records =>
        obtain ⟨q, hq, hdequeue⟩ := h.dequeue_cons room
        have hstep : s.step (.dequeue room) = { s with queue := q } := by rw [step, hdequeue]
        obtain ⟨left, hrest⟩ := ih (s := { s with queue := q }) hq
        refine ⟨left, ?_, ?_, ?_, ?_⟩
        · rw [run, List.foldl_cons, hstep]
          exact hrest.holds
        · rw [placed, attempts, hstep]
          exact hrest.sublist
        · rw [run, List.foldl_cons, placed, hstep]
          exact hrest.queued
        · rw [placed, taken, hstep, h.toList_eq]
          exact congrArg (record :: ·) hrest.order

/-! ## Two runs -/

variable {config : Config} {entropy : Random.Stream} {d₀ : Device}

-- Each attempt is queued or dropped.
theorem counts_run (hpower : powerOn config entropy = .ok d₀) (inputs : List Input)
    (h : s.device = d₀.run inputs) (events : List Event) :
    (s.run events).device.stats.framesQueued + (s.run events).device.stats.framesDropped =
      s.device.stats.framesQueued + s.device.stats.framesDropped +
        (s.attempts events).length := by
  induction events generalizing s inputs with
  | nil => rfl
  | cons event rest ih =>
    cases event with
    | call c =>
      have hinput : (s.call c).device = d₀.run (inputs ++ [c.input s.queue]) := by
        rw [call_device, h, run_append]
        rfl
      have hreadable := readable_run hpower inputs (c.input s.queue)
      rw [← h] at hreadable
      have hcall := step_counts fun sent hsent => (hreadable sent hsent).wireSize
      rw [← call_device] at hcall
      have hrest := ih _ hinput
      rw [attempts, List.length_append, intends_eq, List.length_map, ← Nat.add_assoc, ← hcall]
      exact hrest
    | dequeue room => exact ih (s := s.step (.dequeue room)) inputs h

theorem holds_start (d : Device) (capacity : Nat) (before : List RecordQueue.Op) :
    ∃ records, (start d capacity before).queue.Holds records :=
  ⟨_, ((RecordQueue.bounded_ofCapacity capacity).run before).2.holds⟩

end Sender

/-- Two devices of one configuration and one stream of random numbers that are called in the same
way, each with a queue of its own that has any capacity and any contents and is emptied at any time:
they are in the same state, draw and number the same, have handled and rejected as many frames, and
have attempted to send the same frames, each of which they have queued or dropped. Over every such
run the records that come into the queue are some of the attempted frames, in their order, and leave
it in that order. -/
theorem run_of_calls_eq {config : Config} {entropy : Random.Stream} {d₀ : Device}
    (hpower : powerOn config entropy = .ok d₀) {events₁ events₂ : List Event}
    (hcalls : calls events₁ = calls events₂) (capacity₁ capacity₂ : Nat)
    (before₁ before₂ : List RecordQueue.Op) :
    (let s₁ := Sender.start d₀ capacity₁ before₁
     let s₂ := Sender.start d₀ capacity₂ before₂
     let d₁ := (s₁.run events₁).device
     let d₂ := (s₂.run events₂).device
     d₁.state = d₂.state ∧ d₁.nextSeq = d₂.nextSeq ∧ d₁.random = d₂.random ∧
     d₁.stats.framesHandled = d₂.stats.framesHandled ∧
     d₁.stats.framesRejected = d₂.stats.framesRejected ∧
     d₁.stats.framesQueued + d₁.stats.framesDropped =
       d₂.stats.framesQueued + d₂.stats.framesDropped ∧
     s₁.attempts events₁ = s₂.attempts events₂) ∧
    ∀ (capacity : Nat) (before : List RecordQueue.Op) (events : List Event),
      let s := Sender.start d₀ capacity before
      let d := (s.run events).device
      (s.placed events).Sublist ((s.attempts events).map Frame.wire) ∧
      d.stats.framesQueued = (s.placed events).length ∧
      d.stats.framesQueued + d.stats.framesDropped = (s.attempts events).length ∧
      s.queue.toList ++ s.placed events = s.taken events ++ (s.run events).queue.toList := by
  have hzero : d₀.stats = {} := (powerOn_ok hpower).2.2
  have hcounts (capacity : Nat) (before : List RecordQueue.Op) (events : List Event) :
      let s := Sender.start d₀ capacity before
      let d := (s.run events).device
      d.stats.framesQueued + d.stats.framesDropped = (s.attempts events).length := by
    intro s d
    rw [Sender.counts_run hpower [] rfl events]
    change d₀.stats.framesQueued + d₀.stats.framesDropped + _ = _
    rw [hzero]
    exact Nat.zero_add _
  refine ⟨?_, fun capacity before events => ?_⟩
  · intro s₁ s₂ d₁ d₂
    obtain ⟨queued₁, dropped₁, hfirst⟩ := s₁.run_device events₁
    obtain ⟨queued₂, dropped₂, hsecond⟩ := s₂.run_device events₂
    have hattempts : s₁.attempts events₁ = s₂.attempts events₂ := by
      rw [s₁.attempts_eq, s₂.attempts_eq, hcalls]
      rfl
    have hsum := (hcounts capacity₁ before₁ events₁).trans
      ((congrArg List.length hattempts).trans (hcounts capacity₂ before₂ events₂).symm)
    rw [hcalls] at hfirst
    change d₁ = (d₀.course (calls events₂)).tally _ at hfirst
    change d₂ = (d₀.course (calls events₂)).tally _ at hsecond
    refine ⟨?_, ?_, ?_, ?_, ?_, hsum, hattempts⟩ <;> rw [hfirst, hsecond] <;> rfl
  · intro s d
    obtain ⟨records, hrecords⟩ := Sender.holds_start d₀ capacity before
    obtain ⟨left, hpassed⟩ := Sender.passed_run hrecords events
    have hqueued := hpassed.queued
    refine ⟨hpassed.sublist, ?_, hcounts capacity before events, ?_⟩
    · change d.stats.framesQueued = d₀.stats.framesQueued + _ at hqueued
      rw [hqueued, hzero]
      exact Nat.zero_add _
    · rw [hpassed.holds.toList_eq]
      exact hrecords.toList_eq ▸ hpassed.order

-- One queue takes both replies and is emptied in between, the other has room for neither.
theorem run_of_calls_eq_no_room :
    let ping : Frame := ⟨Command.ping, 7, []⟩
    let arm : Frame := ⟨Command.setModeTrigger, 8, []⟩
    let events₁ : List Event := [.call (.frame ping.wire 0), .dequeue 4, .call (.tick 5),
      .dequeue 8192, .call (.frame arm.wire 6)]
    let events₂ : List Event :=
      [.call (.frame ping.wire 0), .call (.tick 5), .call (.frame arm.wire 6)]
    ∃ d₀, powerOn {} (Random.Stream.ofSeed 1) = .ok d₀ ∧ calls events₁ = calls events₂ ∧
      let s₁ := Sender.start d₀ 65535 [.enqueue [1, 2, 3]]
      let s₂ := Sender.start d₀ 2 []
      (s₁.run events₁).device.stats.framesQueued = 2 ∧
      (s₂.run events₂).device.stats.framesDropped = 2 ∧
      (s₁.run events₁).device.state = (s₂.run events₂).device.state ∧
      (s₁.run events₁).device.random = (s₂.run events₂).device.random ∧
      s₁.attempts events₁ = s₂.attempts events₂ := by
  intro ping arm events₁ events₂
  have hpower : powerOn {} (Random.Stream.ofSeed 1) = .ok _ := rfl
  have hcalls : calls events₁ = calls events₂ := rfl
  obtain ⟨⟨hstate, -, hrandom, -, -, -, hattempts⟩, -⟩ :=
    run_of_calls_eq hpower hcalls 65535 2 [.enqueue [1, 2, 3]] []
  exact ⟨_, hpower, hcalls, by decide +kernel, by decide +kernel, hstate, hrandom, hattempts⟩

end Device

end Acquisition
