import Mathlib
import Acquisition.Proofs.Device.Bursts

/-!
# What is counted

Every frame that the device attempts to send is offered to the queue, and its counters tell how many
the queue took and how many it refused (`counted_run`).
-/

namespace Acquisition.Device

open RecordQueue (Offer)

variable {d : Device} {frames : List Frame}

/-- The frames that the device offers to the queue on an input. -/
def offersIn (d : Device) : Input → List Offer
  | .frame wire now queue => queue.offers (d.respond wire now).1.toList
  | .tick now queue => queue.offers (d.due now).1
  | .request .. | .stop => []

def offersOver (d : Device) : List Input → List Offer
  | [] => []
  | input :: rest => d.offersIn input ++ (d.step input).offersOver rest

theorem map_frame_offersIn (d : Device) (input : Input) :
    (d.offersIn input).map Offer.frame = (d.emits input).map (·.2) := by
  cases input with
  | frame | tick => simp [offersIn, emits, Function.comp_def]
  | request | stop => rfl

theorem map_frame_offersOver (d : Device) (inputs : List Input) :
    (d.offersOver inputs).map Offer.frame = (d.emissions inputs).map (·.2) := by
  induction inputs generalizing d with
  | nil => rfl
  | cons input rest ih =>
    rw [offersOver, emissions, List.map_append, List.map_append, map_frame_offersIn, ih]

/-- What is counted beside what was offered: the frames that the queue took, those that it refused,
and those that are replies, which are all but `unprompted`. -/
structure Counted (before : Stats) (offers : List Offer) (unprompted : Nat) (after : Stats) :
    Prop where
  queued : after.framesQueued = before.framesQueued + offers.countP Offer.queued
  dropped : after.framesDropped = before.framesDropped + offers.countP (!·.queued)
  handled : after.framesHandled + unprompted = before.framesHandled + offers.length

theorem Counted.all {before after : Stats} {offers : List Offer} {unprompted : Nat}
    (h : Counted before offers unprompted after) :
    after.framesQueued + after.framesDropped =
      before.framesQueued + before.framesDropped + offers.length := by
  have hlength := List.length_eq_countP_add_countP Offer.queued (l := offers)
  simp only [Bool.not_eq_true, Bool.decide_eq_false] at hlength
  rw [h.queued, h.dropped, hlength]
  omega

theorem Counted.trans {s s₁ s₂ : Stats} {first second : List Offer} {m n : Nat}
    (h₁ : Counted s first m s₁) (h₂ : Counted s₁ second n s₂) :
    Counted s (first ++ second) (m + n) s₂ where
  queued := by rw [h₂.queued, h₁.queued, List.countP_append, Nat.add_assoc]
  dropped := by rw [h₂.dropped, h₁.dropped, List.countP_append, Nat.add_assoc]
  handled := by
    have := h₁.handled
    have := h₂.handled
    rw [List.length_append]
    omega

theorem counted_sendAll (hsize : ∀ f ∈ frames, f.wireSize ≤ Frame.maxSize) (d : Device)
    (q : RecordQueue) :
    Counted d.stats (q.offers frames) frames.length (d.sendAll frames q).1.stats := by
  obtain ⟨hadmitted, hrefused⟩ := RecordQueue.length_enqueueAll_eq_countP hsize q
  rw [sendAll_eq]
  constructor
  · exact congrArg (d.stats.framesQueued + ·) hadmitted
  · exact congrArg (d.stats.framesDropped + ·) hrefused
  · rw [RecordQueue.length_offers]
    rfl

theorem counted_step {input : Input}
    (hsize : ∀ sent ∈ d.emits input, sent.2.wireSize ≤ Frame.maxSize) :
    Counted d.stats (d.offersIn input) ((d.emits input).filter fun sent =>
      Command.isUnsolicited sent.2.command).length (d.step input).stats := by
  rw [unprompted_emits]
  cases input with
  | frame wire now queue =>
    rw [emits, List.forall_mem_map] at hsize
    obtain ⟨hqueued, hdropped⟩ := d.respond_stats wire now
    have hcounted := counted_sendAll hsize (d.respond wire now).2 queue
    refine ⟨hqueued ▸ hcounted.queued, hdropped ▸ hcounted.dropped, ?_⟩
    have hhandled := Nat.add_right_cancel
      (hcounted.handled.trans (congrArg _ (RecordQueue.length_offers ..)))
    rw [offersIn, RecordQueue.length_offers, ← framesHandled_respond]
    exact hhandled
  | tick now queue =>
    rw [emits, List.forall_mem_map] at hsize
    have hcounted := counted_sendAll hsize (d.due now).2 queue
    rw [(due_keeps d now).2] at hcounted
    rw [List.length_map]
    exact hcounted
  | request request now =>
    rw [step, (handleRequest_keeps d request now).2]
    exact ⟨rfl, rfl, rfl⟩
  | stop => exact ⟨rfl, rfl, rfl⟩

-- Each frame that can be encoded is counted once.
theorem step_counts {input : Input}
    (hsize : ∀ sent ∈ d.emits input, sent.2.wireSize ≤ Frame.maxSize) :
    (d.step input).stats.framesQueued + (d.step input).stats.framesDropped =
      d.stats.framesQueued + d.stats.framesDropped + (d.emits input).length := by
  have hcounted := (counted_step hsize).all
  rwa [← List.length_map (·.2), ← map_frame_offersIn, List.length_map]

-- Lack of room is the one reason for which a frame is dropped.
theorem queueFull_of_mem_offersIn {input : Input}
    (hsize : ∀ sent ∈ d.emits input, sent.2.wireSize ≤ Frame.maxSize) :
    ∀ o ∈ d.offersIn input, o.queued = false →
      ∃ needed free, o.result = .error (.queueFull needed free) ∧ free < needed := by
  cases input with
  | frame | tick =>
    rw [emits, List.forall_mem_map] at hsize
    exact RecordQueue.queueFull_of_not_queued hsize _
  | request | stop => exact List.forall_mem_nil _

theorem counted_run
    (hsize : ∀ before input, ∀ sent ∈ (d.run before).emits input, sent.2.wireSize ≤ Frame.maxSize)
    (inputs : List Input) :
    Counted d.stats (d.offersOver inputs) (d.unpromptedOver inputs).length (d.run inputs).stats ∧
      ∀ o ∈ d.offersOver inputs, o.queued = false →
        ∃ needed free, o.result = .error (.queueFull needed free) ∧ free < needed := by
  induction inputs generalizing d with
  | nil => exact ⟨⟨rfl, rfl, rfl⟩, List.forall_mem_nil _⟩
  | cons input rest ih =>
    obtain ⟨hcounted, hrefused⟩ := ih fun before => hsize (input :: before)
    have hfirst := hsize [] input
    rw [offersOver, unpromptedOver, emissions, List.filter_append, List.length_append]
    exact ⟨(counted_step hfirst).trans hcounted,
      List.forall_mem_append.mpr ⟨queueFull_of_mem_offersIn hfirst, hrefused⟩⟩

end Acquisition.Device
