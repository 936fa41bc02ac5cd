import Mathlib
import Acquisition.Proofs.Frame.Layout
import Acquisition.Proofs.Queue.Records

/-!
# Frames in a queue

Frames are queued one after the other, each as the record of its wire bytes. `enqueueAll` says
which of them the queue takes.
-/

namespace Acquisition.RecordQueue

/-- What has become of a list of frames. -/
structure Admission where
  /-- Those that are queued now. -/
  admitted : List Frame
  /-- Those for which there was no room. -/
  refused : List Frame
  queue : RecordQueue

/-- A frame larger than the device can encode does not get to the queue. -/
def enqueueAll (q : RecordQueue) : List Frame → Admission
  | [] => ⟨[], [], q⟩
  | f :: rest =>
    if Frame.maxSize < f.wireSize then q.enqueueAll rest
    else
      match q.enqueue f.wire with
      | (.ok (), q) =>
        let a := q.enqueueAll rest
        { a with admitted := f :: a.admitted }
      | (.error _, q) =>
        let a := q.enqueueAll rest
        { a with refused := f :: a.refused }

theorem enqueueAll_append (q : RecordQueue) (first second : List Frame) :
    q.enqueueAll (first ++ second) =
      let before := q.enqueueAll first
      let after := before.queue.enqueueAll second
      { admitted := before.admitted ++ after.admitted
        refused := before.refused ++ after.refused
        queue := after.queue } := by
  induction first generalizing q with
  | nil => rfl
  | cons f rest ih =>
    simp only [List.cons_append, enqueueAll]
    split
    · exact ih q
    · split <;> simp only [ih, List.cons_append]

theorem wireSize_le_of_admitted {q : RecordQueue} {frames : List Frame} {f : Frame}
    (h : f ∈ (q.enqueueAll frames).admitted) : f.wireSize ≤ Frame.maxSize := by
  induction frames generalizing q with
  | nil => simp [enqueueAll] at h
  | cons g rest ih =>
    simp only [enqueueAll] at h
    split at h
    · exact ih h
    · rename_i hsize
      split at h
      · rcases List.mem_cons.mp h with rfl | h
        · exact Nat.le_of_not_lt hsize
        · exact ih h
      · exact ih h

theorem admitted_sublist (q : RecordQueue) (frames : List Frame) :
    (q.enqueueAll frames).admitted.Sublist frames := by
  induction frames generalizing q with
  | nil => exact .slnil
  | cons f rest ih =>
    rw [enqueueAll]
    split
    · exact (ih q).cons f
    · split
      · exact (ih _).cons_cons f
      · exact (ih _).cons f

-- A queue that refuses nothing takes every frame that can be encoded.
theorem admitted_of_refused_nil {q : RecordQueue} {frames : List Frame}
    (h : (q.enqueueAll frames).refused = []) :
    (q.enqueueAll frames).admitted = frames.filter (·.wireSize ≤ Frame.maxSize) := by
  induction frames generalizing q with
  | nil => rfl
  | cons f rest ih =>
    simp only [enqueueAll] at h ⊢
    split
    · rename_i hsize
      rw [if_pos hsize] at h
      rw [List.filter_cons_of_neg (by simpa using hsize), ih h]
    · rename_i hsize
      rw [if_neg hsize] at h
      split
      · rename_i heq
        simp only [heq] at h
        rw [List.filter_cons_of_pos (by simpa using hsize), ih h]
      · rename_i heq
        simp only [heq, List.cons_ne_nil] at h

/-- A frame that was offered to a queue, and the answer of the queue. -/
structure Offer where
  frame : Frame
  result : Except FrameError Unit

def Offer.queued (o : Offer) : Bool := o.result.isOk

/-- Frames that are offered one after the other. -/
def offers (q : RecordQueue) : List Frame → List Offer
  | [] => []
  | f :: rest => ⟨f, (q.enqueue f.wire).1⟩ :: (q.enqueue f.wire).2.offers rest

@[simp] theorem map_frame_offers (q : RecordQueue) (frames : List Frame) :
    (q.offers frames).map Offer.frame = frames := by
  induction frames generalizing q with
  | nil => rfl
  | cons f rest ih => rw [offers, List.map_cons, ih]

theorem length_offers (q : RecordQueue) (frames : List Frame) :
    (q.offers frames).length = frames.length := by
  rw [← List.length_map Offer.frame, map_frame_offers]

-- The fate of each frame is the answer of the queue to it.
theorem length_enqueueAll_eq_countP {frames : List Frame}
    (hsize : ∀ f ∈ frames, f.wireSize ≤ Frame.maxSize) (q : RecordQueue) :
    (q.enqueueAll frames).admitted.length = (q.offers frames).countP Offer.queued ∧
      (q.enqueueAll frames).refused.length = (q.offers frames).countP (!·.queued) := by
  induction frames generalizing q with
  | nil => exact ⟨rfl, rfl⟩
  | cons f rest ih =>
    obtain ⟨hf, hrest⟩ := List.forall_mem_cons.mp hsize
    rw [enqueueAll, if_neg (Nat.not_lt_of_le hf), offers]
    rcases q.enqueue f.wire with ⟨e | ⟨⟩, q'⟩ <;> obtain ⟨hadmitted, hrefused⟩ := ih hrest q'
    · rw [List.countP_cons_of_neg Bool.false_ne_true, List.countP_cons_of_pos rfl]
      exact ⟨hadmitted, congrArg (· + 1) hrefused⟩
    · rw [List.countP_cons_of_pos rfl, List.countP_cons_of_neg Bool.false_ne_true]
      exact ⟨congrArg (· + 1) hadmitted, hrefused⟩

-- Lack of room is the one reason for which a frame that can be encoded is refused.
theorem queueFull_of_not_queued {frames : List Frame}
    (hsize : ∀ f ∈ frames, f.wireSize ≤ Frame.maxSize) (q : RecordQueue) :
    ∀ o ∈ q.offers frames, o.queued = false →
      ∃ needed free, o.result = .error (.queueFull needed free) ∧ free < needed := by
  induction frames generalizing q with
  | nil => exact List.forall_mem_nil _
  | cons f rest ih =>
    obtain ⟨hf, hrest⟩ := List.forall_mem_cons.mp hsize
    refine List.forall_mem_cons.mpr ⟨fun hrefused => ?_, ih hrest _⟩
    have hshort := Frame.length_wire_lt hf
    by_cases hfull : q.ring.free < f.wire.length + lengthBytes
    · exact ⟨_, _, congrArg Prod.fst (enqueue_of_full hshort hfull), hfull⟩
    · rw [Offer.queued, enqueue, if_neg (Nat.not_le_of_lt hshort), if_neg hfull] at hrefused
      cases hrefused

-- The queue grows by the admitted frames.
theorem Holds.enqueueAll {q : RecordQueue} {records : List Bytes} (h : q.Holds records)
    (frames : List Frame) : (q.enqueueAll frames).queue.Holds
      (records ++ (q.enqueueAll frames).admitted.map Frame.wire) := by
  induction frames generalizing q records with
  | nil => simpa [RecordQueue.enqueueAll] using h
  | cons f rest ih =>
    simp only [RecordQueue.enqueueAll]
    split
    · exact ih h
    · rcases h.enqueue f.wire with ⟨e, hq⟩ | ⟨q', hq, hq'⟩
      · simp only [hq]
        exact ih h
      · simp only [hq, List.map_cons]
        rw [List.append_cons]
        exact ih hq'

end Acquisition.RecordQueue
