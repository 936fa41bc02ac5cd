import Mathlib
import Acquisition.Proofs.Device.Emission
import Acquisition.Proofs.Session.Recording

/-!
# What leaves a session

Frames leave the queue one at a time, and each is accepted whole, accepted in part or refused. After
any run of polls, what the link has accepted and the pending rest are together the concatenation of
the frames that were taken from the queue and not refused.
-/

namespace Acquisition

open Link

/-- A frame that was taken from the queue to be sent. -/
structure Departure where
  frame : Frame
  /-- The link refused it. -/
  lost : Bool

namespace Departure

/-- The bytes of the frames that were not refused. -/
def stream (left : List Departure) : Bytes :=
  (left.filter (!·.lost)).flatMap (·.frame.wire)

def losses (left : List Departure) : List Frame := (left.filter (·.lost)).map (·.frame)

theorem stream_append (first second : List Departure) :
    stream (first ++ second) = stream first ++ stream second := by
  simp only [stream, List.filter_append, List.flatMap_append]

theorem losses_append (first second : List Departure) :
    losses (first ++ second) = losses first ++ losses second := by
  simp only [losses, List.filter_append, List.map_append]

-- Without losses the stream is made of all frames.
theorem stream_of_losses_nil {left : List Departure} (h : losses left = []) :
    stream left = (left.map frame).flatMap Frame.wire := by
  rw [losses, List.map_eq_nil_iff, List.filter_eq_nil_iff] at h
  rw [stream, List.filter_eq_self.mpr fun d hd => by simpa using h d hd, List.flatMap_map]

end Departure

namespace Session

variable {σ : Type}

/-! ## A transmission -/

/-- How frames leave a queue: until none is left, one is refused, or one is accepted in part. -/
inductive Leaves : (waiting : List Frame) → (attempts : List Attempt) → (left : List Departure) →
    (rest : List Frame) → (pending : Bytes) → Prop
  | empty : Leaves [] [] [] [] []
  | refused {f : Frame} {rest : List Frame} {e : LinkError} :
    Leaves (f :: rest) [⟨f.wire, .error e⟩] [⟨f, true⟩] rest []
  | short {f : Frame} {rest : List Frame} {count : Nat} (hshort : count < f.wire.length) :
    Leaves (f :: rest) [⟨f.wire, .ok count⟩] [⟨f, false⟩] rest (f.wire.drop count)
  | whole {f : Frame} {waiting : List Frame} {count : Nat} {attempts : List Attempt}
      {left : List Departure} {rest : List Frame} {pending : Bytes}
      (hwhole : f.wire.length ≤ count) (hmore : Leaves waiting attempts left rest pending) :
    Leaves (f :: waiting) (⟨f.wire, .ok count⟩ :: attempts) (⟨f, false⟩ :: left) rest pending

section

variable {waiting rest : List Frame} {attempts : List Attempt} {left : List Departure}
  {pending : Bytes}

theorem Leaves.frames (h : Leaves waiting attempts left rest pending) :
    waiting = left.map (·.frame) ++ rest := by
  induction h with
  | empty | refused | short => rfl
  | whole _ _ ih => rw [ih, List.map_cons, List.cons_append]

theorem Leaves.stream (h : Leaves waiting attempts left rest pending) :
    attempts.flatMap Attempt.accepted ++ pending = Departure.stream left := by
  induction h with
  | empty | refused => rfl
  | short => simp [Departure.stream, Attempt.accepted]
  | @whole f _ _ _ left _ _ hwhole _ ih =>
    have hfirst : Departure.stream (⟨f, false⟩ :: left) = f.wire ++ Departure.stream left := by
      simp [Departure.stream]
    rw [List.flatMap_cons, List.append_assoc, ih, hfirst, Attempt.accepted_of_le hwhole]

theorem Leaves.losses (h : Leaves waiting attempts left rest pending) :
    (attempts.filter Attempt.failed).map Attempt.data =
      (Departure.losses left).map Frame.wire := by
  induction h with
  | empty | refused | short => rfl
  | whole _ _ ih => exact ih

-- A pending rest is one of the frame taken last.
theorem Leaves.pending_suffix (h : Leaves waiting attempts left rest pending) :
    pending = [] ∨ ∃ before f, left = before ++ [⟨f, false⟩] ∧ pending <:+ f.wire := by
  induction h with
  | empty | refused => exact .inl rfl
  | short => exact .inr ⟨[], _, rfl, List.drop_suffix ..⟩
  | whole _ _ ih =>
    rcases ih with hnil | ⟨before, f, rfl, hsuffix⟩
    · exact .inl hnil
    · exact .inr ⟨_ :: before, f, rfl, hsuffix⟩

-- After an attempt that is not accepted whole there is no further one.
theorem Leaves.whole_of_mem_dropLast (h : Leaves waiting attempts left rest pending) :
    ∀ a ∈ attempts.dropLast, a.Whole := by
  induction h with
  | empty | refused | short => simp
  | whole hwhole _ ih => exact Attempt.whole_of_mem_dropLast_cons ⟨_, rfl, hwhole⟩ ih

end

/-! ## With a pending rest -/

/-- How bytes leave when a rest of a frame may be pending: that rest goes first, and frames follow
only when it has been accepted whole. Nothing leaves in a poll that fails to receive. -/
inductive Resumes (waiting : List Frame) : (held : Bytes) → (attempts : List Attempt) →
    (left : List Departure) → (rest : List Frame) → (pending : Bytes) → Prop
  | silent {held : Bytes} : Resumes waiting held [] [] waiting held
  | fresh {attempts : List Attempt} {left : List Departure} {rest : List Frame} {pending : Bytes}
      (h : Leaves waiting attempts left rest pending) :
    Resumes waiting [] attempts left rest pending
  | refused {held : Bytes} {e : LinkError} (hheld : held ≠ []) :
    Resumes waiting held [⟨held, .error e⟩] [] waiting held
  | short {held : Bytes} {count : Nat} (hheld : held ≠ []) (hshort : count < held.length) :
    Resumes waiting held [⟨held, .ok count⟩] [] waiting (held.drop count)
  | whole {held : Bytes} {count : Nat} {attempts : List Attempt} {left : List Departure}
      {rest : List Frame} {pending : Bytes} (hheld : held ≠ []) (hwhole : held.length ≤ count)
      (hmore : Leaves waiting attempts left rest pending) :
    Resumes waiting held (⟨held, .ok count⟩ :: attempts) left rest pending

section

variable {waiting rest : List Frame} {attempts : List Attempt} {left : List Departure}
  {held pending : Bytes}

theorem Resumes.frames (h : Resumes waiting held attempts left rest pending) :
    waiting = left.map (·.frame) ++ rest := by
  cases h with
  | fresh h | whole _ _ h => exact h.frames
  | silent | refused | short => rfl

theorem Resumes.stream (h : Resumes waiting held attempts left rest pending) :
    attempts.flatMap Attempt.accepted ++ pending = held ++ Departure.stream left := by
  cases h with
  | fresh h => rw [h.stream, List.nil_append]
  | silent | refused | short => simp [Attempt.accepted, Departure.stream]
  | whole _ hwhole hmore =>
    rw [List.flatMap_cons, List.append_assoc, hmore.stream, Attempt.accepted_of_le hwhole]

-- Of the frames, exactly those are lost that were refused. A refused rest is not.
theorem Resumes.losses (h : Resumes waiting held attempts left rest pending) :
    ((attempts.drop (if held = [] then 0 else 1)).filter Attempt.failed).map Attempt.data =
      (Departure.losses left).map Frame.wire := by
  cases h with
  | silent => rw [List.drop_nil]; rfl
  | fresh h => exact h.losses
  | refused hheld | short hheld => rw [if_neg hheld]; rfl
  | whole hheld _ h => rw [if_neg hheld]; exact h.losses

theorem Resumes.pending_suffix (h : Resumes waiting held attempts left rest pending) :
    (left = [] ∧ pending <:+ held) ∨ pending = [] ∨
      ∃ before f, left = before ++ [⟨f, false⟩] ∧ pending <:+ f.wire := by
  cases h with
  | fresh h | whole _ _ h => exact .inr h.pending_suffix
  | silent | refused => exact .inl ⟨rfl, List.suffix_refl _⟩
  | short => exact .inl ⟨rfl, List.drop_suffix ..⟩

theorem Resumes.whole_of_mem_dropLast (h : Resumes waiting held attempts left rest pending) :
    ∀ a ∈ attempts.dropLast, a.Whole := by
  cases h with
  | fresh h => exact h.whole_of_mem_dropLast
  | silent | refused | short => simp
  | whole _ hwhole hmore =>
    exact Attempt.whole_of_mem_dropLast_cons ⟨_, rfl, hwhole⟩ hmore.whole_of_mem_dropLast

theorem Resumes.head_eq_held (h : Resumes waiting held attempts left rest pending)
    (hheld : held ≠ []) : ∀ a ∈ attempts.head?, a.data = held := by
  cases h with
  | fresh => exact absurd rfl hheld
  | silent | refused | short | whole => simp

end

/-! ## Accounts -/

/-- Which frames a session has taken from its queue, and which are left there. -/
structure Accounts (s : Session (Recorded σ)) (left : List Departure) (waiting : List Frame) :
    Prop where
  queue : s.tx.Holds (waiting.map Frame.wire)
  size : ∀ f ∈ left.map (·.frame) ++ waiting, f.wireSize ≤ Frame.maxSize
  stream : s.link.accepted ++ s.pending = Departure.stream left
  pending : s.pending = [] ∨ ∃ before f, left = before ++ [⟨f, false⟩] ∧ s.pending <:+ f.wire

theorem Accounts.waiting_size {s : Session (Recorded σ)} {left : List Departure}
    {waiting : List Frame} (h : Accounts s left waiting) :
    ∀ f ∈ waiting, f.wireSize ≤ Frame.maxSize :=
  fun f hf => h.size f (List.mem_append_right _ hf)

theorem accounts_create {link : σ} {config : Config} {deviceConfig : Device.Config}
    {entropy : Random.Stream} {s : Session (Recorded σ)}
    (hcreate : create (Recorded.ofLink link) config deviceConfig entropy = .ok s) :
    Accounts s [] [] := by
  obtain ⟨device, -, -, rfl⟩ := create_ok hcreate
  exact ⟨RecordQueue.holds_ofCapacity _, by simp, rfl, .inl rfl⟩

-- As long as no attempt fails, nothing of what was enqueued is missing.
theorem Accounts.stream_eq {s : Session (Recorded σ)} {left : List Departure}
    {waiting : List Frame} {queued : List Frame} (h : Accounts s left waiting)
    (hframes : queued = left.map (·.frame) ++ waiting) (hlosses : Departure.losses left = []) :
    s.link.accepted ++ s.pending ++ s.tx.toList.flatten = queued.flatMap Frame.wire := by
  rw [h.stream, Departure.stream_of_losses_nil hlosses, h.queue.toList_eq, hframes,
    List.flatMap_append, List.flatMap_def (l := waiting)]

/-! ## Sending -/

/-- From one session to the other the link was given `attempts`, the queue came to hold `rest`, and
the receiving side stayed as it was. -/
structure Advances (s s' : Session (Recorded σ)) (attempts : List Attempt) (rest : List Frame) :
    Prop where
  attempts : s'.link.attempts = s.link.attempts ++ attempts
  queue : s'.tx.Holds (rest.map Frame.wire)
  receptions : s'.link.receptions = s.link.receptions
  config : s'.config = s.config
  device : s'.device = s.device
  rx : s'.rx = s.rx

theorem Advances.trans {s s₁ s₂ : Session (Recorded σ)} {first second : List Attempt}
    {rest₁ rest₂ : List Frame} (h₁ : Advances s s₁ first rest₁)
    (h₂ : Advances s₁ s₂ second rest₂) : Advances s s₂ (first ++ second) rest₂ where
  attempts := by rw [h₂.attempts, h₁.attempts, List.append_assoc]
  queue := h₂.queue
  receptions := h₂.receptions.trans h₁.receptions
  config := h₂.config.trans h₁.config
  device := h₂.device.trans h₁.device
  rx := h₂.rx.trans h₁.rx

variable [Link σ]

theorem transmit_leaves {s : Session (Recorded σ)} {waiting : List Frame}
    (hqueue : s.tx.Holds (waiting.map Frame.wire))
    (hsize : ∀ f ∈ waiting, f.wireSize ≤ Frame.maxSize) (hpending : s.pending = [])
    (poll : PollStats) :
    ∃ attempts left rest, Leaves waiting attempts left rest (s.transmit poll).2.pending ∧
      Advances s (s.transmit poll).2 attempts rest := by
  induction waiting generalizing s poll with
  | nil =>
    rw [transmit_of_empty (hqueue.dequeue_nil Frame.maxSize)]
    refine ⟨[], [], [], ?_, (List.append_nil _).symm, hqueue, rfl, rfl, rfl, rfl⟩
    rw [hpending]
    exact .empty
  | cons f rest ih =>
    obtain ⟨tx, htx, hdequeue⟩ := hqueue.dequeue_cons Frame.maxSize
    have hroom : ¬ Frame.maxSize < f.wire.length := by
      rw [f.length_wire]
      exact Nat.not_lt_of_le (hsize f List.mem_cons_self)
    rw [if_neg hroom] at hdequeue
    have hstep (result : Except LinkError Nat) (link : σ) (pending : Bytes) :
        Advances s { s with
            tx, pending
            link := { link, receptions := s.link.receptions,
                      attempts := s.link.attempts ++ [⟨f.wire, result⟩] } }
          [⟨f.wire, result⟩] rest := ⟨rfl, htx, rfl, rfl, rfl, rfl⟩
    rw [transmit_of_record hdequeue, Recorded.send_eq]
    rcases Link.send s.link.link f.wire with ⟨e | count, link⟩
    · dsimp only
      refine ⟨_, [⟨f, true⟩], rest, ?_, hstep (.error e) link s.pending⟩
      rw [hpending]
      exact .refused
    · dsimp only
      by_cases hshort : count < f.wire.length
      · rw [if_pos hshort]
        exact ⟨_, _, rest, .short hshort, hstep (.ok count) link _⟩
      · rw [if_neg hshort]
        have hfirst := hstep (.ok count) link s.pending
        obtain ⟨attempts, left, rest', hleaves, hmore⟩ := ih hfirst.queue
          (fun g hg => hsize g (List.mem_cons_of_mem _ hg)) hpending
          { poll with bytesSent := poll.bytesSent + count, framesSent := poll.framesSent + 1 }
        exact ⟨_, _, rest', .whole (Nat.le_of_not_lt hshort) hleaves, hfirst.trans hmore⟩

theorem sendOut_resumes {s : Session (Recorded σ)} {waiting : List Frame}
    (hqueue : s.tx.Holds (waiting.map Frame.wire))
    (hsize : ∀ f ∈ waiting, f.wireSize ≤ Frame.maxSize) (poll : PollStats) :
    ∃ attempts left rest,
      Resumes waiting s.pending attempts left rest (s.sendOut poll).2.pending ∧
      Advances s (s.sendOut poll).2 attempts rest := by
  have hstep (result : Except LinkError Nat) (link : σ) (pending : Bytes) :
      Advances s { s with
          pending
          link := { link, receptions := s.link.receptions,
                    attempts := s.link.attempts ++ [⟨s.pending, result⟩] } }
        [⟨s.pending, result⟩] waiting := ⟨rfl, hqueue, rfl, rfl, rfl, rfl⟩
  rw [sendOut, flush]
  by_cases hheld : s.pending = []
  · obtain ⟨attempts, left, rest, hleaves, hadvances⟩ := transmit_leaves hqueue hsize hheld poll
    simp only [if_pos hheld]
    refine ⟨attempts, left, rest, ?_, hadvances⟩
    rw [hheld]
    exact .fresh hleaves
  · rw [if_neg hheld, Recorded.send_eq]
    rcases Link.send s.link.link s.pending with ⟨e | count, link⟩
    · exact ⟨_, _, _, .refused hheld, hstep (.error e) link s.pending⟩
    · dsimp only
      by_cases hshort : count < s.pending.length
      · rw [if_neg (by simpa using hshort)]
        exact ⟨_, _, _, .short hheld hshort, hstep (.ok count) link _⟩
      · have hgone : s.pending.drop count = [] := List.drop_eq_nil_of_le (Nat.le_of_not_lt hshort)
        rw [if_pos hgone]
        have hfirst := hstep (.ok count) link (s.pending.drop count)
        obtain ⟨attempts, left, rest, hleaves, hmore⟩ := transmit_leaves hfirst.queue hsize hgone _
        exact ⟨_, _, _, .whole hheld (Nat.le_of_not_lt hshort) hleaves, hfirst.trans hmore⟩

/-! ## Polls -/

/-- What the device wants to send in a poll. -/
def emittedIn (s : Session σ) (now : Nat) : List Frame :=
  match (Link.receive s.link s.config.receiveChunk).1 with
  | .error _ => []
  | .ok arrived => (s.device.emit now ((s.rx.feed arrived).2.drain Frame.maxSize).1).1

/-- The frames that the device enqueues in a poll. -/
def queuedIn (s : Session σ) (now : Nat) : List Frame :=
  (s.tx.enqueueAll (s.emittedIn now)).admitted

/-- What is given to the link in a poll. -/
def attemptsIn (s : Session (Recorded σ)) (now : Nat) : List Attempt :=
  (s.poll now).2.link.attempts.drop s.link.attempts.length

/-- The queued frames that the link refuses in a poll. A pending rest is given to it before them. -/
def refusedIn (s : Session (Recorded σ)) (now : Nat) : List Bytes :=
  (((s.attemptsIn now).drop (if s.pending = [] then 0 else 1)).filter Attempt.failed).map
    Attempt.data

theorem admitted_size {s : Session σ} {waiting : List Frame} {now : Nat}
    (hsize : ∀ f ∈ waiting, f.wireSize ≤ Frame.maxSize) :
    ∀ f ∈ waiting ++ s.queuedIn now, f.wireSize ≤ Frame.maxSize := by
  intro f hf
  rcases List.mem_append.mp hf with hf | hf
  · exact hsize f hf
  · exact RecordQueue.wireSize_le_of_admitted hf

-- What the device enqueues in a poll waits behind what is queued.
theorem holds_dispatch {s : Session (Recorded σ)} {waiting : List Frame} {arrived : Bytes}
    {link : Recorded σ} (hqueue : s.tx.Holds (waiting.map Frame.wire))
    (hreceive : Link.receive s.link s.config.receiveChunk = (.ok arrived, link)) (now : Nat) :
    (dispatch { s with link } arrived now).2.tx.Holds
      ((waiting ++ s.queuedIn now).map Frame.wire) := by
  have hemitted : s.emittedIn now =
      (s.device.emit now ((s.rx.feed arrived).2.drain Frame.maxSize).1).1 := by
    rw [emittedIn, hreceive]
  rw [dispatch_eq, queuedIn, hemitted, List.map_append]
  exact hqueue.enqueueAll _

-- A poll that receives sends after the dispatch.
theorem poll_advances {s : Session (Recorded σ)} {waiting : List Frame} {arrived : Bytes}
    {link : Recorded σ} (hqueue : s.tx.Holds (waiting.map Frame.wire))
    (hsize : ∀ f ∈ waiting, f.wireSize ≤ Frame.maxSize)
    (hreceive : Link.receive s.link s.config.receiveChunk = (.ok arrived, link)) (now : Nat) :
    ∃ attempts left rest,
      Resumes (waiting ++ s.queuedIn now) s.pending attempts left rest (s.poll now).2.pending ∧
      Advances (dispatch { s with link } arrived now).2 (s.poll now).2 attempts rest := by
  obtain ⟨attempts, left, rest, hresumes, hadvances⟩ :=
    sendOut_resumes (holds_dispatch hqueue hreceive now)
      (admitted_size hsize) (dispatch { s with link } arrived now).1
  have hpending : (dispatch { s with link } arrived now).2.pending = s.pending := by
    rw [dispatch_eq]
  rw [hpending] at hresumes
  refine ⟨attempts, left, rest, ?_⟩
  rw [poll_of_arrival hreceive]
  rcases hout : sendOut (dispatch { s with link } arrived now).2
    (dispatch { s with link } arrived now).1 with ⟨e | moved, s'⟩ <;>
    rw [hout] at hresumes hadvances
  · exact ⟨hresumes, hadvances⟩
  · exact ⟨hresumes, hadvances.attempts, hadvances.queue, hadvances.receptions, hadvances.config,
      hadvances.device, hadvances.rx⟩

theorem poll_resumes {s : Session (Recorded σ)} {waiting : List Frame}
    (hqueue : s.tx.Holds (waiting.map Frame.wire))
    (hsize : ∀ f ∈ waiting, f.wireSize ≤ Frame.maxSize) (now : Nat) :
    ∃ left rest,
      Resumes (waiting ++ s.queuedIn now) s.pending (s.attemptsIn now) left rest
        (s.poll now).2.pending ∧
      (s.poll now).2.link.attempts = s.link.attempts ++ s.attemptsIn now ∧
      (s.poll now).2.tx.Holds (rest.map Frame.wire) := by
  rcases hreceive : Link.receive s.link s.config.receiveChunk with ⟨e | arrived, link⟩
  · have hlink := (Recorded.record_of_receive hreceive).2
    have hqueued : s.queuedIn now = [] := by
      rw [queuedIn, emittedIn, hreceive]
      rfl
    have hattempts : s.attemptsIn now = [] := by
      rw [attemptsIn, poll_of_error hreceive, hlink, List.drop_length]
    rw [hqueued, hattempts, List.append_nil, List.append_nil, poll_of_error hreceive]
    exact ⟨[], waiting, .silent, hlink, hqueue⟩
  · obtain ⟨attempts, left, rest, hresumes, hadvances⟩ :=
      poll_advances hqueue hsize hreceive now
    have hlog := hadvances.attempts
    rw [dispatch_eq, (Recorded.record_of_receive hreceive).2] at hlog
    have hattempts : s.attemptsIn now = attempts := by
      rw [attemptsIn, hlog, List.drop_left]
    rw [hattempts]
    exact ⟨left, rest, hresumes, hlog, hadvances.queue⟩

/-! ## Runs -/

/-- The frames that the device enqueues over a run. -/
def queuedOver (s : Session σ) : List Nat → List Frame
  | [] => []
  | now :: rest => s.queuedIn now ++ queuedOver (s.poll now).2 rest

/-- The queued frames that the link refuses over a run. -/
def refusedOver (s : Session (Recorded σ)) : List Nat → List Bytes
  | [] => []
  | now :: rest => s.refusedIn now ++ refusedOver (s.poll now).2 rest

theorem Accounts.poll {s : Session (Recorded σ)} {left : List Departure} {waiting : List Frame}
    (h : Accounts s left waiting) (now : Nat) :
    ∃ more rest, Accounts (s.poll now).2 (left ++ more) rest ∧
      waiting ++ s.queuedIn now = more.map (·.frame) ++ rest ∧
      s.refusedIn now = (Departure.losses more).map Frame.wire := by
  obtain ⟨more, rest, hresumes, hattempts, hqueue⟩ := poll_resumes h.queue h.waiting_size now
  refine ⟨more, rest, ⟨hqueue, ?_, ?_, ?_⟩, hresumes.frames, hresumes.losses⟩
  · intro f hf
    rw [List.map_append, List.append_assoc, ← hresumes.frames] at hf
    rcases List.mem_append.mp hf with hf | hf
    · exact h.size f (List.mem_append_left _ hf)
    · exact admitted_size h.waiting_size f hf
  · rw [Recorded.accepted, hattempts, List.flatMap_append, List.append_assoc, hresumes.stream,
      ← List.append_assoc, Departure.stream_append, ← h.stream]
    rfl
  · rcases hresumes.pending_suffix with ⟨rfl, hheld⟩ | hnil | ⟨before, f, rfl, hsuffix⟩
    · rw [List.append_nil]
      rcases h.pending with hnil | ⟨before, f, hleft, hsuffix⟩
      · rw [hnil] at hheld
        exact .inl (List.suffix_nil.mp hheld)
      · exact .inr ⟨before, f, hleft, hheld.trans hsuffix⟩
    · exact .inl hnil
    · exact .inr ⟨left ++ before, f, (List.append_assoc ..).symm, hsuffix⟩

theorem Accounts.pollAll {s : Session (Recorded σ)} {left : List Departure} {waiting : List Frame}
    (h : Accounts s left waiting) (times : List Nat) :
    ∃ more rest, Accounts (s.pollAll times) (left ++ more) rest ∧
      waiting ++ s.queuedOver times = more.map (·.frame) ++ rest ∧
      s.refusedOver times = (Departure.losses more).map Frame.wire := by
  induction times generalizing s left waiting with
  | nil =>
    refine ⟨[], waiting, ?_, List.append_nil _, rfl⟩
    rw [List.append_nil]
    exact h
  | cons now rest ih =>
    obtain ⟨first, waiting', hpoll, hframes, hrefused⟩ := h.poll now
    obtain ⟨more, waiting'', hrun, hmore, hlost⟩ := ih hpoll
    refine ⟨first ++ more, waiting'', ?_, ?_, ?_⟩
    · rw [← List.append_assoc]
      exact hrun
    · rw [queuedOver, ← List.append_assoc, hframes, List.append_assoc, hmore, List.map_append,
        List.append_assoc]
    · rw [refusedOver, hrefused, hlost, Departure.losses_append, List.map_append]

-- The device counts the frames that it enqueues.
theorem framesQueued_poll {s : Session (Recorded σ)} {left : List Departure}
    {waiting : List Frame} (h : Accounts s left waiting) (now : Nat) :
    (s.poll now).2.device.stats.framesQueued =
      s.device.stats.framesQueued + (s.queuedIn now).length := by
  rcases hreceive : Link.receive s.link s.config.receiveChunk with ⟨e | arrived, link⟩
  · rw [poll_of_error hreceive, queuedIn, emittedIn, hreceive]
    rfl
  · obtain ⟨_, _, _, -, hadvances⟩ := poll_advances h.queue h.waiting_size hreceive now
    rw [hadvances.device, dispatch_eq, queuedIn, emittedIn, hreceive]
    simp only [Device.tally_stats, Device.Stats.add_def, (Device.emit_stats ..).1]
    rfl

theorem framesQueued_pollAll {s : Session (Recorded σ)} {left : List Departure}
    {waiting : List Frame} (h : Accounts s left waiting) (times : List Nat) :
    (s.pollAll times).device.stats.framesQueued =
      s.device.stats.framesQueued + (s.queuedOver times).length := by
  induction times generalizing s left waiting with
  | nil => rfl
  | cons now rest ih =>
    obtain ⟨more, waiting', hpoll, -, -⟩ := h.poll now
    rw [pollAll, ih hpoll, framesQueued_poll h, queuedOver, List.length_append, Nat.add_assoc]

/-! ## What a run adds up to -/

theorem subset_attempts {s : Session (Recorded σ)} {left : List Departure} {waiting : List Frame}
    (h : Accounts s left waiting) (times : List Nat) :
    s.link.attempts ⊆ (s.pollAll times).link.attempts := by
  induction times generalizing s left waiting with
  | nil => exact List.Subset.refl _
  | cons now rest ih =>
    obtain ⟨more, waiting', hpoll, -, -⟩ := h.poll now
    obtain ⟨_, _, -, hattempts, -⟩ := poll_resumes h.queue h.waiting_size now
    refine List.Subset.trans ?_ (ih hpoll)
    rw [hattempts]
    exact List.subset_append_left ..

theorem refusedOver_eq_nil {s : Session (Recorded σ)} {left : List Departure}
    {waiting : List Frame} (h : Accounts s left waiting) {times : List Nat}
    (hsent : ∀ a ∈ (s.pollAll times).link.attempts, ¬ a.failed) : s.refusedOver times = [] := by
  induction times generalizing s left waiting with
  | nil => rfl
  | cons now rest ih =>
    obtain ⟨more, waiting', hpoll, -, -⟩ := h.poll now
    obtain ⟨_, _, -, hattempts, -⟩ := poll_resumes h.queue h.waiting_size now
    have hnone : s.refusedIn now = [] := by
      rw [refusedIn, List.map_eq_nil_iff, List.filter_eq_nil_iff]
      intro a ha
      apply hsent a (subset_attempts hpoll rest _)
      rw [hattempts]
      exact List.mem_append_right _ (List.mem_of_mem_drop ha)
    rw [refusedOver, hnone, List.nil_append, ih hpoll hsent]

/-- After any run of polls, failed ones among them, the bytes that the link has accepted and the
pending rest are the frames that the device has enqueued, whole and in order, but for those that are
still queued and those that the link refused. The pending rest is one of the frame taken last; it
goes first in the next poll, and where an attempt is not accepted whole no other follows. -/
theorem accepted_append_pending {link : σ} {config : Config} {deviceConfig : Device.Config}
    {entropy : Random.Stream} {s₀ : Session (Recorded σ)}
    (hcreate : create (Recorded.ofLink link) config deviceConfig entropy = .ok s₀)
    (times : List Nat) :
    let s := s₀.pollAll times
    (∃ (left : List Departure) (waiting : List Frame),
      s₀.queuedOver times = left.map (·.frame) ++ waiting ∧
      s.tx.toList = waiting.map Frame.wire ∧
      s₀.refusedOver times = (Departure.losses left).map Frame.wire ∧
      s.link.accepted ++ s.pending = Departure.stream left ∧
      (s.pending = [] ∨ ∃ before f, left = before ++ [⟨f, false⟩] ∧ s.pending <:+ f.wire ∧
        f.wireSize ≤ Frame.maxSize)) ∧
    s.device.stats.framesQueued = (s₀.queuedOver times).length ∧
    (∀ now, (s.pending ≠ [] → ∀ a ∈ (s.attemptsIn now).head?, a.data = s.pending) ∧
      ∀ a ∈ (s.attemptsIn now).dropLast, a.Whole) ∧
    ((∀ a ∈ s.link.attempts, ¬ a.failed) →
      s.link.accepted ++ s.pending ++ s.tx.toList.flatten =
        (s₀.queuedOver times).flatMap Frame.wire) := by
  have hstart := accounts_create hcreate
  obtain ⟨left, waiting, h, hframes, hrefused⟩ := hstart.pollAll times
  rw [List.nil_append] at h hframes
  refine ⟨⟨left, waiting, hframes, h.queue.toList_eq, hrefused, h.stream, ?_⟩, ?_,
    fun now => ?_, fun hsent => ?_⟩
  · rcases h.pending with hnil | ⟨before, f, rfl, hsuffix⟩
    · exact .inl hnil
    · exact .inr ⟨before, f, rfl, hsuffix, h.size f (by simp)⟩
  · have hnone : s₀.device.stats.framesQueued = 0 := by
      obtain ⟨device, -, hdevice, rfl⟩ := create_ok hcreate
      exact congrArg Device.Stats.framesQueued (Device.powerOn_ok hdevice).2.2
    rw [framesQueued_pollAll hstart, hnone, Nat.zero_add]
  · obtain ⟨more, rest, hresumes, -, -⟩ := poll_resumes h.queue h.waiting_size now
    exact ⟨hresumes.head_eq_held, hresumes.whole_of_mem_dropLast⟩
  · rw [refusedOver_eq_nil hstart hsent] at hrefused
    exact h.stream_eq hframes (List.map_eq_nil_iff.mp hrefused.symm)

/-- A link that answers each attempt to send in turn as told. Then it accepts everything. -/
structure ScriptedLink where
  inbound : Bytes
  results : List (Except LinkError Nat)

instance : Link ScriptedLink where
  name := "scripted"
  acquire l := (.ok (), l)
  attach l := (.ok (), l)
  receive l max := (.ok (l.inbound.take max), { l with inbound := l.inbound.drop max })
  send l data :=
    match l.results with
    | [] => (.ok data.length, l)
    | result :: results => (result.map (min data.length), { l with results })
  release l := l

-- Three pings. The reply to the first leaves in two parts, with a refusal between them, that to the
-- second is lost, and of that to the third thirteen bytes are pending.
theorem accepted_append_pending_refused :
    let ping (seq : UInt8) : Bytes := (⟨Command.ping, seq, []⟩ : Frame).wire
    let host : ScriptedLink :=
      { inbound := ping 7 ++ ping 8 ++ ping 9
        results := [.ok 8, .error .notConnected, .ok 64, .error .notConnected, .ok 5] }
    let config : Config := { rxCapacity := 64, txCapacity := 8195, maxFrameSize := 32 }
    ∃ s₀ : Session (Recorded ScriptedLink),
      create (Recorded.ofLink host) config {} (Random.Stream.ofSeed 1) = .ok s₀ ∧
      let times := [0, 10, 20, 30]
      let s := s₀.pollAll times
      s.pending.length = 13 ∧ s.device.stats.framesQueued = 3 ∧
      (∃ (left : List Departure) (waiting : List Frame),
        s₀.queuedOver times = left.map (·.frame) ++ waiting ∧
        s₀.refusedOver times = (Departure.losses left).map Frame.wire ∧
        (s₀.refusedOver times).length = 1 ∧
        s.link.accepted ++ s.pending = Departure.stream left) ∧
      ∀ now, ∀ a ∈ (s.attemptsIn now).head?, a.data = s.pending := by
  intro ping host config
  obtain ⟨s₀, hcreate, hpending, hrefused, hqueued⟩ : ∃ s₀ : Session (Recorded ScriptedLink),
      create (Recorded.ofLink host) config {} (Random.Stream.ofSeed 1) = .ok s₀ ∧
      (s₀.pollAll [0, 10, 20, 30]).pending.length = 13 ∧
      (s₀.refusedOver [0, 10, 20, 30]).length = 1 ∧
      (s₀.pollAll [0, 10, 20, 30]).device.stats.framesQueued = 3 :=
    ⟨_, rfl, by decide +kernel⟩
  obtain ⟨⟨left, waiting, hframes, -, hlosses, hstream, -⟩, -, hnext, -⟩ :=
    accepted_append_pending hcreate [0, 10, 20, 30]
  have hheld : (s₀.pollAll [0, 10, 20, 30]).pending ≠ [] := fun hnil => by
    rw [hnil] at hpending
    cases hpending
  exact ⟨s₀, hcreate, hpending, hqueued, ⟨left, waiting, hframes, hlosses, hrefused, hstream⟩,
    fun now => (hnext now).1 hheld⟩

end Session

end Acquisition
