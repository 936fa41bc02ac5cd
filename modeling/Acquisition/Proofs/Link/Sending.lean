import Mathlib
import Acquisition.Proofs.Link.Carriage

/-!
# What a link of blocks sends

A `Drain` is a link whose session and worker act at the same time: between two blocks of a send the
worker may take a block, write it and give it back, and a send may give up at any point. What the
sends have accepted has been written, is in the worker's hands, or is ready, in this order and once
each, however often the link is released and acquired again (`run_of_steady`).
-/

namespace Acquisition

/-- What the session is doing. -/
inductive Caller
  | idle
  /-- So much of the data has been queued. -/
  | sending (data queued : Bytes) (count : Nat)
  /-- It waits for the worker to end. -/
  | releasing

/-- A send that has returned. -/
structure Sent where
  data : Bytes
  queued : Bytes
  result : Except LinkError Nat

/-- A prefix was queued if the send succeeded, and nothing if it failed. -/
def Sent.Sound (s : Sent) : Prop :=
  match s.result with
  | .ok count => count ≤ s.data.length ∧ s.queued = s.data.take count
  | .error _ => s.queued = []

def Caller.queued : Caller → Bytes
  | .sending _ queued _ => queued
  | .idle | .releasing => []

structure Drain (τ : Type) where
  stream : ChunkStream (BlockLog τ)
  /-- The worker is to end when nothing is ready. -/
  stopping : Bool
  caller : Caller
  /-- The sends that have returned, in order. -/
  sent : List Sent

namespace Drain

inductive Event
  | acquire
  | send (data : Bytes)
  /-- The next piece of a send is queued, if a block is free. -/
  | enqueue
  /-- A send returns, whether or not it has come to the end of its data. -/
  | finish
  /-- The worker takes a block, writes it or gives it back, if it can. -/
  | work
  /-- The worker ends, if it is to end and has nothing to do. -/
  | exit
  | release
  /-- The release returns, if the worker has ended. -/
  | released
  | setChunkBytes (receiveBytes sendBytes : Nat)

variable {τ : Type}

def start (sink : τ) (receiveBytes sendBytes : Nat) : Drain τ where
  stream := ChunkStream.ofSink (BlockLog.ofSink sink) receiveBytes sendBytes
  stopping := false
  caller := .idle
  sent := []

/-- All that the sends have queued. -/
def accepted (d : Drain τ) : Bytes := d.sent.flatMap Sent.queued ++ d.caller.queued

/-- A send returns. -/
def answer (d : Drain τ) (data queued : Bytes) (result : Except LinkError Nat) : Drain τ :=
  { d with caller := .idle, sent := d.sent ++ [⟨data, queued, result⟩] }

def send (d : Drain τ) (data : Bytes) : Drain τ :=
  match d.caller with
  | .idle =>
    match d.stream.worker with
    | .absent | .lost => d.answer data [] (.error .notConnected)
    | _ => { d with caller := .sending data [] 0 }
  | .sending .. | .releasing => d

def enqueue (d : Drain τ) : Drain τ :=
  match d.caller with
  | .sending data queued count =>
    if data.length ≤ count then d
    else if d.stopping then d.answer data queued (.error .shutdown)
    else
      match d.stream.outbox.pushChunk? (data.drop count) with
      | none => d
      | some outbox =>
        let piece := (data.drop count).take d.stream.outbox.chunkBytes
        { d with
          stream := { d.stream with outbox }
          caller := .sending data (queued ++ piece) (count + piece.length) }
  | .idle | .releasing => d

def finish (d : Drain τ) : Drain τ :=
  match d.caller with
  | .sending data queued count =>
    if count = 0 ∧ data ≠ [] then
      d.answer data queued (.error (.system ⟨.wouldBlock, "no tx blocks available"⟩))
    else d.answer data queued (.ok count)
  | .idle | .releasing => d

def acquire (d : Drain τ) : Drain τ :=
  match d.caller with
  | .idle =>
    { d with
      stream := d.stream.acquire.2
      stopping := if d.stream.worker = .absent then false else d.stopping }
  | .sending .. | .releasing => d

/-- What is ready comes first: a worker that is to end still takes it. -/
def exit (d : Drain τ) : Drain τ :=
  if d.stream.worker = .idle ∧ d.stream.outbox.pool.ready = [] ∧ d.stopping then
    { d with stream := { d.stream with worker := .absent } }
  else d

def release (d : Drain τ) : Drain τ :=
  match d.caller with
  | .idle =>
    match d.stream.worker with
    | .absent | .lost => { d with caller := .releasing }
    | _ => { d with caller := .releasing, stopping := true }
  | .sending .. | .releasing => d

def released (d : Drain τ) : Drain τ :=
  match d.caller with
  | .releasing =>
    match d.stream.worker with
    | .absent | .lost =>
      { d with stream := { d.stream with inbox := d.stream.inbox.reset }, caller := .idle }
    | .dead =>
      { d with
        stream := { d.stream with inbox := d.stream.inbox.reset, worker := .lost }
        caller := .idle }
    | .idle | .holding .. | .finished _ => d
  | .idle | .sending .. => d

/-! ## What every step keeps -/

/-- The worker is only to end while the session waits for it, so no block is queued for a worker that
will not come back for it. -/
structure Sound (d : Drain τ) : Prop where
  carries : d.stream.Carries d.accepted
  alive : d.stream.worker ≠ .dead ∧ d.stream.worker ≠ .lost
  drained : d.stream.worker = .absent → d.stream.outbox.pool.ready = []
  stopping : d.stopping → d.caller = .releasing ∨ d.stream.worker = .absent
  releasing : d.caller = .releasing → d.stopping ∨ d.stream.worker = .absent
  sending : ∀ data queued count, d.caller = .sending data queued count →
    d.stream.worker ≠ .absent ∧ count ≤ data.length ∧ queued = data.take count
  sent : ∀ s ∈ d.sent, s.Sound

variable {d : Drain τ}

namespace Sound

theorem start (sink : τ) (receiveBytes sendBytes : Nat) :
    (Drain.start sink receiveBytes sendBytes).Sound where
  carries := .ofSink sink receiveBytes sendBytes
  alive := by simp [Drain.start, ChunkStream.ofSink]
  drained _ := rfl
  stopping := by simp [Drain.start]
  releasing := by simp [Drain.start]
  sending := by simp [Drain.start]
  sent := by simp [Drain.start]

/-- A worker that has ended has left nothing. -/
theorem written (h : d.Sound) (habsent : d.stream.worker = .absent) :
    d.stream.sink.blocks.flatten = d.accepted :=
  h.carries.written_eq (by rw [habsent]; rfl) (h.drained habsent)

/-- While a send is under way, the worker is not to end. -/
theorem not_stopping (h : d.Sound) {data queued : Bytes} {count : Nat}
    (hsending : d.caller = .sending data queued count) : d.stopping = false := by
  refine Bool.eq_false_iff.mpr fun hstop => ?_
  rcases h.stopping hstop with hreleasing | habsent
  · simp [hsending] at hreleasing
  · exact (h.sending _ _ _ hsending).1 habsent

theorem answer (h : d.Sound) {data queued : Bytes} {result : Except LinkError Nat}
    (hqueued : d.caller.queued = queued) (hstopping : d.stopping → d.stream.worker = .absent)
    (hsound : Sent.Sound ⟨data, queued, result⟩) : (d.answer data queued result).Sound where
  carries := by
    have haccepted : (d.answer data queued result).accepted = d.accepted := by
      rw [accepted, accepted, hqueued]
      simp [Drain.answer, Caller.queued]
    exact haccepted ▸ h.carries
  alive := h.alive
  drained := h.drained
  stopping hstop := .inr (hstopping hstop)
  releasing := by simp [Drain.answer]
  sending := by simp [Drain.answer]
  sent := by
    simp only [Drain.answer, List.forall_mem_append, List.forall_mem_singleton]
    exact ⟨h.sent, hsound⟩

theorem send (h : d.Sound) (data : Bytes) : (d.send data).Sound := by
  unfold Drain.send
  split
  case h_1 hidle =>
    have hstopping (hstop : d.stopping) : d.stream.worker = .absent :=
      (h.stopping hstop).resolve_left (by simp [hidle])
    have hqueued : d.caller.queued = [] := by rw [hidle]; rfl
    split
    case h_1 | h_2 => exact h.answer hqueued hstopping rfl
    case h_3 habsent _ =>
      have hcarries := h.carries
      rw [accepted, hidle] at hcarries
      refine { h with
        carries := hcarries
        stopping := fun hstop => .inr (hstopping hstop)
        releasing := by simp
        sending := ?_ }
      rintro _ _ _ ⟨⟩
      exact ⟨habsent, Nat.zero_le _, rfl⟩
  all_goals exact h

theorem enqueue (h : d.Sound) : d.enqueue.Sound := by
  unfold Drain.enqueue
  split
  case h_1 data queued count hsending =>
    obtain ⟨hpresent, hcount, hqueued⟩ := h.sending data queued count hsending
    split
    case isTrue => exact h
    case isFalse hmore =>
    -- A send never finds that the worker is to end.
    rw [if_neg (by simp [h.not_stopping hsending])]
    split
    case h_1 => exact h
    case h_2 outbox hpush =>
      have hrest : data.drop count ≠ [] := fun hnil => hmore (List.drop_eq_nil_iff.mp hnil)
      have hcarries := h.carries.pushChunk? hrest hpush
      rw [accepted, hsending, List.append_assoc] at hcarries
      refine { h with
        carries := hcarries
        drained := fun habsent => absurd habsent hpresent
        stopping := fun hstop => .inr ?_
        releasing := by simp
        sending := ?_ }
      · simp [h.not_stopping hsending] at hstop
      · rintro _ _ _ ⟨⟩
        refine ⟨hpresent, Chunk.add_piece_le _ hcount, ?_⟩
        rw [hqueued, Chunk.take_add_piece]
  all_goals exact h

theorem finish (h : d.Sound) : d.finish.Sound := by
  unfold Drain.finish
  split
  case h_1 data queued count hsending =>
    obtain ⟨hpresent, hcount, hqueued⟩ := h.sending data queued count hsending
    have hstopping (hstop : d.stopping) : d.stream.worker = .absent := by
      simp [h.not_stopping hsending] at hstop
    have hcaller : d.caller.queued = queued := by rw [hsending]; rfl
    split
    case isTrue hnone =>
      refine h.answer hcaller hstopping ?_
      simp [Sent.Sound, hqueued, hnone.1]
    case isFalse => exact h.answer hcaller hstopping ⟨hcount, hqueued⟩
  all_goals exact h

theorem acquire (h : d.Sound) : d.acquire.Sound := by
  unfold Drain.acquire
  split
  case h_1 hidle =>
    by_cases habsent : d.stream.worker = .absent
    · have hcarries := h.carries.acquire habsent (h.drained habsent)
      rw [if_pos habsent]
      have hacquire := ChunkStream.acquire_of_absent habsent
      refine ⟨hcarries, ?_, ?_, by simp, by simp [hidle], by simp [hidle], h.sent⟩ <;>
        simp [hacquire]
    · rw [if_neg habsent, ChunkStream.acquire_of_ne_absent habsent]
      exact h
  all_goals exact h

theorem exit (h : d.Sound) : d.exit.Sound := by
  unfold Drain.exit
  split
  case isTrue hend =>
    obtain ⟨hidle, hready, hstop⟩ := hend
    refine ⟨h.carries.exit hidle, by simp, fun _ => hready, fun _ => .inr rfl, fun _ => .inr rfl,
      ?_, h.sent⟩
    intro data queued count hsending
    simp [h.not_stopping hsending] at hstop
  case isFalse => exact h

theorem release (h : d.Sound) : d.release.Sound := by
  unfold Drain.release
  split
  case h_1 hidle =>
    have hcarries := h.carries
    rw [accepted, hidle] at hcarries
    split
    case h_1 habsent => exact { h with
      carries := hcarries
      stopping := fun _ => .inl rfl
      releasing := fun _ => .inr habsent
      sending := by simp }
    case h_2 hlost => exact absurd hlost h.alive.2
    case h_3 => exact { h with
      carries := hcarries
      stopping := fun _ => .inl rfl
      releasing := fun _ => .inl rfl
      sending := by simp }
  all_goals exact h

theorem released (h : d.Sound) : d.released.Sound := by
  unfold Drain.released
  split
  case h_1 hreleasing =>
    split
    case h_1 habsent =>
      have hcarries := h.carries
      rw [accepted, hreleasing] at hcarries
      exact { h with
        carries := { hcarries with }
        stopping := fun _ => .inr habsent
        releasing := by simp
        sending := by simp }
    case h_2 hlost => exact absurd hlost h.alive.2
    case h_3 hdead => exact absurd hdead h.alive.1
    all_goals exact h
  all_goals exact h

/-- A release returns only after the worker has ended. -/
theorem absent_of_released (h : d.Sound) (hreleasing : d.caller = .releasing)
    (hreturned : d.released.caller = .idle) : d.released.stream.worker = .absent := by
  unfold Drain.released at hreturned ⊢
  simp only [hreleasing] at hreturned ⊢
  split at hreturned
  case h_1 habsent => simp only [habsent]
  case h_2 hlost => exact absurd hlost h.alive.2
  case h_3 hdead => exact absurd hdead h.alive.1
  all_goals exact absurd (hreleasing.symm.trans hreturned) (by simp)

end Sound

variable [BlockSink τ]

theorem Sound.work (hsteady : BlockSink.Steady τ)
    (h : d.Sound) {next : ChunkStream (BlockLog τ)} (hwork : d.stream.Work next) :
    ({ d with stream := next } : Drain τ).Sound := by
  obtain ⟨hpresent, habsent, hlost⟩ := hwork.present
  refine ⟨h.carries.work hsteady hwork, ⟨hwork.ne_dead (BlockLog.steady hsteady), hlost⟩,
    fun h => absurd h habsent, fun hstop => ?_, fun hreleasing => ?_,
    fun data queued count hsending => ?_, h.sent⟩
  · exact (h.stopping hstop).imp_right fun h => absurd h hpresent
  · exact (h.releasing hreleasing).imp_right fun h => absurd h hpresent
  · exact ⟨habsent, (h.sending data queued count hsending).2⟩

def step (d : Drain τ) : Event → Drain τ
  | .acquire => d.acquire
  | .send data => d.send data
  | .enqueue => d.enqueue
  | .finish => d.finish
  | .work => { d with stream := d.stream.work?.getD d.stream }
  | .exit => d.exit
  | .release => d.release
  | .released => d.released
  | .setChunkBytes receiveBytes sendBytes =>
    { d with stream := d.stream.setChunkBytes receiveBytes sendBytes }

def run (d : Drain τ) (events : List Event) : Drain τ := events.foldl step d

theorem Sound.step (hsteady : BlockSink.Steady τ)
    (h : d.Sound) (e : Event) : (d.step e).Sound := by
  cases e with
  | acquire => exact h.acquire
  | send data => exact h.send data
  | enqueue => exact h.enqueue
  | finish => exact h.finish
  | work =>
    cases hwork : d.stream.work? with
    | none => simpa only [Drain.step, hwork, Option.getD_none] using h
    | some next =>
      simpa only [Drain.step, hwork, Option.getD_some] using
        h.work hsteady (ChunkStream.work_of_work? hwork)
  | exit => exact h.exit
  | release => exact h.release
  | released => exact h.released
  | setChunkBytes receiveBytes sendBytes =>
    exact { h with carries := h.carries.setChunkBytes receiveBytes sendBytes }

theorem Sound.run (hsteady : BlockSink.Steady τ)
    (h : d.Sound) (events : List Event) : (d.run events).Sound := by
  induction events generalizing d with
  | nil => exact h
  | cons e rest ih => exact ih (h.step hsteady e)

/-- A sink that fails on every other block. -/
structure FlakySink where
  count : Nat

instance : BlockSink FlakySink where
  write sink _ := (if sink.count % 2 = 0 then .written else .failed, ⟨sink.count + 1⟩)

theorem steady_flakySink : BlockSink.Steady FlakySink := by
  intro sink data
  change (if sink.count % 2 = 0 then SinkOutcome.written else .failed) ≠ .crashed
  split <;> nofun

end Drain

end Acquisition
