import Mathlib
import Acquisition.Link.ChunkStream

/-!
# The worker of a link of blocks

What one step of the worker can be, and what sending leaves alone: all of it happens in the outbox
and at the sink, so what was received stays as it is.
-/

namespace Acquisition

/-- A sink takes every block or fails, and never takes the worker with it. -/
def BlockSink.Steady (τ : Type) [BlockSink τ] : Prop :=
  ∀ (sink : τ) (data : Bytes), (BlockSink.write sink data).1 ≠ .crashed

/-- A sink never leaves a block for later. -/
def BlockSink.Prompt (τ : Type) [BlockSink τ] : Prop :=
  ∀ (sink : τ) (data : Bytes), (BlockSink.write sink data).1 ≠ .blocked

namespace ChunkStream

variable {τ : Type} [BlockSink τ]

inductive Work (s : ChunkStream τ) : ChunkStream τ → Prop
  | take {index : Nat} {pool : BlockPool} (hidle : s.worker = .idle)
      (htake : s.outbox.pool.takeReady? = some (index, pool)) :
      Work s { s with
        outbox := { s.outbox with pool }
        worker := .holding index (pool.block index) }
  | write {index : Nat} {data : Bytes} {outcome : SinkOutcome} {sink : τ}
      (hholding : s.worker = .holding index data)
      (hwrite : BlockSink.write s.sink data = (outcome, sink))
      (houtcome : outcome = .written ∨ outcome = .failed) :
      Work s { s with sink, worker := .finished index }
  | crash {index : Nat} {data : Bytes} {sink : τ} (hholding : s.worker = .holding index data)
      (hwrite : BlockSink.write s.sink data = (.crashed, sink)) :
      Work s { s with sink, worker := .dead }
  | giveBack {index : Nat} (hfinished : s.worker = .finished index) :
      Work s { s with
        outbox := { s.outbox with pool := s.outbox.pool.giveBack index }
        worker := .idle }

variable {s next : ChunkStream τ}

theorem work_of_work? (h : s.work? = some next) : s.Work next := by
  unfold work? at h
  split at h
  case h_1 hidle =>
    obtain ⟨⟨index, pool⟩, htake, rfl⟩ := Option.map_eq_some_iff.mp h
    exact .take hidle htake
  case h_2 hholding =>
    split at h
    case h_1 => cases h
    case h_2 hwrite => exact Option.some.inj h ▸ .write hholding hwrite (.inl rfl)
    case h_3 hwrite => exact Option.some.inj h ▸ .write hholding hwrite (.inr rfl)
    case h_4 hwrite => exact Option.some.inj h ▸ .crash hholding hwrite
  case h_3 hfinished => exact Option.some.inj h ▸ .giveBack hfinished
  all_goals cases h

theorem Work.present (h : s.Work next) :
    s.worker ≠ .absent ∧ next.worker ≠ .absent ∧ next.worker ≠ .lost := by
  cases h <;> simp [*]

theorem Work.ne_dead (hsteady : BlockSink.Steady τ) (h : s.Work next) : next.worker ≠ .dead := by
  cases h with
  | crash hholding hwrite => exact (hsteady _ _ (congrArg Prod.fst hwrite)).elim
  | take | write | giveBack => simp

/-! ## What sending leaves alone -/

theorem Work.inbox (h : s.Work next) : next.inbox = s.inbox := by
  cases h <;> rfl

theorem inbox_workFor (steps : Nat) (s : ChunkStream τ) : (workFor steps s).inbox = s.inbox := by
  induction steps generalizing s with
  | zero => rfl
  | succ steps ih =>
    unfold workFor
    split
    · rfl
    case h_2 hwork => rw [ih, (work_of_work? hwork).inbox]

theorem inbox_settle (s : ChunkStream τ) : s.settle.inbox = s.inbox :=
  inbox_workFor ..

theorem inbox_sendBlocks (s : ChunkStream τ) (data : Bytes) :
    (s.sendBlocks data).2.inbox = s.inbox := by
  fun_induction sendBlocks s data with
  | case1 => rfl
  | case2 => rfl
  | case3 s data hdata size outbox hpush n next hnext ih =>
    rw [hnext] at ih
    exact ih.trans (inbox_settle _)

theorem inbox_send (s : ChunkStream τ) (data : Bytes) : (s.send data).2.inbox = s.inbox := by
  have hsent : (s.settle.sendBlocks data).2.inbox = s.inbox :=
    (inbox_sendBlocks ..).trans s.inbox_settle
  unfold send
  split
  · rfl
  · rfl
  · dsimp only
    split <;> exact hsent

omit [BlockSink τ] in
theorem acquire_of_absent (h : s.worker = .absent) : s.acquire.2 = { s with
    inbox := s.inbox.reset
    outbox := { s.outbox with pool := s.outbox.pool.reset }
    worker := .idle } := by
  simp only [acquire, h]

omit [BlockSink τ] in
theorem acquire_of_ne_absent (h : s.worker ≠ .absent) : s.acquire.2 = s := by
  unfold acquire
  split
  · rfl
  case h_2 habsent => exact absurd habsent h
  · rfl

theorem inbox_release (s : ChunkStream τ) : s.release.inbox = s.inbox.reset := by
  unfold release
  simp only [inbox_settle]

end ChunkStream

end Acquisition
