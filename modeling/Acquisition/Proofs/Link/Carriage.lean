import Mathlib
import Acquisition.Proofs.Link.BlockPool
import Acquisition.Proofs.Link.Worker

/-!
# The bytes in the hands of a sending side

`BlockLog` is any sink with a record of the blocks that it was given. What a link over such a sink
has accepted is what was written, what the worker holds and what is ready, one behind the other
(`Carries`), and a step of the worker only moves the borders between them (`Carries.work`).
-/

namespace Acquisition

/-! ## A sink with a record -/

/-- A sink with a record of the blocks that it was given. -/
structure BlockLog (τ : Type) where
  sink : τ
  blocks : List Bytes

namespace BlockLog

variable {τ : Type}

def ofSink (sink : τ) : BlockLog τ := ⟨sink, []⟩

variable [BlockSink τ]

/-- A block that was not taken yet will be offered again, so it is not recorded. -/
def write (l : BlockLog τ) (data : Bytes) : SinkOutcome × BlockLog τ :=
  match BlockSink.write l.sink data with
  | (.blocked, sink) => (.blocked, { l with sink })
  | (outcome, sink) => (outcome, { sink, blocks := l.blocks ++ [data] })

instance : BlockSink (BlockLog τ) where
  write := write

/-- Being recorded changes nothing for a sink. -/
theorem write_sink (l : BlockLog τ) (data : Bytes) :
    ((write l data).1, (write l data).2.sink) = BlockSink.write l.sink data := by
  unfold write
  split <;> simp [*]

theorem write_fst (l : BlockLog τ) (data : Bytes) :
    (BlockSink.write l data).1 = (BlockSink.write l.sink data).1 :=
  congrArg Prod.fst (l.write_sink data)

theorem steady (h : BlockSink.Steady τ) : BlockSink.Steady (BlockLog τ) := fun l data =>
  l.write_fst data ▸ h l.sink data

theorem prompt (h : BlockSink.Prompt τ) : BlockSink.Prompt (BlockLog τ) := fun l data =>
  l.write_fst data ▸ h l.sink data

theorem blocks_of_write {l l' : BlockLog τ} {data : Bytes} {outcome : SinkOutcome}
    (h : write l data = (outcome, l')) (houtcome : outcome ≠ .blocked) :
    l'.blocks = l.blocks ++ [data] := by
  unfold write at h
  split at h
  · exact absurd (Prod.mk.inj h).1.symm houtcome
  · rw [← (Prod.mk.inj h).2]

end BlockLog

/-- The link without the record. -/
def ChunkStream.unrecorded {τ : Type} (s : ChunkStream (BlockLog τ)) : ChunkStream τ :=
  { s with sink := s.sink.sink }

/-- A worker does the same for a sink that is not recorded. No other step of a link looks at it. -/
theorem ChunkStream.unrecorded_work? {τ : Type} [BlockSink τ] (s : ChunkStream (BlockLog τ)) :
    s.work?.map unrecorded = s.unrecorded.work? := by
  have hunrecorded : s.unrecorded.worker = s.worker := rfl
  cases hworker : s.worker with
  | idle =>
    simp only [work?, hunrecorded, hworker, Option.map_map]
    rfl
  | holding index data =>
    have hlog : BlockSink.write s.sink data = s.sink.write data := rfl
    have hsink : s.unrecorded.sink = s.sink.sink := rfl
    rcases hwrite : BlockSink.write s.sink.sink data with ⟨outcome, sink⟩
    cases outcome <;>
      simp only [work?, hunrecorded, hworker, hlog, hsink, BlockLog.write, hwrite] <;> rfl
  | finished index =>
    simp only [work?, hunrecorded, hworker]
    rfl
  | absent | dead | lost => simp [work?, hunrecorded, hworker]

/-! ## What was accepted -/

namespace WorkerState

/-- The block that the worker has to give back. -/
def taken : WorkerState → List Nat
  | .holding index _ | .finished index => [index]
  | .absent | .idle | .dead | .lost => []

/-- What the worker has taken and not written. -/
def held : WorkerState → Bytes
  | .holding _ data => data
  | .absent | .idle | .finished _ | .dead | .lost => []

end WorkerState

namespace ChunkStream

variable {τ : Type}

/-- The accepted bytes were written, then come those in the worker's hands, then those ready. -/
structure Carries (s : ChunkStream (BlockLog τ)) (accepted : Bytes) : Prop where
  stocked : Chunk.Stocked s.outbox.pool s.outbox.chunkBytes s.worker.taken
  holding : ∀ index data, s.worker = .holding index data →
    data = s.outbox.pool.block index ∧ Chunk.Fits data
  written : ∀ block ∈ s.sink.blocks, Chunk.Fits block
  order : s.sink.blocks.flatten ++ s.worker.held ++ s.outbox.pool.filled.flatten = accepted

variable {s next : ChunkStream (BlockLog τ)} {accepted : Bytes}

namespace Carries

theorem ofSink (sink : τ) (receiveBytes sendBytes : Nat) :
    (ChunkStream.ofSink (BlockLog.ofSink sink) receiveBytes sendBytes).Carries [] where
  stocked := .empty sendBytes
  holding := by simp [ChunkStream.ofSink]
  written := by simp [ChunkStream.ofSink, BlockLog.ofSink]
  order := rfl

theorem setChunkBytes (h : s.Carries accepted) (receiveBytes sendBytes : Nat) :
    (s.setChunkBytes receiveBytes sendBytes).Carries accepted :=
  { h with stocked := h.stocked.resize sendBytes }

/-- A queued piece comes last. -/
theorem pushChunk? (h : s.Carries accepted) {data : Bytes} {outbox : Outbox} (hdata : data ≠ [])
    (hpush : s.outbox.pushChunk? data = some outbox) :
    ({ s with outbox } : ChunkStream (BlockLog τ)).Carries
      (accepted ++ data.take s.outbox.chunkBytes) := by
  obtain ⟨pool, hpool, rfl⟩ := Option.map_eq_some_iff.mp hpush
  obtain ⟨hstocked, hfilled, hkept⟩ := h.stocked.push? hdata hpool
  refine ⟨hstocked, fun index data hw => ?_, h.written, ?_⟩
  · obtain ⟨hheld, hfits⟩ := h.holding index data hw
    refine ⟨hheld.trans (hkept index ?_).symm, hfits⟩
    rw [show s.worker = _ from hw]
    exact List.mem_singleton_self index
  · simp only [← h.order, hfilled, List.flatten_append, List.append_assoc, List.flatten_cons,
      List.flatten_nil, List.append_nil]

theorem written_eq (h : s.Carries accepted) (hheld : s.worker.held = [])
    (hready : s.outbox.pool.ready = []) : s.sink.blocks.flatten = accepted := by
  have horder := h.order
  rw [hheld, BlockPool.filled, hready] at horder
  simpa using horder

/-- A worker that has nothing in its hands may go. -/
theorem exit (h : s.Carries accepted) (hidle : s.worker = .idle) :
    ({ s with worker := .absent } : ChunkStream (BlockLog τ)).Carries accepted := by
  have hstocked := h.stocked
  have horder := h.order
  rw [hidle] at hstocked horder
  exact ⟨hstocked, by simp, h.written, horder⟩

/-- A worker may come, and the pool be reset, when nothing is ready. -/
theorem acquire (h : s.Carries accepted) (habsent : s.worker = .absent)
    (hready : s.outbox.pool.ready = []) : s.acquire.2.Carries accepted := by
  have horder := h.order
  rw [habsent, BlockPool.filled, hready] at horder
  rw [acquire_of_absent habsent]
  exact ⟨h.stocked.reset, by simp, h.written, horder⟩

variable [BlockSink τ]

/-- The worker moves a block on, from the ready ones to its hands and from there to the sink. -/
theorem work (hsteady : BlockSink.Steady τ) (h : s.Carries accepted) (hwork : s.Work next) :
    next.Carries accepted := by
  have hstocked := h.stocked
  have horder := h.order
  cases hwork with
  | @take index pool hidle htake =>
    rw [hidle] at hstocked horder
    obtain ⟨hstocked, hfilled, hfits⟩ := hstocked.takeReady? htake
    refine ⟨hstocked, ?_, h.written, ?_⟩
    · rintro _ _ ⟨⟩
      exact ⟨rfl, hfits⟩
    · rw [← horder, hfilled]
      simp [WorkerState.held]
  | @write index data outcome sink hholding hwrite houtcome =>
    have hblocks := BlockLog.blocks_of_write hwrite (by rcases houtcome with rfl | rfl <;> nofun)
    rw [hholding] at hstocked horder
    refine ⟨hstocked, by simp, ?_, ?_⟩
    · rw [hblocks, List.forall_mem_append, List.forall_mem_singleton]
      exact ⟨h.written, (h.holding index data hholding).2⟩
    · rw [← horder, hblocks]
      simp [WorkerState.held]
  | crash hholding hwrite =>
    exact (BlockLog.steady hsteady _ _ (congrArg Prod.fst hwrite)).elim
  | giveBack hfinished =>
    rw [hfinished] at hstocked horder
    obtain ⟨hstocked, hfilled⟩ := hstocked.giveBack
    refine ⟨hstocked, by simp, h.written, ?_⟩
    rw [← horder, hfilled]
    rfl

end Carries

end ChunkStream

end Acquisition
