import Mathlib
import Acquisition.Proofs.Link.Sending

/-!
# The functions of a link as runs of a drain

`ChunkStream.send` and `ChunkStream.release` let the worker go on as far as it can. Each of them is
one way in which the steps of a `Drain` can follow each other (`run_send`, `run_release`), and the
worker is given enough steps to come to a halt (`work?_settle`). So a release returns unless the
sink blocks for good (`exists_released`).
-/

namespace Acquisition

namespace ChunkStream

variable {τ : Type} [BlockSink τ] {s next : ChunkStream τ}

/-! ## Coming to a halt -/

/-- How many steps the worker can take at most. -/
def workLeft (s : ChunkStream τ) : Nat :=
  3 * s.outbox.pool.ready.length +
    match s.worker with
    | .holding .. => 2
    | .finished _ => 1
    | .absent | .idle | .dead | .lost => 0

theorem Work.workLeft_lt (h : s.Work next) : next.workLeft < s.workLeft := by
  cases h with
  | take hidle htake =>
    obtain ⟨ready, hready, rfl⟩ := BlockPool.takeReady?_eq_some htake
    simp only [workLeft, hidle, hready, List.length_cons]
    omega
  | write hholding => simp [workLeft, hholding]
  | crash hholding => simp [workLeft, hholding]
  | giveBack hfinished => simp [workLeft, hfinished, BlockPool.giveBack]

theorem work?_workFor {steps : Nat} (h : s.workLeft ≤ steps) : (workFor steps s).work? = none := by
  induction steps generalizing s with
  | zero =>
    refine Option.eq_none_iff_forall_not_mem.mpr fun next hnext => ?_
    have hless : next.workLeft < s.workLeft := (work_of_work? hnext).workLeft_lt
    omega
  | succ steps ih =>
    unfold workFor
    split
    case h_1 hnone => exact hnone
    case h_2 next hnext =>
      have := (work_of_work? hnext).workLeft_lt
      exact ih (by omega)

/-- The worker has stopped because it can take no further step. -/
theorem work?_settle (s : ChunkStream τ) : s.settle.work? = none := by
  refine work?_workFor ?_
  unfold workLeft
  split <;> omega

theorem ready_eq_nil (hidle : s.worker = .idle) (h : s.work? = none) :
    s.outbox.pool.ready = [] := by
  simp only [work?, hidle, Option.map_eq_none_iff] at h
  exact BlockPool.takeReady?_eq_none.mp h

/-- A worker that nothing blocks has ended, or waits for a block to be ready. -/
theorem worker_of_work?_eq_none (hprompt : BlockSink.Prompt τ) (h : s.work? = none) :
    (s.worker = .idle ∧ s.outbox.pool.ready = []) ∨ s.worker = .absent ∨ s.worker = .dead ∨
      s.worker = .lost := by
  cases hworker : s.worker with
  | idle => exact .inl ⟨rfl, ready_eq_nil hworker h⟩
  | holding index data =>
    simp only [work?, hworker] at h
    split at h
    case h_1 hwrite => exact (hprompt _ _ (congrArg Prod.fst hwrite)).elim
    all_goals cases h
  | finished index => simp [work?, hworker] at h
  | absent | dead | lost => simp

theorem settle_of_absent (h : s.worker = .absent) : s.settle = s := by
  have hnone : s.work? = none := by simp only [work?, h]
  simp only [settle, Nat.mul_add, workFor, hnone]

theorem settle_of_release (h : s.release.worker = .absent) :
    s.settle.worker = .idle ∨ s.settle.worker = .absent := by
  simp only [release] at h
  split at h
  case h_1 hidle => exact .inl hidle
  case h_2 => cases h
  case h_3 => exact .inr h

theorem release_of_settle (h : s.settle.worker = .idle ∨ s.settle.worker = .absent) :
    s.release = { s.settle with inbox := s.settle.inbox.reset, worker := .absent } := by
  rcases h with h | h <;> simp only [release, h]

theorem send_of_worker (habsent : s.worker ≠ .absent) (hlost : s.worker ≠ .lost) (data : Bytes) :
    s.send data =
      let (n, next) := s.settle.sendBlocks data
      if n = 0 ∧ data ≠ [] then
        (.error (.system ⟨.wouldBlock, "no tx blocks available"⟩), next)
      else (.ok n, next) := by
  unfold send
  split
  case h_1 h => exact absurd h habsent
  case h_2 h => exact absurd h hlost
  case h_3 => rfl

end ChunkStream

namespace Drain

variable {τ : Type} [BlockSink τ] {d : Drain τ}

theorem run_append (d : Drain τ) (first second : List Event) :
    d.run (first ++ second) = (d.run first).run second :=
  List.foldl_append

theorem run_workFor (steps : Nat) (d : Drain τ) :
    ∃ works, d.run (List.replicate works .work) =
      { d with stream := ChunkStream.workFor steps d.stream } := by
  induction steps generalizing d with
  | zero => exact ⟨0, rfl⟩
  | succ steps ih =>
    unfold ChunkStream.workFor
    split
    case h_1 => exact ⟨0, rfl⟩
    case h_2 next hnext =>
      obtain ⟨works, hworks⟩ := ih (d.step .work)
      have hstep : d.step .work = { d with stream := next } := by simp [step, hnext]
      refine ⟨works + 1, ?_⟩
      change (d.step .work).run _ = _
      rw [hworks, hstep]

theorem run_settle (d : Drain τ) :
    ∃ works, d.run (List.replicate works .work) = { d with stream := d.stream.settle } :=
  run_workFor _ d

/-- Queueing block after block, with the worker at a halt in between. -/
theorem run_sendBlocks {data queued rest : Bytes} {count : Nat} {s : ChunkStream (BlockLog τ)}
    (d : Drain τ) (hs : d.stream = s) (hstopping : d.stopping = false)
    (hsending : d.caller = .sending data queued count) (hrest : data.drop count = rest) :
    ∃ events queued', d.run events = { d with
      stream := (s.sendBlocks rest).2
      caller := .sending data queued' (count + (s.sendBlocks rest).1) } := by
  fun_induction ChunkStream.sendBlocks s rest generalizing d queued count with
  | case1 s => exact ⟨[], queued, by simp [run, ← hs, ← hsending]⟩
  | case2 s rest hne hnone => exact ⟨[], queued, by simp [run, ← hs, ← hsending]⟩
  | case3 s rest hne size outbox hpush n last hlast =>
    rename_i ih
    have hmore : ¬ data.length ≤ count := fun hle => hne (hrest ▸ List.drop_eq_nil_iff.mpr hle)
    have henqueue : d.enqueue = { d with
        stream := { s with outbox }
        caller := .sending data (queued ++ rest.take size) (count + (rest.take size).length) } := by
      simp only [enqueue, hsending, hmore, hstopping, hs, hrest, hpush, if_false,
        Bool.false_eq_true]
      rfl
    obtain ⟨works, hworks⟩ := run_settle d.enqueue
    rw [henqueue] at hworks
    have hdrop : data.drop (count + (rest.take size).length) = rest.drop size :=
      hrest ▸ Chunk.drop_add_piece ..
    obtain ⟨events, queued', hevents⟩ := ih { d with
      stream := ChunkStream.settle { s with outbox }
      caller := .sending data (queued ++ rest.take size) (count + (rest.take size).length) }
      rfl hstopping rfl hdrop
    refine ⟨.enqueue :: (List.replicate works .work ++ events), queued', ?_⟩
    change d.enqueue.run (List.replicate works .work ++ events) = _
    rw [run_append, henqueue, hworks, hevents, hlast, Nat.add_assoc]

omit [BlockSink τ] in
theorem send_of_worker (hidle : d.caller = .idle) (habsent : d.stream.worker ≠ .absent)
    (hlost : d.stream.worker ≠ .lost) (data : Bytes) :
    d.send data = { d with caller := .sending data [] 0 } := by
  cases hworker : d.stream.worker with
  | absent => exact absurd hworker habsent
  | lost => exact absurd hworker hlost
  | idle | holding | finished | dead => simp only [send, hidle, hworker]

/-- A send of the link is one in the course of which the worker is always at a halt. -/
theorem run_send (h : d.Sound) (hidle : d.caller = .idle) (data : Bytes) :
    ∃ events queued, d.run events = { d with
      stream := (Link.send d.stream data).2
      sent := d.sent ++ [⟨data, queued, (Link.send d.stream data).1⟩] } := by
  by_cases habsent : d.stream.worker = .absent
  · refine ⟨[.send data], [], ?_⟩
    change d.send data = { d with
      stream := (d.stream.send data).2, sent := d.sent ++ [⟨data, [], (d.stream.send data).1⟩] }
    simp only [send, ChunkStream.send, hidle, habsent, answer]
  · have hstopping : d.stopping = false := Bool.eq_false_iff.mpr fun hstop =>
      (h.stopping hstop).elim (by simp [hidle]) habsent
    have hstart := send_of_worker hidle habsent h.alive.2 data
    obtain ⟨works, hworks⟩ := run_settle (d.send data)
    rw [hstart] at hworks
    obtain ⟨events, queued, hevents⟩ := run_sendBlocks
      { d with stream := d.stream.settle, caller := .sending data [] 0 } rfl hstopping rfl
      List.drop_zero
    rw [Nat.zero_add] at hevents
    refine ⟨.send data :: (List.replicate works .work ++ (events ++ [.finish])), queued, ?_⟩
    change (d.send data).run (List.replicate works .work ++ (events ++ [.finish])) = { d with
      stream := (d.stream.send data).2
      sent := d.sent ++ [⟨data, queued, (d.stream.send data).1⟩] }
    rw [hstart, run_append, hworks, run_append, hevents,
      ChunkStream.send_of_worker habsent h.alive.2]
    simp only [run, List.foldl_cons, List.foldl_nil, step, finish, answer]
    split <;> simp [*]

omit [BlockSink τ] in
theorem exists_release (hidle : d.caller = .idle) (hlost : d.stream.worker ≠ .lost) :
    ∃ stopping, d.release = { d with caller := .releasing, stopping } ∧
      (d.stream.worker = .absent ∨ stopping) := by
  cases hworker : d.stream.worker with
  | absent => exact ⟨d.stopping, by simp only [release, hidle, hworker], .inl rfl⟩
  | lost => exact absurd hworker hlost
  | idle | holding | finished | dead =>
    exact ⟨true, by simp only [release, hidle, hworker], .inr rfl⟩

theorem run_exit_released (hreleasing : d.caller = .releasing)
    (hend : (d.stream.worker = .idle ∧ d.stream.outbox.pool.ready = [] ∧ d.stopping) ∨
      d.stream.worker = .absent) :
    d.run [.exit, .released] = { d with
      stream := { d.stream with inbox := d.stream.inbox.reset, worker := .absent }
      caller := .idle } := by
  have hexit : d.exit = { d with stream := { d.stream with worker := .absent } } := by
    unfold exit
    rcases hend with hidle | habsent
    · rw [if_pos hidle]
    · rw [if_neg (by simp [habsent]), ← habsent]
  change d.exit.released = _
  rw [hexit]
  simp only [released, hreleasing]

/-- A release of the link that ends the worker is one that gives it the time to end. -/
theorem run_release (h : d.Sound) (hidle : d.caller = .idle)
    (hended : (Link.release d.stream).worker = .absent) :
    ∃ events stopping, d.run events = { d with stream := Link.release d.stream, stopping } := by
  obtain ⟨stopping, hrelease, hstopping⟩ := exists_release hidle h.alive.2
  obtain ⟨works, hworks⟩ := run_settle d.release
  rw [hrelease] at hworks
  have hend : (d.stream.settle.worker = .idle ∧ d.stream.settle.outbox.pool.ready = [] ∧
      stopping) ∨ d.stream.settle.worker = .absent := by
    rcases ChunkStream.settle_of_release hended with hidle | habsent
    · -- An absent worker would not have become idle, so this one was told to end.
      refine .inl ⟨hidle, ChunkStream.ready_eq_nil hidle d.stream.work?_settle, ?_⟩
      refine hstopping.resolve_left fun habsent => ?_
      rw [ChunkStream.settle_of_absent habsent, habsent] at hidle
      cases hidle
    · exact .inr habsent
  have hrun := run_exit_released
    (d := { d with stream := d.stream.settle, caller := .releasing, stopping }) rfl hend
  refine ⟨.release :: (List.replicate works .work ++ [.exit, .released]), stopping, ?_⟩
  change d.release.run (List.replicate works .work ++ [.exit, .released]) = _
  rw [run_append, hrelease, hworks, hrun, ← hidle, ← ChunkStream.release_of_settle]
  · rfl
  · exact ChunkStream.settle_of_release hended

/-- A worker that a prompt sink lets go on comes to the point where it can end. -/
theorem Sound.settled (h : d.Sound) (hsteady : BlockSink.Steady τ) (hprompt : BlockSink.Prompt τ) :
    let s := d.stream.settle
    ((s.worker = .idle ∧ s.outbox.pool.ready = []) ∨ s.worker = .absent) ∧
      s.sink.blocks.flatten = d.accepted := by
  intro s
  obtain ⟨works, hworks⟩ := run_settle d
  have hsettled := h.run hsteady (List.replicate works .work)
  rw [hworks] at hsettled
  rcases ChunkStream.worker_of_work?_eq_none (BlockLog.prompt hprompt)
    d.stream.work?_settle with ⟨hidle, hready⟩ | habsent | hdead | hlost
  · exact ⟨.inl ⟨hidle, hready⟩, hsettled.carries.written_eq (by rw [hidle]; rfl) hready⟩
  · exact ⟨.inr habsent, hsettled.written habsent⟩
  · exact absurd hdead hsettled.alive.1
  · exact absurd hlost hsettled.alive.2

/-- From any state in which a release waits, the steps of the worker alone bring it to its end,
unless the sink blocks. -/
theorem exists_released (hsteady : BlockSink.Steady τ) (hprompt : BlockSink.Prompt τ)
    (h : d.Sound) (hreleasing : d.caller = .releasing) :
    ∃ works, let d' := d.run (List.replicate works .work ++ [.exit, .released])
      d'.caller = .idle ∧ d'.stream.worker = .absent ∧
        d'.stream.sink.blocks.flatten = d.accepted := by
  obtain ⟨works, hworks⟩ := run_settle d
  have hsettled := h.run hsteady (List.replicate works .work)
  rw [hworks] at hsettled
  obtain ⟨hhalt, hwritten⟩ := h.settled hsteady hprompt
  have hend : (d.stream.settle.worker = .idle ∧ d.stream.settle.outbox.pool.ready = [] ∧
      d.stopping) ∨ d.stream.settle.worker = .absent := by
    rcases hhalt with ⟨hidle, hready⟩ | habsent
    · exact .inl ⟨hidle, hready, (hsettled.releasing hreleasing).resolve_right (by simp [hidle])⟩
    · exact .inr habsent
  have hrun := run_exit_released (d := { d with stream := d.stream.settle }) hreleasing hend
  refine ⟨works, ?_⟩
  rw [run_append, hworks, hrun]
  exact ⟨rfl, rfl, hwritten⟩

/-- A release of the link ends the worker after it has written all that was queued. -/
theorem release_written (hsteady : BlockSink.Steady τ) (hprompt : BlockSink.Prompt τ)
    (h : d.Sound) :
    (Link.release d.stream).worker = .absent ∧
      (Link.release d.stream).sink.blocks.flatten = d.accepted := by
  obtain ⟨hhalt, hwritten⟩ := h.settled hsteady hprompt
  have hrelease := ChunkStream.release_of_settle (hhalt.imp_left And.left)
  exact ⟨congrArg ChunkStream.worker hrelease, hwritten⟩

end Drain

end Acquisition
