import Mathlib
import Acquisition.Proofs.Session.Backlog
import Acquisition.Proofs.Session.Outgoing

/-!
# The totals of a session

A session, its device and its queue count on their own. As long as no poll fails, what they have
counted adds up (`stats_pollAt`): each frame that the device has queued has been sent, is still
queued, or is the one of which a rest is pending.
-/

namespace Acquisition

open Link

namespace Link

/-- How many bytes the link says that it has accepted. -/
def Attempt.count (a : Attempt) : Nat :=
  match a.result with
  | .ok count => count
  | .error _ => 0

theorem Attempt.length_accepted {a : Attempt} (h : a.count ≤ a.data.length) :
    a.accepted.length = a.count := by
  rw [accepted, count] at *
  split at * <;> simp_all

namespace Recorded

variable {σ : Type}

def total (l : Recorded σ) : Nat := (l.attempts.map Attempt.count).sum

theorem length_accepted {l : Recorded σ} (h : ∀ a ∈ l.attempts, a.count ≤ a.data.length) :
    l.accepted.length = l.total := by
  rw [accepted, total, List.length_flatMap]
  congr 1
  exact List.map_congr_left fun a ha => Attempt.length_accepted (h a ha)

end Recorded

end Link

namespace RecordQueue

theorem Holds.used {q : RecordQueue} {records : List Bytes} (h : q.Holds records) :
    q.used = q.toList.flatten.length + 2 * q.length := by
  rw [RecordQueue.used, h.available, h.toList_eq, h.length]
  clear h
  induction records with
  | nil => rfl
  | cons record rest ih =>
    simp only [footprint, List.map_cons, List.sum_cons, List.flatten_cons, List.length_append,
      List.length_cons, lengthBytes] at ih ⊢
    omega

end RecordQueue

namespace Device

theorem framesHandled_respondAll_le (d : Device) (now : Nat) (wires : List Bytes) :
    d.stats.framesHandled ≤ (d.respondAll now wires).2.stats.framesHandled := by
  induction wires generalizing d with
  | nil => exact Nat.le_refl _
  | cons wire rest ih =>
    have hfirst := d.framesHandled_respond wire now
    exact (Nat.le.intro hfirst.symm).trans (ih _)

end Device

namespace Session

variable {σ : Type}

theorem framesHandled_dispatch (s : Session σ) (arrived : Bytes) (now : Nat) :
    (s.dispatch arrived now).2.device.stats.framesHandled =
      s.device.stats.framesHandled + (s.dispatch arrived now).1.framesReceived := by
  have hmore := s.device.framesHandled_respondAll_le now
    ((s.rx.feed arrived).2.drain Frame.maxSize).1
  simp only [dispatch, handleAll_eq, Device.tick, Device.sendAll_eq, Device.tally_stats,
    (Device.due_keeps ..).2, Device.Stats.add_def, RecordQueue.Admission.counts]
  omega

/-- How many frames are held because a rest of them is pending. -/
def held (s : Session σ) : Nat := if s.pending = [] then 0 else 1

/-! ## Sending -/

/-- From one session to the other, what was counted is what went. -/
structure Counts (s : Session (Recorded σ)) (before : PollStats) (s' : Session (Recorded σ))
    (after : PollStats) : Prop where
  stats : s'.stats = s.stats
  received : after.framesReceived = before.framesReceived
  bytes : after.bytesSent + s.link.total = before.bytesSent + s'.link.total
  frames : after.framesSent + s'.tx.length + s'.held = before.framesSent + s.tx.length + s.held
  unfailed : (∀ a ∈ s.link.attempts, ¬ a.failed) → ∀ a ∈ s'.link.attempts, ¬ a.failed

theorem Counts.refl (s : Session (Recorded σ)) (p : PollStats) : Counts s p s p :=
  ⟨rfl, rfl, rfl, rfl, id⟩

theorem Counts.trans {s₀ s₁ s₂ : Session (Recorded σ)} {p₀ p₁ p₂ : PollStats}
    (h₁ : Counts s₀ p₀ s₁ p₁) (h₂ : Counts s₁ p₁ s₂ p₂) : Counts s₀ p₀ s₂ p₂ where
  stats := h₂.stats.trans h₁.stats
  received := h₂.received.trans h₁.received
  bytes := by
    have := h₁.bytes
    have := h₂.bytes
    omega
  frames := by
    have := h₁.frames
    have := h₂.frames
    omega
  unfailed h := h₂.unfailed (h₁.unfailed h)

-- One attempt that did not fail.
theorem counts_send {s s' : Session (Recorded σ)} {p p' : PollStats} {data : Bytes} {count : Nat}
    (hattempts : s'.link.attempts = s.link.attempts ++ [⟨data, .ok count⟩])
    (hstats : s'.stats = s.stats) (hreceived : p'.framesReceived = p.framesReceived)
    (hbytes : p'.bytesSent = p.bytesSent + count)
    (hframes : p'.framesSent + s'.tx.length + s'.held = p.framesSent + s.tx.length + s.held) :
    Counts s p s' p' where
  stats := hstats
  received := hreceived
  bytes := by
    rw [Recorded.total, Recorded.total, hattempts, hbytes, List.map_append, List.sum_append]
    change _ = p.bytesSent + (_ + count)
    omega
  frames := hframes
  unfailed h a ha := by
    rw [hattempts] at ha
    rcases List.mem_append.mp ha with ha | ha
    · exact h a ha
    · rw [List.mem_singleton.mp ha]
      exact Bool.false_ne_true

variable [Link σ]

theorem transmit_counts {s s' : Session (Recorded σ)} {waiting : List Frame}
    {p moved : PollStats} (hqueue : s.tx.Holds (waiting.map Frame.wire))
    (hsize : ∀ f ∈ waiting, f.wireSize ≤ Frame.maxSize) (hpending : s.pending = [])
    (h : s.transmit p = (.ok moved, s')) : Counts s p s' moved := by
  induction waiting generalizing s p with
  | nil =>
    rw [transmit_of_empty (hqueue.dequeue_nil Frame.maxSize)] at h
    cases h
    exact .refl s _
  | cons f rest ih =>
    obtain ⟨tx, htx, hdequeue⟩ := hqueue.dequeue_cons Frame.maxSize
    have hroom : ¬ Frame.maxSize < f.wire.length := by
      rw [f.length_wire]
      exact Nat.not_lt_of_le (hsize f List.mem_cons_self)
    have hlength : s.tx.length = tx.length + 1 := by
      rw [hqueue.length, htx.length]
      rfl
    rw [if_neg hroom] at hdequeue
    rw [transmit_of_record hdequeue, Recorded.send_eq] at h
    rcases hsend : Link.send s.link.link f.wire with ⟨e | count, link⟩ <;> rw [hsend] at h
    · cases h
    · dsimp only at h
      split at h
      · -- The rest of the frame stays pending.
        rename_i hshort
        cases h
        refine counts_send rfl rfl rfl rfl ?_
        have hrest : f.wire.drop count ≠ [] := by simpa using hshort
        simp only [held, if_neg hrest, if_pos hpending]
        omega
      · have hrest : ∀ g ∈ rest, g.wireSize ≤ Frame.maxSize :=
          fun g hg => hsize g (List.mem_cons_of_mem _ hg)
        refine Counts.trans ?_ (ih ?_ hrest ?_ h)
        · refine counts_send rfl rfl rfl rfl ?_
          simp only [held]
          omega
        · exact htx
        · exact hpending

theorem sendOut_counts {s s' : Session (Recorded σ)} {waiting : List Frame}
    {p moved : PollStats} (hqueue : s.tx.Holds (waiting.map Frame.wire))
    (hsize : ∀ f ∈ waiting, f.wireSize ≤ Frame.maxSize)
    (h : s.sendOut p = (.ok moved, s')) : Counts s p s' moved := by
  rw [sendOut, flush] at h
  by_cases hheld : s.pending = []
  · simp only [if_pos hheld] at h
    exact transmit_counts hqueue hsize hheld h
  · rw [if_neg hheld, Recorded.send_eq] at h
    rcases hsend : Link.send s.link.link s.pending with ⟨e | count, link⟩ <;> rw [hsend] at h
    · cases h
    · dsimp only at h
      by_cases hgone : s.pending.drop count = []
      · rw [if_pos hgone] at h
        refine Counts.trans ?_ (transmit_counts ?_ hsize ?_ h)
        · refine counts_send rfl rfl rfl rfl ?_
          simp only [held, if_pos hgone, if_neg hheld]
          omega
        · exact hqueue
        · exact hgone
      · rw [if_neg hgone] at h
        cases h
        refine counts_send rfl rfl rfl rfl ?_
        simp only [held, if_neg hgone, if_neg hheld, Nat.add_zero]

/-! ## Polls -/

/-- What a session, its device and its queue have counted over so many polls. -/
structure Balanced (polls : Nat) (s : Session (Recorded σ)) : Prop where
  polls : s.stats.polls = polls
  handled : s.stats.framesReceived = s.device.stats.framesHandled
  received : s.stats.bytesReceived = s.link.arrivals.flatten.length
  dropped : s.stats.bytesDropped = s.rx.dropped
  sent : s.stats.bytesSent = s.link.total
  frames : s.device.stats.framesQueued = s.stats.framesSent + s.tx.length + s.held
  unfailed : ∀ a ∈ s.link.attempts, ¬ a.failed

variable {s : Session (Recorded σ)} {left : List Departure} {waiting : List Frame}

omit [Link σ] in
theorem balanced_create {link : σ} {config : Config} {deviceConfig : Device.Config}
    {entropy : Random.Stream}
    (hcreate : create (Recorded.ofLink link) config deviceConfig entropy = .ok s) :
    Balanced 0 s := by
  obtain ⟨device, -, hdevice, rfl⟩ := create_ok hcreate
  have hstats := (Device.powerOn_ok hdevice).2.2
  exact {
    polls := rfl
    handled := by rw [hstats]
    received := rfl
    dropped := rfl
    sent := rfl
    frames := by rw [hstats]; rfl
    unfailed := nofun }

-- A poll that comes to its end has received, dispatched and sent.
theorem poll_ok {now : Nat} {moved : PollStats} (h : (s.poll now).1 = .ok moved) :
    ∃ arrived link s', Link.receive s.link s.config.receiveChunk = (.ok arrived, link) ∧
      sendOut (dispatch { s with link } arrived now).2 (dispatch { s with link } arrived now).1 =
        (.ok moved, s') ∧
      (s.poll now).2 = { s' with stats := s'.stats.absorb moved } := by
  rcases hreceive : Link.receive s.link s.config.receiveChunk with ⟨e | arrived, link⟩
  · rw [poll_of_error hreceive] at h
    cases h
  · rw [poll_of_arrival hreceive] at h ⊢
    rcases hsent : sendOut (dispatch { s with link } arrived now).2
      (dispatch { s with link } arrived now).1 with ⟨e | moved', s'⟩ <;> rw [hsent] at h <;> cases h
    exact ⟨arrived, link, s', rfl, hsent, rfl⟩

theorem Balanced.poll {polls : Nat} (h : Balanced polls s) (haccounts : Accounts s left waiting)
    {now : Nat} {moved : PollStats} (hok : (s.poll now).1 = .ok moved) :
    Balanced (polls + 1) (s.poll now).2 := by
  obtain ⟨arrived, link, s', hreceive, hsent, hpoll⟩ := poll_ok hok
  obtain ⟨hreceptions, hattempts⟩ := Recorded.record_of_receive hreceive
  have hgrown := holds_dispatch haccounts.queue hreceive now
  have hcounts := sendOut_counts hgrown (admitted_size haccounts.waiting_size) hsent
  obtain ⟨_, _, _, -, hadvances⟩ :=
    poll_advances haccounts.queue haccounts.waiting_size hreceive now
  have hstats : (s.poll now).2.stats = s.stats.absorb moved := by
    rw [hpoll]
    exact congrArg (Stats.absorb · moved) hcounts.stats
  have harrivals : (s.poll now).2.link.arrivals = s.link.arrivals ++ [arrived] :=
    Recorded.arrivals_of_receptions (hadvances.receptions.trans hreceptions)
  have htotal : link.total = s.link.total := by rw [Recorded.total, hattempts, Recorded.total]
  have hlength : (dispatch { s with link } arrived now).2.tx.length =
      s.tx.length + (s.queuedIn now).length := by
    simp only [hgrown.length, haccounts.queue.length, List.length_map, List.length_append]
  constructor
  case polls =>
    rw [hstats, ← h.polls]
    rfl
  case handled =>
    rw [hstats, hadvances.device, framesHandled_dispatch]
    exact congrArg₂ (· + ·) h.handled hcounts.received
  case received =>
    rw [hstats, harrivals, List.flatten_append, List.length_append, List.flatten_singleton,
      ← receivedNext_of_arrival hreceive, ← (moved_poll hok).1]
    exact congrArg (· + _) h.received
  case dropped =>
    rw [hstats, dropped_poll, ← (moved_poll hok).2]
    exact congrArg (· + _) h.dropped
  case sent =>
    have hbytes : moved.bytesSent + link.total = 0 + s'.link.total := hcounts.bytes
    have hbefore := h.sent
    rw [hstats, hpoll]
    change s.stats.bytesSent + moved.bytesSent = s'.link.total
    omega
  case frames =>
    have hframes : moved.framesSent + s'.tx.length + s'.held =
        0 + (dispatch { s with link } arrived now).2.tx.length + s.held := hcounts.frames
    have hbefore := h.frames
    rw [hstats, framesQueued_poll haccounts, hpoll]
    change _ = s.stats.framesSent + moved.framesSent + s'.tx.length + s'.held
    omega
  case unfailed =>
    rw [hpoll]
    refine hcounts.unfailed fun a ha => h.unfailed a ?_
    rw [← hattempts]
    exact ha

/-! ## Runs -/

theorem pollAt_cons_ok {now : Nat} {times : List Nat} {s' : Session (Recorded σ)}
    (h : s.pollAt (now :: times) = (.ok (), s')) :
    (∃ moved, (s.poll now).1 = .ok moved) ∧ (s.poll now).2.pollAt times = (.ok (), s') := by
  rw [pollAt] at h
  split at h
  · cases h
  · rename_i moved s₁ hpoll
    rw [hpoll]
    exact ⟨⟨moved, rfl⟩, h⟩

-- A run in which no poll fails is a run of as many polls.
theorem pollAll_of_pollAt {times : List Nat} {s' : Session (Recorded σ)}
    (h : s.pollAt times = (.ok (), s')) : s.pollAll times = s' := by
  induction times generalizing s with
  | nil =>
    cases h
    rfl
  | cons now rest ih => exact ih (pollAt_cons_ok h).2

theorem Balanced.pollAt {polls : Nat} (h : Balanced polls s) (haccounts : Accounts s left waiting)
    {times : List Nat} {s' : Session (Recorded σ)} (hrun : s.pollAt times = (.ok (), s')) :
    Balanced (polls + times.length) s' := by
  induction times generalizing s polls left waiting with
  | nil =>
    cases hrun
    exact h
  | cons now rest ih =>
    obtain ⟨⟨moved, hok⟩, hrest⟩ := pollAt_cons_ok hrun
    obtain ⟨_, _, hthere, -, -⟩ := haccounts.poll now
    rw [List.length_cons, Nat.add_comm rest.length 1, ← Nat.add_assoc]
    exact ih (h.poll haccounts hok) hthere hrest

/-- After a run in which no poll fails, over a link that accepts no more than it is given, the
totals of the session are those of its parts: the polls, the frames that the device has handled,
what has arrived and what of it was dropped, and what the link has accepted. Each frame that the
device has queued was sent, is still queued, or is the one of which a rest is pending, and their
bytes were accepted, are pending, or are queued beside the length fields. -/
theorem stats_pollAt {link : σ} {config : Config} {deviceConfig : Device.Config}
    {entropy : Random.Stream} {s₀ : Session (Recorded σ)}
    (hcreate : create (Recorded.ofLink link) config deviceConfig entropy = .ok s₀)
    (times : List Nat) (hrun : (s₀.pollAt times).1 = .ok ())
    (hcount : ∀ a ∈ (s₀.pollAt times).2.link.attempts, a.count ≤ a.data.length) :
    let s := (s₀.pollAt times).2
    s.stats.polls = times.length ∧
    s.stats.framesReceived = s.device.stats.framesHandled ∧
    s.stats.bytesReceived = s.link.arrivals.flatten.length ∧
    s.stats.bytesDropped = s.rx.dropped ∧
    s.stats.bytesSent = s.link.accepted.length ∧
    s.device.stats.framesQueued =
      s.stats.framesSent + s.tx.length + (if s.pending = [] then 0 else 1) ∧
    s.device.stats.framesQueued = (s₀.queuedOver times).length ∧
    2 * s.tx.length ≤ s.tx.used ∧
    ((s₀.queuedOver times).map Frame.wireSize).sum =
      s.stats.bytesSent + s.pending.length + (s.tx.used - 2 * s.tx.length) := by
  intro s
  have hdone : s₀.pollAt times = (.ok (), s) := Prod.ext hrun rfl
  have hstart := accounts_create hcreate
  have hbalanced := (balanced_create hcreate).pollAt hstart hdone
  have hqueued := framesQueued_pollAll hstart times
  obtain ⟨left, waiting, hthere, hframes, hrefused⟩ := hstart.pollAll times
  rw [pollAll_of_pollAt hdone] at hqueued hthere
  rw [refusedOver_eq_nil hstart (pollAll_of_pollAt hdone ▸ hbalanced.unfailed)] at hrefused
  have hsent : s.stats.bytesSent = s.link.accepted.length := by
    rw [hbalanced.sent, Recorded.length_accepted hcount]
  have hused := hthere.queue.used
  refine ⟨?_, hbalanced.handled, hbalanced.received, hbalanced.dropped, hsent, hbalanced.frames,
    ?_, ?_, ?_⟩
  · rw [hbalanced.polls, Nat.zero_add]
  · obtain ⟨device, -, hdevice, rfl⟩ := create_ok hcreate
    rw [hqueued, (Device.powerOn_ok hdevice).2.2]
    exact Nat.zero_add _
  · omega
  · -- No frame was lost, so all their bytes are accounted for.
    have hstream := congrArg List.length
      (hthere.stream_eq hframes (List.map_eq_nil_iff.mp hrefused.symm))
    have hwire : Frame.wireSize = fun f => f.wire.length := funext fun f => f.length_wire.symm
    rw [List.nil_append, List.length_append, List.length_append, List.length_flatMap] at hstream
    rw [hwire]
    omega

/-- A link that accepts at most `width` bytes at a time. -/
structure NarrowLink where
  inbound : Bytes
  width : Nat

instance : Link NarrowLink where
  name := "narrow"
  acquire l := (.ok (), l)
  attach l := (.ok (), l)
  receive l max := (.ok (l.inbound.take max), { l with inbound := l.inbound.drop max })
  send l data := (.ok (min data.length l.width), l)
  release l := l

-- A reply of eighteen bytes of which two are pending after two polls.
theorem stats_pollAt_short_sends :
    let ping : Frame := ⟨Command.ping, 7, []⟩
    let host : NarrowLink := { inbound := ping.wire, width := 8 }
    let config : Config := { rxCapacity := 64, txCapacity := 8195, maxFrameSize := 32 }
    ∃ s₀ : Session (Recorded NarrowLink),
      create (Recorded.ofLink host) config {} (Random.Stream.ofSeed 1) = .ok s₀ ∧
      let s := (s₀.pollAt [0, 10]).2
      s.pending.length = 2 ∧
      s.device.stats.framesQueued =
        s.stats.framesSent + s.tx.length + (if s.pending = [] then 0 else 1) ∧
      ((s₀.queuedOver [0, 10]).map Frame.wireSize).sum =
        s.stats.bytesSent + s.pending.length + (s.tx.used - 2 * s.tx.length) := by
  intro ping host config
  have hcreate : create (Recorded.ofLink host) config {} (Random.Stream.ofSeed 1) = .ok _ := rfl
  obtain ⟨-, -, -, -, -, hframes, -, -, hbytes⟩ :=
    stats_pollAt hcreate [0, 10] (by decide +kernel) (by decide +kernel)
  exact ⟨_, hcreate, by decide +kernel, hframes, hbytes⟩

end Session

end Acquisition
