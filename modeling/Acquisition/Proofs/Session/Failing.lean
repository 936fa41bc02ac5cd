import Mathlib
import Acquisition.Proofs.Session.Accounting

/-!
# Polls that fail

A poll that comes to its end adds to the totals exactly what it has moved. A poll that fails adds
nothing, whatever it has moved before (`account_of_poll`), so after it the totals are behind the
counters of the device and of the link.
-/

namespace Acquisition

open Link

namespace Link

namespace Recorded

variable {σ : Type}

/-- How many times the link has accepted all that it was given. -/
def completed (l : Recorded σ) : Nat := l.attempts.countP (·.Whole)

variable [Link σ] {l l' : Recorded σ} {data : Bytes}

theorem total_of_send {count : Nat} (h : Link.send l data = (.ok count, l')) :
    l'.total = l.total + count := by
  rw [total, (record_of_send h).2, List.map_append, List.sum_append]
  rfl

theorem completed_of_send {count : Nat} (h : Link.send l data = (.ok count, l')) :
    l'.completed = l.completed + if data.length ≤ count then 1 else 0 := by
  have hwhole : Attempt.Whole ⟨data, .ok count⟩ ↔ data.length ≤ count := by simp [Attempt.Whole]
  rw [completed, (record_of_send h).2, List.countP_append, List.countP_singleton, completed]
  simp only [decide_eq_true_eq, hwhole]

end Recorded

end Link

namespace Session

variable {σ : Type}

/-! ## What sending counts -/

/-- `sent` comes of sending from `s`, and what was counted on the way is what the link has
accepted. The totals are not touched. -/
structure CountsSent (s : Session (Recorded σ)) (before : PollStats)
    (sent : Except LinkError PollStats × Session (Recorded σ)) : Prop where
  stats : sent.2.stats = s.stats
  device : sent.2.device = s.device
  receptions : sent.2.link.receptions = s.link.receptions
  moved : ∀ after, sent.1 = .ok after →
    after.framesReceived = before.framesReceived ∧
    after.bytesSent + s.link.total = before.bytesSent + sent.2.link.total ∧
    after.framesSent + s.link.completed = before.framesSent + sent.2.link.completed

variable {s s' : Session (Recorded σ)} {before between : PollStats}

theorem CountsSent.after {sent : Except LinkError PollStats × Session (Recorded σ)}
    (h : CountsSent s' between sent) (hfirst : CountsSent s before (.ok between, s')) :
    CountsSent s before sent where
  stats := h.stats.trans hfirst.stats
  device := h.device.trans hfirst.device
  receptions := h.receptions.trans hfirst.receptions
  moved last hlast := by
    obtain ⟨hreceived, hbytes, hframes⟩ := hfirst.moved between rfl
    obtain ⟨hreceived', hbytes', hframes'⟩ := h.moved last hlast
    dsimp only at hbytes hframes
    omega

-- Nothing is sent.
theorem countsSent_of_link {p : PollStats} (hlink : s'.link = s.link) (hstats : s'.stats = s.stats)
    (hdevice : s'.device = s.device) : CountsSent s p (.ok p, s') where
  stats := hstats
  device := hdevice
  receptions := congrArg Recorded.receptions hlink
  moved _ h := by
    cases h
    rw [hlink]
    exact ⟨rfl, rfl, rfl⟩

variable [Link σ]

-- One attempt that fails.
theorem countsSent_of_error {data : Bytes} {e : LinkError}
    (hsend : Link.send s.link data = (.error e, s'.link)) (hstats : s'.stats = s.stats)
    (hdevice : s'.device = s.device) : CountsSent s before (.error e, s') :=
  ⟨hstats, hdevice, (Recorded.record_of_send hsend).1, nofun⟩

-- One attempt that does not.
theorem countsSent_of_ok {data : Bytes} {count : Nat} {after : PollStats}
    (hsend : Link.send s.link data = (.ok count, s'.link)) (hstats : s'.stats = s.stats)
    (hdevice : s'.device = s.device) (hreceived : after.framesReceived = before.framesReceived)
    (hbytes : after.bytesSent = before.bytesSent + count)
    (hframes : after.framesSent = before.framesSent + if data.length ≤ count then 1 else 0) :
    CountsSent s before (.ok after, s') where
  stats := hstats
  device := hdevice
  receptions := (Recorded.record_of_send hsend).1
  moved _ h := by
    cases h
    have htotal := Recorded.total_of_send hsend
    have hcompleted := Recorded.completed_of_send hsend
    dsimp only
    omega

theorem countsSent_flush (s : Session (Recorded σ)) (p : PollStats) :
    CountsSent s p (s.flush p) := by
  rw [flush]
  split
  · exact countsSent_of_link rfl rfl rfl
  · split
    · rename_i hsend
      exact countsSent_of_error hsend rfl rfl
    · rename_i hsend
      refine countsSent_of_ok hsend rfl rfl rfl rfl ?_
      simp only [List.drop_eq_nil_iff]

theorem countsSent_transmit (s : Session (Recorded σ)) (p : PollStats) :
    CountsSent s p (s.transmit p) := by
  fun_induction transmit s p with
  | case1 => exact countsSent_of_link rfl rfl rfl
  | case2 _ _ _ _ _ ih => exact ih.after (countsSent_of_link rfl rfl rfl)
  | case3 _ _ _ _ _ _ _ hsend => exact countsSent_of_error hsend rfl rfl
  | case4 s p frame tx _ sent link hsend _ hshort =>
    refine countsSent_of_ok hsend rfl rfl rfl rfl ?_
    rw [if_neg (Nat.not_le_of_lt hshort)]
    rfl
  | case5 s p frame tx _ sent link hsend _ hwhole ih =>
    refine ih.after (countsSent_of_ok hsend rfl rfl rfl rfl ?_)
    rw [if_pos (Nat.le_of_not_lt hwhole)]

theorem countsSent_sendOut (s : Session (Recorded σ)) (p : PollStats) :
    CountsSent s p (s.sendOut p) := by
  have hflush := countsSent_flush s p
  rw [sendOut]
  rcases hfirst : s.flush p with ⟨e | moved, s'⟩ <;> rw [hfirst] at hflush
  · exact hflush
  · dsimp only
    split
    · exact (countsSent_transmit s' moved).after hflush
    · exact hflush

/-! ## The account of a poll -/

/-- The totals have grown by what has moved: the frames that the device has handled, the bytes that
have arrived and those of them that were dropped, the bytes that the link has accepted, and the
frames of which it has accepted the last. -/
@[mk_iff]
structure Accounted (s s' : Session (Recorded σ)) : Prop where
  framesReceived : s'.stats.framesReceived + s.device.stats.framesHandled =
    s.stats.framesReceived + s'.device.stats.framesHandled
  bytesReceived : s'.stats.bytesReceived + s.link.arrivals.flatten.length =
    s.stats.bytesReceived + s'.link.arrivals.flatten.length
  bytesDropped : s'.stats.bytesDropped + s.rx.dropped = s.stats.bytesDropped + s'.rx.dropped
  bytesSent : s'.stats.bytesSent + s.link.total = s.stats.bytesSent + s'.link.total
  framesSent : s'.stats.framesSent + s.link.completed = s.stats.framesSent + s'.link.completed

omit [Link σ] in
instance : Decidable (Accounted s s') := decidable_of_iff' _ (accounted_iff s s')

/-- Nothing of what the totals count has moved. -/
structure Still (s s' : Session (Recorded σ)) : Prop where
  handled : s'.device.stats.framesHandled = s.device.stats.framesHandled
  arrived : s'.link.arrivals.flatten.length = s.link.arrivals.flatten.length
  dropped : s'.rx.dropped = s.rx.dropped
  accepted : s'.link.total = s.link.total
  completed : s'.link.completed = s.link.completed

omit [Link σ] in
theorem accounted_iff_still (hstats : s'.stats = s.stats) : Accounted s s' ↔ Still s s' := by
  constructor
  · rintro ⟨hframes, hbytes, hdropped, hsent, hcompleted⟩
    rw [hstats] at hframes hbytes hdropped hsent hcompleted
    constructor <;> omega
  · rintro ⟨hframes, hbytes, hdropped, hsent, hcompleted⟩
    constructor <;> rw [hstats] <;> omega

theorem stats_poll_of_error {now : Nat} {e : Failure} (h : (s.poll now).1 = .error e) :
    (s.poll now).2.stats = s.stats := by
  rcases hreceive : Link.receive s.link s.config.receiveChunk with ⟨_ | arrived, link⟩
  · rw [poll_of_error hreceive]
  · have hsend := countsSent_sendOut (dispatch { s with link } arrived now).2
      (dispatch { s with link } arrived now).1
    rw [poll_of_arrival hreceive] at h ⊢
    rcases hsent : sendOut (dispatch { s with link } arrived now).2
      (dispatch { s with link } arrived now).1 with ⟨_ | moved, s'⟩ <;> rw [hsent] at h hsend
    · exact hsend.stats
    · cases h

theorem stats_poll_of_ok {now : Nat} {moved : PollStats} (h : (s.poll now).1 = .ok moved) :
    (s.poll now).2.stats = s.stats.absorb moved := by
  obtain ⟨arrived, link, s', -, hsent, hpoll⟩ := poll_ok h
  have hsend := countsSent_sendOut (dispatch { s with link } arrived now).2
    (dispatch { s with link } arrived now).1
  rw [hsent] at hsend
  rw [hpoll]
  exact congrArg (Stats.absorb · moved) hsend.stats

theorem accounted_poll {now : Nat} {moved : PollStats} (h : (s.poll now).1 = .ok moved) :
    Accounted s (s.poll now).2 := by
  obtain ⟨arrived, link, s', hreceive, hsent, hpoll⟩ := poll_ok h
  have hsend := countsSent_sendOut (dispatch { s with link } arrived now).2
    (dispatch { s with link } arrived now).1
  rw [hsent] at hsend
  obtain ⟨hframes, hbytes, hcompleted⟩ := hsend.moved moved rfl
  obtain ⟨hreceptions, hattempts⟩ := Recorded.record_of_receive hreceive
  have hstats := stats_poll_of_ok h
  have hrest : (s.poll now).2.device = s'.device ∧ (s.poll now).2.link = s'.link := by
    rw [hpoll]
    exact ⟨rfl, rfl⟩
  obtain ⟨hreceived, hdropped⟩ := moved_poll h
  rw [receivedNext_of_arrival hreceive] at hreceived
  constructor
  case framesReceived =>
    have hhandled := framesHandled_dispatch { s with link } arrived now
    rw [hstats, hrest.1, hsend.device, hhandled]
    change s.stats.framesReceived + moved.framesReceived + s.device.stats.framesHandled =
      s.stats.framesReceived + (s.device.stats.framesHandled + _)
    omega
  case bytesReceived =>
    have harrivals : s'.link.arrivals = s.link.arrivals ++ [arrived] :=
      Recorded.arrivals_of_receptions (hsend.receptions.trans hreceptions)
    rw [hstats, hrest.2, harrivals, List.flatten_append, List.length_append,
      List.flatten_singleton]
    change s.stats.bytesReceived + moved.bytesReceived + _ = _
    omega
  case bytesDropped =>
    rw [hstats, dropped_poll, ← hdropped]
    change s.stats.bytesDropped + moved.bytesDropped + _ = _
    omega
  case bytesSent =>
    have htotal : link.total = s.link.total := by rw [Recorded.total, hattempts, Recorded.total]
    have hsum : moved.bytesSent + link.total = 0 + s'.link.total := hbytes
    rw [hstats, hrest.2]
    change s.stats.bytesSent + moved.bytesSent + _ = _
    omega
  case framesSent =>
    have hsame : link.completed = s.link.completed := by
      rw [Recorded.completed, hattempts, Recorded.completed]
    have hsum : moved.framesSent + link.completed = 0 + s'.link.completed := hcompleted
    rw [hstats, hrest.2]
    change s.stats.framesSent + moved.framesSent + _ = _
    omega

/-- A poll that comes to its end is counted, and the totals account for what it has moved. One that
fails leaves the totals as they were, so they account for it exactly if nothing has moved. -/
theorem account_of_poll (s : Session (Recorded σ)) (now : Nat) :
    match (s.poll now).1 with
    | .ok _ => (s.poll now).2.stats.polls = s.stats.polls + 1 ∧ Accounted s (s.poll now).2
    | .error _ => (s.poll now).2.stats = s.stats ∧
        (Accounted s (s.poll now).2 ↔ Still s (s.poll now).2) := by
  cases hresult : (s.poll now).1 with
  | ok moved => exact ⟨congrArg Stats.polls (stats_poll_of_ok hresult), accounted_poll hresult⟩
  | error e =>
    have hstats := stats_poll_of_error hresult
    exact ⟨hstats, accounted_iff_still hstats⟩

/-- A link over which the host reads so many replies and then hangs up. -/
structure BriefLink where
  inbound : Bytes
  replies : Nat

instance : Link BriefLink where
  name := "brief"
  acquire l := (.ok (), l)
  attach l := (.ok (), l)
  receive l max := (.ok (l.inbound.take max), { l with inbound := l.inbound.drop max })
  send l data :=
    if l.replies = 0 then (.error .peerClosed, l)
    else (.ok data.length, { l with replies := l.replies - 1 })
  release l := l

-- The host hangs up after the first of two replies, with both requests handled.
theorem not_accounted_poll_hang_up :
    let host : BriefLink :=
      { inbound := (⟨Command.ping, 1, []⟩ : Frame).wire ++ (⟨Command.ping, 2, []⟩ : Frame).wire
        replies := 1 }
    let config : Config := { rxCapacity := 64, txCapacity := 8195, maxFrameSize := 32 }
    ∃ s₀ : Session (Recorded BriefLink),
      create (Recorded.ofLink host) config {} (Random.Stream.ofSeed 1) = .ok s₀ ∧
      let s := (s₀.poll 0).2
      (s₀.poll 0).1 = .error (.link .peerClosed) ∧
      s.link.arrivals.flatten.length = 20 ∧
      s.device.stats.framesHandled = 2 ∧
      s.link.total = 18 ∧
      s.link.completed = 1 ∧
      s.stats = {} ∧
      ¬ Accounted s₀ s := by
  intro host config
  exact ⟨_, rfl, by decide +kernel⟩

end Session

end Acquisition
