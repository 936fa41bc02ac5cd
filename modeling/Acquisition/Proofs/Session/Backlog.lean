import Mathlib
import Acquisition.Link.Loopback
import Acquisition.Proofs.Reception.Backlog
import Acquisition.Proofs.Session.Recording

/-!
# Room for what arrives

A session always has room for what arrives next (`free_pollAll`): whatever the link has brought, a
poll leaves less than one frame of the largest size behind, and the ring is larger than that.
-/

namespace Acquisition

namespace Session

theorem Config.sizes_of_validate {c : Config} (h : c.validate = .ok ()) :
    Frame.minSize ≤ c.maxFrameSize ∧ c.maxFrameSize < c.rxCapacity := by
  rw [validate] at h
  split_ifs at h with hframe hreceiver
  exact ⟨Nat.le_of_not_lt fun hsmall => hframe (.inl hsmall), Nat.lt_of_not_le hreceiver⟩

variable {σ : Type}

/-! ## Sending does not concern reception -/

/-- `sent` comes of sending from `s`: the receiving side is as it was, and so is what the poll has
counted there. -/
structure KeepsReception (s : Session σ) (counted : PollStats)
    (sent : Except LinkError PollStats × Session σ) : Prop where
  config : sent.2.config = s.config
  rx : sent.2.rx = s.rx
  counts : ∀ moved, sent.1 = .ok moved →
    moved.bytesReceived = counted.bytesReceived ∧ moved.bytesDropped = counted.bytesDropped

theorem KeepsReception.error {s s' : Session σ} {counted : PollStats} {e : LinkError}
    (hconfig : s'.config = s.config) (hrx : s'.rx = s.rx) :
    KeepsReception s counted (.error e, s') :=
  ⟨hconfig, hrx, nofun⟩

theorem KeepsReception.ok {s s' : Session σ} {counted moved : PollStats}
    (hconfig : s'.config = s.config) (hrx : s'.rx = s.rx)
    (hreceived : moved.bytesReceived = counted.bytesReceived)
    (hdropped : moved.bytesDropped = counted.bytesDropped) :
    KeepsReception s counted (.ok moved, s') :=
  ⟨hconfig, hrx, fun _ h => Except.ok.inj h ▸ ⟨hreceived, hdropped⟩⟩

-- What is sent after something else was sent.
theorem KeepsReception.after {s s' : Session σ} {counted moved : PollStats}
    {sent : Except LinkError PollStats × Session σ} (h : KeepsReception s' moved sent)
    (hfirst : KeepsReception s counted (.ok moved, s')) : KeepsReception s counted sent where
  config := h.config.trans hfirst.config
  rx := h.rx.trans hfirst.rx
  counts last hlast :=
    have hbefore := hfirst.counts moved rfl
    have hafter := h.counts last hlast
    ⟨hafter.1.trans hbefore.1, hafter.2.trans hbefore.2⟩

variable [Link σ]

theorem keepsReception_flush (s : Session σ) (p : PollStats) : KeepsReception s p (s.flush p) := by
  rw [flush]
  split
  · exact .ok rfl rfl rfl rfl
  · split
    · exact .error rfl rfl
    · exact .ok rfl rfl rfl rfl

theorem keepsReception_transmit (s : Session σ) (p : PollStats) :
    KeepsReception s p (s.transmit p) := by
  fun_induction transmit s p with
  | case1 | case4 => exact .ok rfl rfl rfl rfl
  | case2 _ _ _ _ _ ih => exact ih.after (.ok rfl rfl rfl rfl)
  | case3 => exact .error rfl rfl
  | case5 _ _ _ _ _ _ _ _ _ _ ih => exact ih.after (.ok rfl rfl rfl rfl)

theorem keepsReception_sendOut (s : Session σ) (p : PollStats) :
    KeepsReception s p (s.sendOut p) := by
  have hflush := keepsReception_flush s p
  rw [sendOut]
  rcases hfirst : s.flush p with ⟨e | moved, s'⟩ <;> rw [hfirst] at hflush
  · exact .error hflush.config hflush.rx
  · dsimp only
    split
    · exact (keepsReception_transmit s' moved).after hflush
    · exact hflush

/-! ## The receiving side of one poll -/

/-- How many bytes the next poll receives. -/
def receivedNext (s : Session σ) : Nat :=
  match (Link.receive s.link s.config.receiveChunk).1 with
  | .ok arrived => arrived.length
  | .error _ => 0

section

variable {s : Session σ} {arrived : Bytes} {link : σ}

theorem receivedNext_of_error {e : LinkError}
    (h : Link.receive s.link s.config.receiveChunk = (.error e, link)) : s.receivedNext = 0 := by
  rw [receivedNext, h]

theorem receivedNext_of_arrival
    (h : Link.receive s.link s.config.receiveChunk = (.ok arrived, link)) :
    s.receivedNext = arrived.length := by
  rw [receivedNext, h]

theorem poll_reception (h : Link.receive s.link s.config.receiveChunk = (.ok arrived, link))
    (now : Nat) :
    (s.poll now).2.config = s.config ∧
      (s.poll now).2.rx = ((s.rx.feed arrived).2.drain Frame.maxSize).2 ∧
      ∀ moved, (s.poll now).1 = .ok moved →
        moved.bytesReceived = arrived.length ∧
        moved.bytesDropped = arrived.length - min arrived.length s.rx.ring.free := by
  have hkeeps := keepsReception_sendOut (dispatch { s with link } arrived now).2
    (dispatch { s with link } arrived now).1
  rw [poll_of_arrival h]
  rcases hsent : sendOut (dispatch { s with link } arrived now).2
    (dispatch { s with link } arrived now).1 with ⟨e | moved, s'⟩ <;> rw [hsent] at hkeeps
  · exact ⟨hkeeps.config, hkeeps.rx, nofun⟩
  · refine ⟨hkeeps.config, hkeeps.rx, fun _ hmoved => ?_⟩
    cases hmoved
    exact hkeeps.counts moved rfl

end

-- What finds no room is dropped, also when the poll fails later on.
theorem dropped_poll (s : Session σ) (now : Nat) :
    (s.poll now).2.rx.dropped = s.rx.dropped + (s.receivedNext - s.rx.ring.free) := by
  rcases hreceive : Link.receive s.link s.config.receiveChunk with ⟨e | arrived, link⟩
  · rw [receivedNext_of_error hreceive, poll_of_error hreceive, Nat.zero_sub, Nat.add_zero]
  · rw [receivedNext_of_arrival hreceive, (poll_reception hreceive now).2.1,
      Receiver.dropped_drain, Receiver.dropped_feed]
    omega

theorem moved_poll {s : Session σ} {now : Nat} {moved : PollStats}
    (h : (s.poll now).1 = .ok moved) :
    moved.bytesReceived = s.receivedNext ∧
      moved.bytesDropped = s.receivedNext - s.rx.ring.free := by
  rcases hreceive : Link.receive s.link s.config.receiveChunk with ⟨e | arrived, link⟩
  · rw [poll_of_error hreceive] at h
    cases h
  · obtain ⟨hreceived, hdropped⟩ := (poll_reception hreceive now).2.2 moved h
    rw [receivedNext_of_arrival hreceive]
    exact ⟨hreceived, by omega⟩

theorem receivedNext_loopback_le (s : Session Loopback) :
    s.receivedNext ≤ s.config.receiveChunk := by
  rcases hreceive : Link.receive s.link s.config.receiveChunk with ⟨e | arrived, link⟩
  · rw [receivedNext_of_error hreceive]
    exact Nat.zero_le _
  · rw [receivedNext_of_arrival hreceive]
    change Loopback.receive .. = _ at hreceive
    simp only [Loopback.receive] at hreceive
    split at hreceive
    · split at hreceive <;> cases hreceive
      exact Nat.zero_le _
    · cases hreceive
      exact List.length_take_le ..

/-! ## What polls leave behind -/

/-- The sizes are those of the configuration, and less is buffered than the largest frame has. -/
structure Roomy (c : Config) (s : Session σ) : Prop where
  config : s.config = c
  limit : s.rx.limit Frame.maxSize = c.maxFrameSize
  size : s.rx.ring.size = c.rxCapacity
  backlog : s.rx.ring.available < c.maxFrameSize

section

variable {c : Config} {s : Session σ}

omit [Link σ] in
theorem Roomy.free (h : Roomy c s) : c.rxCapacity - c.maxFrameSize ≤ s.rx.ring.free := by
  have hbacklog := h.backlog
  rw [Ring.free, Ring.capacity, h.size]
  omega

omit [Link σ] in
theorem roomy_create {link : σ} {deviceConfig : Device.Config} {entropy : Random.Stream}
    (hcreate : create link c deviceConfig entropy = .ok s) : Roomy c s := by
  obtain ⟨device, hconfig, -, rfl⟩ := create_ok hcreate
  obtain ⟨hmin, hreceiver⟩ := Config.sizes_of_validate hconfig
  have hpos : 0 < c.maxFrameSize := Nat.lt_of_lt_of_le (by decide) hmin
  refine ⟨rfl, Nat.min_eq_left (Config.maxFrameSize_le hconfig), ?_, ?_⟩
  · -- A ring has two cells at least, and more are asked for.
    exact (Ring.size_ofSize _).trans (by omega)
  · exact (Ring.available_ofSize _).trans_lt hpos

theorem Roomy.poll (h : Roomy c s) (hconfig : c.validate = .ok ()) (now : Nat) :
    Roomy c (s.poll now).2 := by
  rcases hreceive : Link.receive s.link s.config.receiveChunk with ⟨e | arrived, link⟩
  · rw [poll_of_error hreceive]
    exact ⟨h.config, h.limit, h.size, h.backlog⟩
  · obtain ⟨hkept, hrx, -⟩ := poll_reception hreceive now
    have hlimit : (s.rx.feed arrived).2.limit Frame.maxSize = c.maxFrameSize := h.limit
    have hscan : Receiver.minScan ≤ c.maxFrameSize :=
      le_trans (by decide) (Config.sizes_of_validate hconfig).1
    refine ⟨hkept.trans h.config, ?_, ?_, ?_⟩ <;> rw [hrx]
    · rw [Receiver.limit_drain, hlimit]
    · rw [Receiver.size_drain]
      exact (Ring.size_push ..).trans h.size
    · rw [← hlimit]
      exact Receiver.available_drain_lt (hlimit ▸ hscan)

theorem roomy_pollAll (h : Roomy c s) (hconfig : c.validate = .ok ()) (times : List Nat) :
    Roomy c (s.pollAll times) := by
  induction times generalizing s with
  | nil => exact h
  | cons now rest ih => exact ih (h.poll hconfig now)

-- Where a whole chunk fits beside the backlog, nothing is dropped.
theorem dropped_pollAll (h : Roomy c s) (hconfig : c.validate = .ok ())
    (hroom : c.maxFrameSize + c.receiveChunk ≤ c.rxCapacity) {times : List Nat}
    (hchunks : ∀ before now, before ++ [now] <+: times →
      (s.pollAll before).receivedNext ≤ c.receiveChunk) :
    (s.pollAll times).rx.dropped = s.rx.dropped := by
  induction times using List.reverseRecOn with
  | nil => rfl
  | append_singleton times now ih =>
    have hbefore := ih fun earlier time hearlier =>
      hchunks earlier time (hearlier.trans (List.prefix_append ..))
    have hfree := (roomy_pollAll h hconfig times).free
    have hchunk := hchunks times now (List.prefix_refl _)
    rw [pollAll_append]
    change ((s.pollAll times).poll now).2.rx.dropped = s.rx.dropped
    rw [dropped_poll, hbefore]
    omega

end

/-- After any run of polls over any link, failed ones among them, less is buffered than the largest
frame has. So there is room for what the ring has beyond such a frame, and the next poll drops no
more than exceeds it: so much of what arrives is buffered, from its front. With room for a whole
chunk beside a frame, all that arrives is buffered, and nothing is ever dropped. -/
theorem free_pollAll {link : σ} {config : Config} {deviceConfig : Device.Config}
    {entropy : Random.Stream} {s₀ : Session σ}
    (hcreate : create link config deviceConfig entropy = .ok s₀) (times : List Nat) :
    let s := s₀.pollAll times
    let room := config.rxCapacity - config.maxFrameSize
    s.rx.ring.available ≤ config.maxFrameSize - 1 ∧ room ≤ s.rx.ring.free ∧ 1 ≤ room ∧
    (∀ now,
      (s.poll now).2.rx.dropped ≤ s.rx.dropped + (s.receivedNext - room) ∧
      ∀ moved, (s.poll now).1 = .ok moved →
        moved.bytesReceived = s.receivedNext ∧
        (s.poll now).2.rx.dropped = s.rx.dropped + moved.bytesDropped) ∧
    (∀ arrived next, Link.receive s.link s.config.receiveChunk = (.ok arrived, next) →
      (∀ now, (s.poll now).2.rx = ((s.rx.feed arrived).2.drain Frame.maxSize).2) ∧
      (s.rx.feed arrived).2.ring.toList =
        s.rx.ring.toList ++ arrived.take (s.rx.feed arrived).1 ∧
      min arrived.length room ≤ (s.rx.feed arrived).1 ∧
      (config.maxFrameSize + config.receiveChunk ≤ config.rxCapacity →
        arrived.length ≤ config.receiveChunk → (s.rx.feed arrived).1 = arrived.length)) ∧
    (config.maxFrameSize + config.receiveChunk ≤ config.rxCapacity →
      (∀ before now, before ++ [now] <+: times →
        (s₀.pollAll before).receivedNext ≤ config.receiveChunk) →
      s.rx.dropped = 0) := by
  intro s room
  obtain ⟨device, hconfig, -, hs₀⟩ := create_ok hcreate
  have hstart := roomy_create hcreate
  have hroomy := roomy_pollAll hstart hconfig times
  have hfree := hroomy.free
  have hreceiver := (Config.sizes_of_validate hconfig).2
  refine ⟨Nat.le_sub_one_of_lt hroomy.backlog, hfree, Nat.sub_pos_of_lt hreceiver,
    fun now => ⟨?_, fun moved hmoved => ?_⟩, fun arrived next hreceive => ?_,
    fun hroom hchunks => ?_⟩
  · rw [dropped_poll]
    exact Nat.add_le_add_left (Nat.sub_le_sub_left hfree _) _
  · obtain ⟨hreceived, hdropped⟩ := moved_poll hmoved
    rw [dropped_poll, hdropped]
    exact ⟨hreceived, rfl⟩
  · have haccepted : (s.rx.feed arrived).1 = min arrived.length s.rx.ring.free := rfl
    refine ⟨fun now => (poll_reception hreceive now).2.1, Ring.toList_push .., ?_,
      fun hroom hchunk => ?_⟩ <;> rw [haccepted]
    · exact Nat.le_min.mpr ⟨Nat.min_le_left .., (Nat.min_le_right ..).trans hfree⟩
    · exact Nat.min_eq_left (hchunk.trans ((Nat.le_sub_of_add_le' hroom).trans hfree))
  · have hnone : s₀.rx.dropped = 0 := by rw [hs₀]; rfl
    exact (dropped_pollAll hstart hconfig hroom hchunks).trans hnone

-- Heads that announce more than ever comes, after a cut-off one. The next six bytes find room too.
theorem free_pollAll_false_heads :
    let noise : Bytes := [0xAA, 0x55, 0xAA, 0x55, 0x10, 0x00, 0xAA, 0x55, 0x05, 0x00, 0xAA, 0x55]
    let host : Loopback := { Loopback.ofCapacity 64 with inbound := noise ++ noise ++ noise }
    let config : Config :=
      { rxCapacity := 40, txCapacity := 8195, maxFrameSize := 32, receiveChunk := 6 }
    ∃ s₀ : Session Loopback,
      create host config {} (Random.Stream.ofSeed 1) = .ok s₀ ∧
      let s := s₀.pollAll [0, 10, 20, 30]
      s.rx.ring.available ≤ 31 ∧ 8 ≤ s.rx.ring.free ∧ s.rx.dropped = 0 ∧
      (Link.receive s.link s.config.receiveChunk).1 = .ok (noise.take 6) ∧
      (s.rx.feed (noise.take 6)).1 = 6 ∧
      (s.rx.feed (noise.take 6)).2.ring.toList = s.rx.ring.toList ++ noise.take 6 := by
  intro noise host config
  -- From here on the session is opened no further.
  obtain ⟨s₀, hcreate, harrived⟩ : ∃ s₀ : Session Loopback,
      create host config {} (Random.Stream.ofSeed 1) = .ok s₀ ∧
      (Link.receive (s₀.pollAll [0, 10, 20, 30]).link
        (s₀.pollAll [0, 10, 20, 30]).config.receiveChunk).1 = .ok (noise.take 6) :=
    ⟨_, rfl, by decide +kernel⟩
  obtain ⟨hbacklog, hfree, -, -, hfeed, hdropped⟩ := free_pollAll hcreate [0, 10, 20, 30]
  obtain ⟨-, hcontents, -, hall⟩ := hfeed _ _ (Prod.ext harrived rfl)
  have haccepted := hall (by decide) (by decide)
  rw [haccepted] at hcontents
  refine ⟨s₀, hcreate, hbacklog, hfree, hdropped (by decide) fun before now _ => ?_, harrived,
    haccepted, hcontents⟩
  have hroomy := roomy_pollAll (roomy_create hcreate) rfl before
  exact (receivedNext_loopback_le _).trans_eq (congrArg Config.receiveChunk hroomy.config)

end Session

end Acquisition
