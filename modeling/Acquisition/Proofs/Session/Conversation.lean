import Mathlib
import Acquisition.Link.Loopback
import Acquisition.Proofs.Device.Replies
import Acquisition.Proofs.Reception.Framing
import Acquisition.Proofs.Session.Outgoing

/-!
# Requests and replies over a link

The request frames of a host may be cut anywhere on their way through the link. As long as nothing
is dropped, each of them is answered in the poll that brings its last byte, and the replies leave in
the order of the requests, with unsolicited frames between them and nothing else.
-/

namespace Acquisition

open Link

/-! ## Requests reach the device -/

namespace Receiver

-- Frames without noise between them are the frames of a clear stream.
theorem receive_requests {rx : Receiver} {room : Nat} {requests : List Frame} {chunks : List Bytes}
    (hempty : rx.ring.available = 0)
    (hfits : ∀ f ∈ requests, f.Fits ∧ f.wireSize ≤ rx.limit room)
    (hfed : chunks.flatten <+: requests.flatMap Frame.wire)
    (hall : (rx.receive room chunks).2.dropped = rx.dropped) :
    (rx.receive room chunks).1 =
      (Frame.complete requests chunks.flatten.length).map Frame.wire := by
  have hstream (requests : List Frame) :
      Segment.stream [] (requests.map fun f => ⟨f.wire, []⟩) = requests.flatMap Frame.wire := by
    induction requests with
    | nil => rfl
    | cons f rest ih => rw [List.map_cons, Segment.stream, ih, List.nil_append, List.flatMap_cons]
  have harrived (requests : List Frame) (n : Nat) :
      Segment.arrived [] (requests.map fun f => ⟨f.wire, []⟩) n =
        (Frame.complete requests n).map Frame.wire := by
    induction requests generalizing n with
    | nil => rfl
    | cons f rest ih =>
      rw [List.map_cons, Segment.arrived, Frame.complete, List.length_nil, Nat.zero_add,
        f.length_wire, ih]
      split <;> rfl
  have hclear (requests : List Frame) :
      Segment.Clear (rx.limit room) [] (requests.map fun f => ⟨f.wire, []⟩) := by
    induction requests with
    | nil => exact fun i hi => absurd hi (Nat.not_lt_zero i)
    | cons f rest ih => exact ⟨fun i hi => absurd hi (Nat.not_lt_zero i), ih⟩
  rw [← harrived]
  refine (receive_of_isPrefix hempty ?_ (hclear requests) (by rw [hstream]; exact hfed) hall).1
  intro segment hsegment
  obtain ⟨f, hf, rfl⟩ := List.mem_map.mp hsegment
  exact ⟨Frame.written_iff.mpr ⟨f, (hfits f hf).1, rfl⟩, by
    rw [f.length_wire]; exact (hfits f hf).2⟩

-- One more chunk brings the frames that end in it.
theorem receive_completed {rx : Receiver} {room : Nat} {requests : List Frame}
    {chunks : List Bytes} {arrived : Bytes} (hempty : rx.ring.available = 0)
    (hfits : ∀ f ∈ requests, f.Fits ∧ f.wireSize ≤ rx.limit room)
    (hfed : (chunks ++ [arrived]).flatten <+: requests.flatMap Frame.wire)
    (hall : (rx.receive room (chunks ++ [arrived])).2.dropped = rx.dropped) :
    ((rx.receive room chunks).2.receive room [arrived]).1 =
      (Frame.completed requests chunks.flatten.length arrived.length).map Frame.wire := by
  have hflatten : (chunks ++ [arrived]).flatten = chunks.flatten ++ arrived := by
    rw [List.flatten_append, List.flatten_singleton]
  have hbefore : (rx.receive room chunks).1 =
      (Frame.complete requests chunks.flatten.length).map Frame.wire := by
    have hdropped := dropped_receive_take hall chunks.length
    rw [List.take_left] at hdropped
    refine receive_requests hempty hfits (List.IsPrefix.trans ?_ hfed) hdropped
    rw [hflatten]
    exact List.prefix_append ..
  have hafter := receive_requests hempty hfits hfed hall
  rw [receive_append, hbefore, hflatten, List.length_append, ← Frame.complete_append_completed,
    List.map_append] at hafter
  exact List.append_cancel_left hafter

end Receiver

namespace Session

variable {σ : Type} [Link σ]

/-! ## The receiving side of a poll -/

theorem receptions_poll_error {s : Session (Recorded σ)} {e : LinkError} {link : Recorded σ}
    (hreceive : Link.receive s.link s.config.receiveChunk = (.error e, link)) (now : Nat) :
    (s.poll now).2.link.receptions = s.link.receptions ++ [.error e] := by
  rw [poll_of_error hreceive]
  exact (Recorded.record_of_receive hreceive).1

-- What a poll does with the bytes that it receives.
theorem poll_received {s : Session (Recorded σ)} {left : List Departure} {waiting : List Frame}
    {arrived : Bytes} {link : Recorded σ} (h : Accounts s left waiting)
    (hreceive : Link.receive s.link s.config.receiveChunk = (.ok arrived, link)) (now : Nat) :
    let delivered := s.rx.receive Frame.maxSize [arrived]
    let emitted := s.device.emit now delivered.1
    (s.poll now).2.link.receptions = s.link.receptions ++ [.ok arrived] ∧
      (s.poll now).2.rx = delivered.2 ∧
      (s.poll now).2.device = emitted.2.tally (s.tx.enqueueAll emitted.1).counts ∧
      s.queuedIn now = (s.tx.enqueueAll emitted.1).admitted := by
  obtain ⟨_, _, _, -, hadvances⟩ := poll_advances h.queue h.waiting_size hreceive now
  rw [hadvances.receptions, hadvances.rx, hadvances.device, dispatch_eq,
    Receiver.receive_singleton, queuedIn, emittedIn, hreceive]
  exact ⟨(Recorded.record_of_receive hreceive).1, rfl, rfl, rfl⟩

/-! ## Conversations -/

/-- How a session stands after the polls at `times` with a host that sends `requests`: the reference
is a device that is given each request in the poll that completes it. -/
structure Converses (s₀ : Session (Recorded σ)) (requests : List Frame) (times : List Nat)
    (s : Session (Recorded σ)) (queued : List Frame) : Prop where
  polls : s.link.arrivals.length = times.length
  rx : s.rx = (s₀.rx.receive Frame.maxSize s.link.arrivals).2
  device : ∃ counts, s.device = (Device.converse requests s₀.device 0
    (times.zip (s.link.arrivals.map List.length))).2.tally counts
  handled : s.device.stats.framesHandled =
    (Frame.complete requests s.link.arrivals.flatten.length).length
  rejected : s.device.stats.framesRejected = 0
  replies : queued.filter (!Command.isUnsolicited ·.command) =
    (Device.converse requests s₀.device 0 (times.zip (s.link.arrivals.map List.length))).1

section

variable {s₀ s : Session (Recorded σ)} {requests queued : List Frame} {times : List Nat}
  {left : List Departure} {waiting : List Frame}

-- The receiver delivers the requests that the chunk completes.
omit [Link σ] in
theorem Converses.delivered (h : Converses s₀ requests times s queued)
    (hempty : s₀.rx.ring.available = 0)
    (hsize : ∀ f ∈ requests, f.wireSize ≤ s₀.rx.limit Frame.maxSize) {arrived : Bytes}
    (hfed : (s.link.arrivals ++ [arrived]).flatten <+: requests.flatMap Frame.wire)
    (hroom : (s.rx.receive Frame.maxSize [arrived]).2.dropped = s₀.rx.dropped) :
    (s.rx.receive Frame.maxSize [arrived]).1 =
      (Frame.completed requests s.link.arrivals.flatten.length arrived.length).map Frame.wire := by
  have hfits : ∀ f ∈ requests, f.Fits ∧ f.wireSize ≤ s₀.rx.limit Frame.maxSize := fun f hf =>
    ⟨Frame.fits_of_wireSize_le ((hsize f hf).trans (min_le_right ..)), hsize f hf⟩
  have hall : (s₀.rx.receive Frame.maxSize (s.link.arrivals ++ [arrived])).2.dropped =
      s₀.rx.dropped := by
    rw [Receiver.receive_append, ← h.rx]
    exact hroom
  rw [h.rx]
  exact Receiver.receive_completed hempty hfits hfed hall

theorem Converses.poll (h : Converses s₀ requests times s queued)
    (haccounts : Accounts s left waiting) (hvalid : s₀.device.config.validate = .ok ())
    (hempty : s₀.rx.ring.available = 0)
    (hsize : ∀ f ∈ requests, f.wireSize ≤ s₀.rx.limit Frame.maxSize) {arrived : Bytes}
    {link : Recorded σ} (now : Nat)
    (hreceive : Link.receive s.link s.config.receiveChunk = (.ok arrived, link))
    (hfed : (s.poll now).2.link.arrivals.flatten <+: requests.flatMap Frame.wire)
    (hdropped : (s.poll now).2.device.stats.framesDropped = 0)
    (hroom : (s.poll now).2.rx.dropped = s₀.rx.dropped) :
    Converses s₀ requests (times ++ [now]) (s.poll now).2 (queued ++ s.queuedIn now) := by
  obtain ⟨hreceptions, hrx, hdevice, hqueued⟩ := poll_received haccounts hreceive now
  have harrivals := Recorded.arrivals_of_receptions hreceptions
  have hfresh : ∀ f ∈ Frame.completed requests s.link.arrivals.flatten.length arrived.length,
      f.wireSize ≤ Frame.maxSize := fun f hf =>
    (hsize f (Frame.mem_of_mem_completed hf)).trans (min_le_right ..)
  rw [harrivals] at hfed
  rw [hrx] at hroom
  rw [h.delivered hempty hsize hfed hroom] at hdevice hqueued
  -- The device is the reference device but for its counters.
  have hconverse := Device.converse_zip_concat requests s₀.device h.polls now arrived
  rw [← harrivals] at hconverse
  have hreference : (Device.converse requests s₀.device 0
      (times.zip (s.link.arrivals.map List.length))).2.config.validate = .ok () := by
    rw [Device.converse_config]
    exact hvalid
  have hstats := Device.stats_emit_wires s.device now hfresh
  obtain ⟨counts, hcounts⟩ := h.device
  constructor
  case polls =>
    rw [harrivals, List.length_append, List.length_append, h.polls]
    rfl
  case rx => rw [hrx, harrivals, Receiver.receive_append, ← h.rx]
  case device =>
    rw [hcounts, Device.emit_tally, Device.emit_wires _ _ hfresh, Device.tally_tally,
      Device.tally_tally] at hdevice
    rw [hconverse]
    exact ⟨_, hdevice⟩
  case handled =>
    rw [hdevice, Device.tally_stats, hstats, harrivals, List.flatten_append,
      List.flatten_singleton, List.length_append, ← Frame.complete_append_completed,
      List.length_append, ← h.handled]
    rfl
  case rejected =>
    rw [hdevice, Device.tally_stats, hstats]
    exact h.rejected
  case replies =>
    -- Nothing is refused, so all replies are queued, and they are what is not unsolicited.
    have hrefused : (s.tx.enqueueAll (s.device.emit now ((Frame.completed requests
        s.link.arrivals.flatten.length arrived.length).map Frame.wire)).1).refused = [] := by
      rw [hdevice, Device.tally_stats, hstats] at hdropped
      exact List.length_eq_zero_iff.mp (Nat.eq_zero_of_add_eq_zero_left hdropped)
    rw [List.filter_append, h.replies, hconverse, hqueued,
      RecordQueue.admitted_of_refused_nil hrefused, hcounts, Device.emit_tally,
      Device.filter_emit_wires hreference now hfresh]

/-! ## Whole runs -/

/-- So far no reception has failed, what has arrived comes from `requests`, and nothing was
dropped. -/
structure Undisturbed (s : Session (Recorded σ)) (requests : List Frame) : Prop where
  received : ∀ r ∈ s.link.receptions, r.isOk
  fed : s.link.arrivals.flatten <+: requests.flatMap Frame.wire
  queued : s.device.stats.framesDropped = 0
  room : s.rx.dropped = 0

-- A disturbance stays.
theorem Undisturbed.of_poll {now : Nat} (h : Undisturbed (s.poll now).2 requests)
    (haccounts : Accounts s left waiting) :
    Undisturbed s requests ∧
      ∃ arrived link, Link.receive s.link s.config.receiveChunk = (.ok arrived, link) := by
  rcases hreceive : Link.receive s.link s.config.receiveChunk with ⟨e | arrived, link⟩
  · have hok := h.received (.error e) (by
      rw [receptions_poll_error hreceive]
      exact List.mem_append_right _ (List.mem_singleton.mpr rfl))
    cases hok
  · obtain ⟨hreceptions, hrx, hdevice, -⟩ := poll_received haccounts hreceive now
    refine ⟨⟨fun r hr => ?_, ?_, ?_, ?_⟩, arrived, link, rfl⟩
    · apply h.received
      rw [hreceptions]
      exact List.mem_append_left _ hr
    · refine List.IsPrefix.trans ?_ h.fed
      rw [Recorded.arrivals_of_receptions hreceptions, List.flatten_append]
      exact List.prefix_append ..
    · have hdropped := h.queued
      rw [hdevice, Device.tally_stats, Device.Stats.add_def, (Device.emit_stats ..).2] at hdropped
      exact Nat.eq_zero_of_add_eq_zero_right hdropped
    · have hroom := h.room
      rw [hrx] at hroom
      exact Nat.le_zero.mp (hroom ▸ Receiver.dropped_le_receive ..)

omit [Link σ] in
theorem converses_start (hreceptions : s₀.link.receptions = []) (hstats : s₀.device.stats = {}) :
    Converses s₀ requests [] s₀ [] := by
  have harrivals : s₀.link.arrivals = [] := by rw [Recorded.arrivals, hreceptions, List.map_nil]
  refine ⟨?_, ?_, ⟨{}, rfl⟩, ?_, ?_, rfl⟩
  · rw [harrivals]
    rfl
  · rw [harrivals]
    rfl
  · rw [harrivals, hstats, List.flatten_nil, List.length_nil, Frame.complete_zero]
    rfl
  · rw [hstats]

theorem queuedOver_concat (s : Session σ) (times : List Nat) (now : Nat) :
    s.queuedOver (times ++ [now]) = s.queuedOver times ++ (s.pollAll times).queuedIn now := by
  induction times generalizing s with
  | nil => exact List.append_nil _
  | cons first rest ih =>
    rw [List.cons_append, queuedOver, queuedOver, ih, pollAll, List.append_assoc]

theorem Converses.pollAll (hstart : Converses s₀ requests [] s₀ []) (haccounts : Accounts s₀ [] [])
    (hvalid : s₀.device.config.validate = .ok ()) (hempty : s₀.rx.ring.available = 0)
    (hsize : ∀ f ∈ requests, f.wireSize ≤ s₀.rx.limit Frame.maxSize) (hzero : s₀.rx.dropped = 0)
    (h : Undisturbed (s₀.pollAll times) requests) :
    Converses s₀ requests times (s₀.pollAll times) (s₀.queuedOver times) := by
  induction times using List.reverseRecOn with
  | nil => exact hstart
  | append_singleton times now ih =>
    obtain ⟨left, waiting, hthere, -, -⟩ := haccounts.pollAll times
    have hlast : s₀.pollAll (times ++ [now]) = ((s₀.pollAll times).poll now).2 :=
      pollAll_append ..
    rw [hlast] at h
    obtain ⟨hbefore, arrived, link, hreceive⟩ := h.of_poll hthere
    rw [hlast, queuedOver_concat]
    exact (ih hbefore).poll hthere hvalid hempty hsize now hreceive h.fed h.queued
      (h.room.trans hzero.symm)

end

/-- As long as nothing fails and nothing is dropped, a session over any link answers the request
frames of its host in the polls that complete them. What it has sent, the pending rest and what is
queued are together a sequence of frames, and those of them that are not unsolicited are the replies
to the complete requests: one for each, in their order, with its sequence number, as the device
gives it when it gets that request then. -/
theorem replies_of_requests {link : σ} {config : Config} {deviceConfig : Device.Config}
    {entropy : Random.Stream} {s₀ : Session (Recorded σ)} (requests : List Frame)
    (times : List Nat)
    (hcreate : create (Recorded.ofLink link) config deviceConfig entropy = .ok s₀)
    (hsize : ∀ f ∈ requests, f.wireSize ≤ config.maxFrameSize)
    (hreceived : ∀ r ∈ (s₀.pollAll times).link.receptions, r.isOk)
    (hsent : ∀ a ∈ (s₀.pollAll times).link.attempts, ¬ a.failed)
    (hfed : (s₀.pollAll times).link.arrivals.flatten <+: requests.flatMap Frame.wire)
    (hqueued : (s₀.pollAll times).device.stats.framesDropped = 0)
    (hroom : (s₀.pollAll times).rx.dropped = 0) :
    let s := s₀.pollAll times
    let arrived := Frame.complete requests s.link.arrivals.flatten.length
    let replies := (Device.converse requests s₀.device 0
      (times.zip (s.link.arrivals.map List.length))).1
    s.device.stats.framesHandled = arrived.length ∧
    s.device.stats.framesRejected = 0 ∧
    replies.map Frame.seq = arrived.map Frame.seq ∧
    ∃ out : List Frame, (∀ f ∈ out, f.wireSize ≤ Frame.maxSize) ∧
      s.link.accepted ++ s.pending ++ s.tx.toList.flatten = out.flatMap Frame.wire ∧
      out.filter (!Command.isUnsolicited ·.command) = replies := by
  have haccounts := accounts_create hcreate
  obtain ⟨device, hconfig, hdevice, rfl⟩ := create_ok hcreate
  obtain ⟨hvalid, hdeviceConfig, hstats⟩ := Device.powerOn_ok hdevice
  have hlimit : (Receiver.ofCapacity config.rxCapacity config.maxFrameSize).limit Frame.maxSize =
      config.maxFrameSize := min_eq_left (Config.maxFrameSize_le hconfig)
  have hempty : (Receiver.ofCapacity config.rxCapacity config.maxFrameSize).ring.available = 0 :=
    (Ring.toList_eq_nil_iff _).mp (Ring.toList_ofSize _)
  have hconverses := Converses.pollAll (converses_start rfl hstats) haccounts
    (by rw [hdeviceConfig]; exact hvalid) hempty (by rw [hlimit]; exact hsize) rfl
    ⟨hreceived, hfed, hqueued, hroom⟩
  obtain ⟨left, waiting, hthere, hframes, hrefused⟩ := haccounts.pollAll times
  rw [refusedOver_eq_nil haccounts hsent] at hrefused
  refine ⟨hconverses.handled, hconverses.rejected,
    Device.converse_zip_seq requests device hconverses.polls, _, fun f hf => ?_,
    hthere.stream_eq hframes (List.map_eq_nil_iff.mp hrefused.symm), hconverses.replies⟩
  rw [List.nil_append] at hframes
  rw [hframes] at hf
  exact hthere.size f hf

-- A ping and an unknown request, cut into pieces of six bytes.
theorem replies_of_requests_cut :
    let requests : List Frame := [⟨Command.ping, 7, []⟩, ⟨0x7F, 9, []⟩]
    let host : Loopback := { Loopback.ofCapacity 64 with inbound := requests.flatMap Frame.wire }
    let config : Config :=
      { rxCapacity := 64, txCapacity := 8195, maxFrameSize := 32, receiveChunk := 6 }
    let times := [0, 10, 20, 30]
    ∃ s₀ : Session (Recorded Loopback),
      create (Recorded.ofLink host) config {} (Random.Stream.ofSeed 1) = .ok s₀ ∧
      ∃ out : List Frame,
        (s₀.pollAll times).link.accepted ++ (s₀.pollAll times).pending ++
          (s₀.pollAll times).tx.toList.flatten = out.flatMap Frame.wire ∧
        (out.filter (!Command.isUnsolicited ·.command)).map Frame.seq = [7, 9] := by
  intro requests host config times
  have hcreate : create (Recorded.ofLink host) config {} (Random.Stream.ofSeed 1) = .ok _ := rfl
  obtain ⟨-, -, hseq, out, -, hout, hreplies⟩ := replies_of_requests requests times hcreate
    (by decide) (by decide +kernel) (by decide +kernel) (by decide +kernel) (by decide +kernel)
    (by decide +kernel)
  refine ⟨_, hcreate, out, hout, ?_⟩
  rw [hreplies, hseq]
  decide +kernel

end Session

end Acquisition
