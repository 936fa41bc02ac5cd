import Mathlib
import Acquisition.Proofs.Device.Decoding
import Acquisition.Proofs.Device.Emission

/-!
# Requests and their replies

A device with a checked configuration answers each well-formed request with one frame, which carries
the sequence number of the request, is never of an unsolicited kind and always fits into a queued
record. `converse` says which replies a sequence of requests gets that arrives over several polls.
-/

namespace Acquisition

namespace Device

/-! ## One reply -/

theorem reply_seq (d : Device) (f : Frame) (now : Nat) : (d.reply f now).1.seq = f.seq := by
  rw [reply]
  split <;> rfl

theorem reply_solicited (d : Device) (f : Frame) (now : Nat) :
    Command.isUnsolicited (d.reply f now).1.command = false := by
  rw [reply]
  split
  · rename_i request _
    cases request with
    | requestBufferedData =>
      simp only [handleRequest]
      split <;> rfl
    | _ => rfl
  · rfl

theorem length_flatMap_toBytes {infos : List ChannelInfo}
    (h : ∀ info ∈ infos, (Text.Utf8.ofString info.name).length < UInt8.size) :
    (infos.flatMap ChannelInfo.toBytes).length ≤ infos.length * 263 := by
  induction infos with
  | nil => simp
  | cons info rest ih =>
    have hname : (Text.Utf8.ofString info.name).length < 256 := h info List.mem_cons_self
    have hrest := ih fun i hi => h i (List.mem_cons_of_mem _ hi)
    rw [List.flatMap_cons, List.length_append, List.length_cons]
    simp only [ChannelInfo.toBytes, Bytes.ofUInt32, Bytes.ofUInt16, List.length_append,
      List.length_cons, Bytes.length_ofNat]
    omega

theorem infoOf_wellFormed {c : Config} (h : c.Checked) : (infoOf c).WellFormed := by
  have hcount : c.channels.length ≤ 8 := h.channels_le
  refine ⟨?_, fun info hinfo => ?_⟩
  · rw [List.length_map, List.length_zipIdx, UInt8.size]
    omega
  · obtain ⟨entry, hentry, rfl⟩ := List.mem_map.mp hinfo
    exact h.names entry.1 (List.fst_mem_of_mem_zipIdx hentry)

-- The checked names keep the device info small.
theorem infoOf_size {c : Config} (h : c.validate = .ok ()) : (infoOf c).payload.length ≤ 2108 := by
  have hchecked := Config.checked_of_validate h
  have hcount : c.channels.length ≤ 8 := hchecked.channels_le
  have hinfos := length_flatMap_toBytes (infoOf_wellFormed hchecked).2
  rw [List.length_map, List.length_zipIdx] at hinfos
  rw [infoOf, Response.payload, List.length_append, List.length_cons, List.length_cons,
    Bytes.ofUInt16, Bytes.length_ofNat]
  omega

theorem reply_size {d : Device} (hvalid : d.config.validate = .ok ()) (f : Frame) (now : Nat) :
    (d.reply f now).1.wireSize ≤ Frame.maxSize := by
  have hsmall (r : Response) (seq : UInt8) (h : r.payload.length ≤ 2108) :
      (r.toFrame seq).wireSize ≤ Frame.maxSize := by
    rw [Frame.wireSize_eq, Response.toFrame, Frame.maxSize]
    dsimp only
    omega
  rw [reply]
  split
  · apply hsmall
    rename_i request _
    cases request with
    | getDeviceInfo => exact infoOf_size hvalid
    | requestBufferedData =>
      simp only [handleRequest]
      split <;> simp [Response.ofRefusal, Response.payload]
    | ping => exact (Bytes.length_ofNat ..).trans_le (by decide)
    | _ => exact (by decide : 4 ≤ 2108).trans' (by simp [handleRequest, Response.payload])
  · exact hsmall _ _ (by simp [Response.ofRefusal, Response.payload])

/-! ## Unprompted frames -/

theorem due_unsolicited (d : Device) (now : Nat) :
    ∀ f ∈ (d.due now).1, Command.isUnsolicited f.command = true := by
  have hfire (f : Frame) (hf : f ∈ (d.fire now).1) : Command.isUnsolicited f.command = true := by
    simp only [fire] at hf
    split at hf
    · rw [List.mem_singleton.mp hf]
      rfl
    · simp at hf
  have hburst (d : Device) (f : Frame) (hf : f ∈ (d.continueBurst now).1) :
      Command.isUnsolicited f.command = true := by
    simp only [continueBurst] at hf
    split at hf
    · simp at hf
    · split at hf <;> rw [List.mem_singleton.mp hf] <;> rfl
  intro f hf
  simp only [due] at hf
  split at hf
  · simp at hf
  · split at hf
    · rcases List.mem_append.mp hf with hf | hf
      · exact hfire f hf
      · exact hburst _ f hf
    · split at hf
      · rw [List.mem_singleton.mp hf]
        rfl
      · simp at hf

/-! ## Requests in a cycle -/

/-- The replies to requests that are answered at one time. -/
def answer (d : Device) (now : Nat) : List Frame → List Frame × Device
  | [] => ([], d)
  | f :: rest =>
    let (reply, d) := d.reply f now
    let (more, d) := d.answer now rest
    (reply :: more, d)

theorem answer_seq (d : Device) (now : Nat) (requests : List Frame) :
    (d.answer now requests).1.map Frame.seq = requests.map Frame.seq := by
  induction requests generalizing d with
  | nil => rfl
  | cons f rest ih => simp only [answer, List.map_cons, ih, reply_seq]

theorem answer_keeps (d : Device) (now : Nat) (requests : List Frame) :
    (d.answer now requests).2.config = d.config ∧ (d.answer now requests).2.stats = d.stats := by
  induction requests generalizing d with
  | nil => exact ⟨rfl, rfl⟩
  | cons f rest ih =>
    obtain ⟨hconfig, hstats⟩ := reply_keeps d f now
    exact ⟨(ih _).1.trans hconfig, (ih _).2.trans hstats⟩

theorem answer_solicited {d : Device} {now : Nat} {requests : List Frame} {f : Frame}
    (hf : f ∈ (d.answer now requests).1) : Command.isUnsolicited f.command = false := by
  induction requests generalizing d with
  | nil => simp [answer] at hf
  | cons g rest ih =>
    simp only [answer, List.mem_cons] at hf
    rcases hf with rfl | hf
    · exact reply_solicited ..
    · exact ih hf

theorem answer_size {d : Device} (hvalid : d.config.validate = .ok ()) {now : Nat}
    {requests : List Frame} {f : Frame} (hf : f ∈ (d.answer now requests).1) :
    f.wireSize ≤ Frame.maxSize := by
  induction requests generalizing d with
  | nil => simp [answer] at hf
  | cons g rest ih =>
    simp only [answer, List.mem_cons] at hf
    rcases hf with rfl | hf
    · exact reply_size hvalid ..
    · exact ih (by rw [(reply_keeps ..).1]; exact hvalid) hf

theorem respondAll_wires (d : Device) (now : Nat) {requests : List Frame}
    (hsize : ∀ f ∈ requests, f.wireSize ≤ Frame.maxSize) :
    d.respondAll now (requests.map Frame.wire) =
      ((d.answer now requests).1,
        (d.answer now requests).2.tally { framesHandled := requests.length }) := by
  induction requests generalizing d with
  | nil => rfl
  | cons f rest ih =>
    rw [List.map_cons, respondAll, respond_wire d (hsize f List.mem_cons_self)]
    dsimp only
    rw [respondAll_tally, ih _ fun g hg => hsize g (List.mem_cons_of_mem _ hg), tally_tally]
    rfl

theorem emit_wires (d : Device) (now : Nat) {requests : List Frame}
    (hsize : ∀ f ∈ requests, f.wireSize ≤ Frame.maxSize) :
    d.emit now (requests.map Frame.wire) =
      ((d.answer now requests).1 ++ ((d.answer now requests).2.due now).1,
        ((d.answer now requests).2.due now).2.tally { framesHandled := requests.length }) := by
  simp only [emit, respondAll_wires d now hsize, due_tally]

theorem stats_emit_wires (d : Device) (now : Nat) {requests : List Frame}
    (hsize : ∀ f ∈ requests, f.wireSize ≤ Frame.maxSize) :
    (d.emit now (requests.map Frame.wire)).2.stats =
      d.stats + { framesHandled := requests.length } := by
  simp only [emit_wires d now hsize, tally_stats, (due_keeps ..).2, (answer_keeps ..).2]

-- Of what a device emits, the replies are what is not unsolicited.
theorem filter_emit_wires {d : Device} (hvalid : d.config.validate = .ok ()) (now : Nat)
    {requests : List Frame} (hsize : ∀ f ∈ requests, f.wireSize ≤ Frame.maxSize) :
    (((d.emit now (requests.map Frame.wire)).1.filter (·.wireSize ≤ Frame.maxSize)).filter
      (!Command.isUnsolicited ·.command)) = (d.answer now requests).1 := by
  rw [emit_wires d now hsize, List.filter_append, List.filter_append]
  have hprompts : (((d.answer now requests).2.due now).1.filter
      (·.wireSize ≤ Frame.maxSize)).filter (!Command.isUnsolicited ·.command) = [] := by
    rw [List.filter_eq_nil_iff]
    intro f hf
    simp [due_unsolicited _ _ f (List.mem_filter.mp hf).1]
  have hreplies : (d.answer now requests).1.filter (·.wireSize ≤ Frame.maxSize) =
      (d.answer now requests).1 :=
    List.filter_eq_self.mpr fun f hf => by simpa using answer_size hvalid hf
  rw [hprompts, List.append_nil, hreplies]
  exact List.filter_eq_self.mpr fun f hf => by simpa using answer_solicited hf

end Device

/-! ## Requests over several polls -/

namespace Frame

/-- The frames of a list that end among the first `n` bytes of it. -/
def complete : List Frame → Nat → List Frame
  | [], _ => []
  | f :: rest, n => if f.wireSize ≤ n then f :: complete rest (n - f.wireSize) else []

theorem complete_zero (frames : List Frame) : complete frames 0 = [] := by
  cases frames with
  | nil => rfl
  | cons f rest => exact if_neg (by rw [wireSize_eq]; omega)

theorem complete_isPrefix (frames : List Frame) (n : Nat) : complete frames n <+: frames := by
  induction frames generalizing n with
  | nil => exact List.prefix_refl _
  | cons f rest ih =>
    rw [complete]
    split
    · exact (List.prefix_cons_inj f).mpr (ih _)
    · exact List.nil_prefix

theorem complete_mono {frames : List Frame} {n m : Nat} (h : n ≤ m) :
    complete frames n <+: complete frames m := by
  induction frames generalizing n m with
  | nil => exact List.prefix_refl _
  | cons f rest ih =>
    rw [complete, complete]
    split
    · rw [if_pos (by omega)]
      exact (List.prefix_cons_inj f).mpr (ih (by omega))
    · exact List.nil_prefix

/-- The frames that end after the first `n` bytes and within the `count` bytes after them. -/
def completed (frames : List Frame) (n count : Nat) : List Frame :=
  (complete frames (n + count)).drop (complete frames n).length

theorem mem_of_mem_completed {frames : List Frame} {n count : Nat} {f : Frame}
    (h : f ∈ completed frames n count) : f ∈ frames :=
  (complete_isPrefix ..).subset (List.mem_of_mem_drop h)

theorem complete_append_completed (frames : List Frame) (n count : Nat) :
    complete frames n ++ completed frames n count = complete frames (n + count) :=
  List.prefix_iff_eq_append.mp (complete_mono (Nat.le_add_right n count))

end Frame

namespace Device

/-- The replies to a stream of requests. For each poll there is the time and how many bytes arrive
in it; `n` of them have arrived before. -/
def converse (requests : List Frame) (d : Device) (n : Nat) :
    List (Nat × Nat) → List Frame × Device
  | [] => ([], d)
  | (now, count) :: polls =>
    let (replies, d) := d.answer now (Frame.completed requests n count)
    let (_, d) := d.due now
    let (more, d) := converse requests d (n + count) polls
    (replies ++ more, d)

variable (requests : List Frame)

theorem converse_concat (d : Device) (n : Nat) (polls : List (Nat × Nat)) (now count : Nat) :
    let before := converse requests d n polls
    let last := before.2.answer now
      (Frame.completed requests (n + (polls.map Prod.snd).sum) count)
    converse requests d n (polls ++ [(now, count)]) =
      (before.1 ++ last.1, (last.2.due now).2) := by
  induction polls generalizing d n with
  | nil => simp [converse]
  | cons poll rest ih =>
    simp only [List.cons_append, converse, ih, List.map_cons, List.sum_cons, Nat.add_assoc,
      List.append_assoc]

theorem sum_polls {times : List Nat} {arrivals : List Bytes} (h : arrivals.length = times.length) :
    ((times.zip (arrivals.map List.length)).map Prod.snd).sum = arrivals.flatten.length := by
  rw [List.map_snd_zip (by rw [List.length_map, h]), List.length_flatten]

-- Another poll of a list of times and of what arrived at them.
theorem converse_zip_concat (d : Device) {times : List Nat} {arrivals : List Bytes}
    (h : arrivals.length = times.length) (now : Nat) (arrived : Bytes) :
    let before := converse requests d 0 (times.zip (arrivals.map List.length))
    let last := before.2.answer now
      (Frame.completed requests arrivals.flatten.length arrived.length)
    converse requests d 0 ((times ++ [now]).zip ((arrivals ++ [arrived]).map List.length)) =
      (before.1 ++ last.1, (last.2.due now).2) := by
  have hpolls : (times ++ [now]).zip ((arrivals ++ [arrived]).map List.length) =
      times.zip (arrivals.map List.length) ++ [(now, arrived.length)] := by
    rw [List.map_append, List.zip_append (by rw [List.length_map, h])]
    rfl
  have hconverse := converse_concat requests d 0
    (times.zip (arrivals.map List.length)) now arrived.length
  rw [sum_polls h, Nat.zero_add, ← hpolls] at hconverse
  exact hconverse

theorem converse_config (d : Device) (n : Nat) (polls : List (Nat × Nat)) :
    (converse requests d n polls).2.config = d.config := by
  induction polls generalizing d n with
  | nil => rfl
  | cons poll rest ih => simp only [converse, ih, (due_keeps ..).1, (answer_keeps ..).1]

-- Each complete request has its reply, with its sequence number.
theorem converse_seq (d : Device) (n : Nat) (polls : List (Nat × Nat)) :
    (Frame.complete requests n).map Frame.seq ++ (converse requests d n polls).1.map Frame.seq =
      (Frame.complete requests (n + (polls.map Prod.snd).sum)).map Frame.seq := by
  induction polls generalizing d n with
  | nil => simp [converse]
  | cons poll rest ih =>
    simp only [converse, List.map_append, answer_seq, List.map_cons, List.sum_cons]
    rw [← List.append_assoc, ← List.map_append, Frame.complete_append_completed, ih,
      Nat.add_assoc]

theorem converse_zip_seq (d : Device) {times : List Nat} {arrivals : List Bytes}
    (h : arrivals.length = times.length) :
    (converse requests d 0 (times.zip (arrivals.map List.length))).1.map Frame.seq =
      (Frame.complete requests arrivals.flatten.length).map Frame.seq := by
  have hseq := converse_seq requests d 0 (times.zip (arrivals.map List.length))
  rw [Frame.complete_zero, List.map_nil, List.nil_append, Nat.zero_add, sum_polls h] at hseq
  exact hseq

end Device

end Acquisition
