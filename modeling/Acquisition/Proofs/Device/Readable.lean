import Mathlib
import Acquisition.Proofs.Device.Consistency

/-!
# What a device sends can be read

A device with a checked configuration never wants to send a frame that is too large to be encoded,
and from each of its frames a host reads the response that the device gave, with what it tells about
the device (`readable_run`).
-/

namespace Acquisition.Device

/-! ## Samples -/

theorem length_drawSamples (signal : SignalConfig) (timestamp : UInt32) (count index : Nat)
    (random : Random.Stream) :
    (drawSamples signal timestamp count index random).1.length = count := by
  induction count generalizing index random with
  | zero => rfl
  | succ count ih =>
    rw [drawSamples]
    dsimp only
    rw [List.length_cons, ih]

theorem length_drawChannels (signal : SignalConfig) (timestamp : UInt32) (count channels : Nat)
    (random : Random.Stream) :
    (drawChannels signal timestamp count channels random).1.length = channels ∧
      ∀ samples ∈ (drawChannels signal timestamp count channels random).1,
        samples.length = count := by
  induction channels generalizing random with
  | zero => exact ⟨rfl, nofun⟩
  | succ channels ih =>
    rw [drawChannels]
    dsimp only
    obtain ⟨hlength, hrest⟩ := ih (drawSamples signal timestamp count 0 random).2
    exact ⟨congrArg (· + 1) hlength, List.forall_mem_cons.mpr ⟨length_drawSamples .., hrest⟩⟩

/-! ## Responses -/

/-- What a response tells about the device is so. -/
def Response.Describes (d : Device) : Response → Prop
  | deviceInfo version firmware infos =>
    version = d.config.protocolVersion ∧ firmware = d.config.firmwareVersion ∧
    infos.length = d.config.channels.length ∧
    ∀ (i : Nat) (info : ChannelInfo) (ch : ChannelSpec), infos[i]? = some info →
      d.config.channels[i]? = some ch →
      info.channelId.toNat = i ∧ info.maxSampleRate = ch.maxSampleRate ∧
      info.formats = ch.formats ∧ info.name = ch.name
  | dataPacket p =>
    p.channelMask = d.state.channelMask ∧ p.samplesPerChannel = d.config.samplesPerPacket ∧
    p.samples.length = d.state.channels.countP (·.enabled) ∧
    ∀ samples ∈ p.samples, samples.length = d.config.samplesPerPacket.toNat
  | _ => True

/-- A frame that a device wants to send is encoded, queued or dropped and counted as such, and read
by a host. -/
structure Readable (d : Device) (f : Frame) : Prop where
  payload : f.payload.length ≤ Frame.maxPayload
  encoded : (f.writeInto frameRoom).1 = .ok f.wireSize
  counted : ∀ (sender : Device) (q : RecordQueue),
    (∃ q', q.enqueue f.wire = (.ok (), q') ∧
      sender.send f q = (sender.tally { framesQueued := 1 }, q')) ∨
    ∃ e, q.enqueue f.wire = (.error e, q) ∧
      sender.send f q = (sender.tally { framesDropped := 1 }, q)
  record : f.wire.length ≤ Frame.maxSize
  decoded : Frame.decode f.wire = .ok f
  response : ∃ r, Response.decode? f.command f.payload = some r ∧ r.toFrame f.seq = f ∧
    r.Describes d

variable {d d' : Device} {now : Nat} {f : Frame}

theorem Readable.wireSize (h : d.Readable f) : f.wireSize ≤ Frame.maxSize :=
  Frame.wireSize_le_iff.mpr h.payload

theorem readable_toFrame {r : Response} (hr : r.WellFormed) (hd : r.Describes d)
    (hsize : r.payload.length ≤ Frame.maxPayload) (seq : UInt8) : d.Readable (r.toFrame seq) := by
  have hwire : (r.toFrame seq).wireSize ≤ Frame.maxSize := Frame.wireSize_le_iff.mpr hsize
  have hfits := Frame.fits_of_wireSize_le hwire
  have hroom : (r.toFrame seq).wireSize ≤ frameRoom.length := by
    rwa [frameRoom, List.length_replicate]
  refine {
    payload := hsize
    encoded := by rw [Frame.writeInto_eq hfits hroom]
    counted := fun sender q => ?_
    record := (Frame.length_wire _).trans_le hwire
    decoded := Frame.decode_wire hfits
    response := ⟨r, Response.decode?_payload hr, rfl, hd⟩ }
  rw [send_eq_enqueue sender hwire]
  rcases hq : q.enqueue (r.toFrame seq).wire with ⟨e | _, q'⟩
  · rw [RecordQueue.enqueue_eq_error hq]
    exact .inr ⟨e, rfl, rfl⟩
  · exact .inl ⟨q', rfl, rfl⟩

-- What responses tell is about the configuration and the channels.
theorem Readable.of_eq (h : d'.Readable f) (hconfig : d'.config = d.config)
    (hchannels : d'.state.channels = d.state.channels) : d.Readable f := by
  obtain ⟨r, hread, hframe, hd⟩ := h.response
  refine { h with response := ⟨r, hread, hframe, ?_⟩ }
  cases r with
  | deviceInfo | dataPacket =>
    simp only [Response.Describes, State.channelMask, hconfig, hchannels] at hd ⊢
    exact hd
  | _ => trivial

/-! ## Replies -/

theorem infoOf_describes (hchecked : d.config.Checked) : (infoOf d.config).Describes d := by
  have hmany : d.config.channels.length ≤ 8 := hchecked.channels_le
  refine ⟨rfl, rfl, ?_, fun i info ch hinfo hch => ?_⟩
  · rw [List.length_map, List.length_zipIdx]
  · have hi : i < d.config.channels.length := (List.getElem?_eq_some_iff.mp hch).1
    rw [List.getElem?_map, List.getElem?_zipIdx, hch] at hinfo
    cases hinfo
    refine ⟨?_, rfl, rfl, rfl⟩
    rw [Nat.zero_add]
    exact UInt8.toNat_ofNat_of_lt' (by rw [UInt8.size]; omega)

theorem handleRequest_describes (hchecked : d.config.Checked) (request : Request) (now : Nat) :
    (d.handleRequest request now).1.WellFormed ∧ (d.handleRequest request now).1.Describes d := by
  cases request with
  | getDeviceInfo => exact ⟨infoOf_wellFormed hchecked, infoOf_describes hchecked⟩
  | requestBufferedData =>
    simp only [handleRequest]
    split <;> exact ⟨trivial, trivial⟩
  | _ => exact ⟨trivial, trivial⟩

theorem reply_readable (hvalid : d.config.validate = .ok ()) (f : Frame) (now : Nat) :
    d.Readable (d.reply f now).1 := by
  have hchecked := Config.checked_of_validate hvalid
  have hsize := Frame.wireSize_le_iff.mp (reply_size hvalid f now)
  rw [reply] at hsize ⊢
  split at hsize
  · rename_i request _
    obtain ⟨hr, hd⟩ := handleRequest_describes hchecked request now
    exact readable_toFrame hr hd hsize f.seq
  · exact readable_toFrame (r := .ofRefusal _) trivial trivial hsize f.seq

/-! ## Unprompted frames -/

theorem dataPacket_readable (hchecked : d.config.Checked) (h : d.state.Consistent d.config)
    (stamp : Nat) : d.Readable (d.dataPacket stamp).1 := by
  have hmany : d.config.channels.length ≤ 8 := hchecked.channels_le
  have hchannels := h.channels
  have hcount := State.bitCount_channelMask (s := d.state) (by omega)
  obtain ⟨hlength, hsamples⟩ := length_drawChannels d.config.signal (UInt32.ofNat stamp)
    d.config.samplesPerPacket.toNat (bitCount d.state.channelMask) d.random
  let p : DataPacket := ⟨UInt32.ofNat stamp, d.state.channelMask, d.config.samplesPerPacket,
    (drawChannels d.config.signal (UInt32.ofNat stamp) d.config.samplesPerPacket.toNat
      (bitCount d.state.channelMask) d.random).1⟩
  have hp : p.WellFormed := ⟨hlength, hsamples⟩
  -- With every channel enabled the packet is largest, and that is what was checked.
  have hsize : p.toBytes.length ≤ Frame.maxPayload :=
    calc p.toBytes.length
      _ = 8 + d.state.channels.countP (·.enabled) * d.config.samplesPerPacket.toNat * 2 := by
        rw [DataPacket.length_toBytes hp, hcount]
      _ ≤ 8 + d.config.channels.length * d.config.samplesPerPacket.toNat * 2 := by
        have henabled : d.state.channels.countP (·.enabled) ≤ d.config.channels.length :=
          hchannels ▸ List.countP_le_length
        gcongr
      _ ≤ Frame.maxPayload := hchecked.packet
  exact readable_toFrame (r := .dataPacket p) hp ⟨rfl, rfl, hlength.trans hcount, hsamples⟩ hsize _

theorem Move.readable (hmove : Move now d f d') (hchecked : d.config.Checked)
    (h : d.state.Consistent d.config) : d.Readable f := by
  cases hmove with
  | fire =>
    refine readable_toFrame (r := .eventTriggered ..) trivial trivial ?_ _
    simp [Response.payload, Bytes.ofUInt16, Bytes.ofUInt32, Frame.maxPayload, Frame.maxSize,
      Frame.minSize, Frame.overhead, Frame.fixedLength]
  | packet | sample => exact dataPacket_readable hchecked h _
  | complete =>
    exact readable_toFrame (r := .bufferTransferComplete) trivial trivial (Nat.zero_le _) _

theorem Moves.readable {frames : List Frame} (hmoves : Moves now d frames d')
    (hchecked : d.config.Checked) (h : d.state.Consistent d.config) :
    ∀ f ∈ frames, d.Readable f := by
  induction hmoves with
  | nil => exact nofun
  | cons hmove _ ih =>
    obtain ⟨hconfig, -, -, hchannels⟩ := hmove.keeps
    have hrest := ih (hconfig ▸ hchecked) (hconfig ▸ hmove.consistent h)
    exact List.forall_mem_cons.mpr ⟨hmove.readable hchecked h,
      fun f hf => (hrest f hf).of_eq hconfig hchannels⟩

/-! ## Runs -/

-- In continuous mode a running device sends a packet whenever data is due.
theorem emits_sample (hrunning : d.state.isRunning = true) (hmode : d.state.mode = .continuous)
    (hdue : d.dataDue now = true) (queue : RecordQueue) :
    d.emits (.tick now queue) = [(now, (d.dataPacket now).1)] := by
  simp [emits, due, hrunning, hmode, hdue]

theorem readable_emits (hvalid : d.config.validate = .ok ()) (h : d.state.Consistent d.config)
    (input : Input) : ∀ sent ∈ d.emits input, d.Readable sent.2 := by
  have hchecked := Config.checked_of_validate hvalid
  cases input with
  | frame wire now queue =>
    rw [emits]
    cases hreceived : received? wire with
    | some f =>
      rw [respond_of_received hreceived]
      simpa using reply_readable hvalid f now
    | none =>
      rw [respond_of_not_received hreceived]
      exact List.forall_mem_nil _
  | tick now queue =>
    rw [emits, List.forall_mem_map]
    exact (due_moves hchecked now).readable hchecked h
  | request | stop => exact List.forall_mem_nil _

variable {config : Config} {entropy : Random.Stream} {d₀ : Device}

theorem readable_run (hpower : powerOn config entropy = .ok d₀) (inputs : List Input)
    (input : Input) : ∀ sent ∈ (d₀.run inputs).emits input, (d₀.run inputs).Readable sent.2 := by
  obtain ⟨hvalid, hconfig, -⟩ := powerOn_ok hpower
  have hrun : (d₀.run inputs).config = config := (d₀.run_config inputs).trans hconfig
  obtain ⟨hconsistent, -⟩ := consistent_recalls_of_powerOn hpower inputs
  exact readable_emits (hrun ▸ hvalid) (hrun ▸ hconsistent) input

end Acquisition.Device
