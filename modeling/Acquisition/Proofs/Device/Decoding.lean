import Mathlib
import Acquisition.Bytes.Lemmas
import Acquisition.Device.Response
import Acquisition.Proofs.Text.Utf8

/-!
# Responses are read back

A host reads a response off its command byte and its payload. What was written it reads as it was
(`decode?_payload`), as long as the counts in the payload are those of the lists that they count.
-/

namespace Acquisition.Device

/-! ## Device info -/

namespace ChannelInfo

theorem take?_toBytes {info : ChannelInfo}
    (hname : (Text.Utf8.ofString info.name).length < UInt8.size) (rest : Bytes) :
    take? (info.toBytes ++ rest) = some (info, rest) := by
  have hsize : (UInt8.ofNat (Text.Utf8.ofString info.name).length).toNat =
      (Text.Utf8.ofString info.name).length := UInt8.toNat_ofNat_of_lt' hname
  simp [take?, toBytes, hsize, Text.Utf8.decodeLossy_ofString]

theorem takeMany?_flatMap {infos : List ChannelInfo}
    (hnames : ∀ info ∈ infos, (Text.Utf8.ofString info.name).length < UInt8.size) :
    takeMany? infos.length (infos.flatMap toBytes) = some infos := by
  induction infos with
  | nil => rfl
  | cons info rest ih =>
    have hrest := ih fun other hother => hnames other (List.mem_cons_of_mem _ hother)
    rw [List.length_cons, List.flatMap_cons, takeMany?,
      take?_toBytes (hnames info List.mem_cons_self)]
    simp [hrest]

end ChannelInfo

/-! ## Samples -/

namespace DataPacket

theorem takeSamples_flatMap (samples : List Int16) (rest : Bytes) :
    takeSamples samples.length (samples.flatMap Bytes.ofInt16 ++ rest) = (samples, rest) := by
  induction samples with
  | nil => rfl
  | cons sample more ih =>
    have hsize := Bytes.length_ofInt16 sample
    rw [List.length_cons, List.flatMap_cons, List.append_assoc, takeSamples,
      List.take_left' hsize, List.drop_left' hsize, ih, Bytes.toNat_ofInt16, UInt16.ofNat_toNat,
      Int16.toInt16_toUInt16]

variable {count : Nat} {channels : List (List Int16)}

theorem takeChannels_flatten (hcount : ∀ samples ∈ channels, samples.length = count) :
    takeChannels channels.length count (channels.flatten.flatMap Bytes.ofInt16) = channels := by
  induction channels with
  | nil => rfl
  | cons samples rest ih =>
    obtain ⟨hfirst, hrest⟩ := List.forall_mem_cons.mp hcount
    rw [List.length_cons, List.flatten_cons, List.flatMap_append, takeChannels]
    nth_rewrite 1 [← hfirst]
    rw [takeSamples_flatMap]
    dsimp only
    rw [ih hrest]

theorem length_flatMap_ofInt16 (hcount : ∀ samples ∈ channels, samples.length = count) :
    (channels.flatten.flatMap Bytes.ofInt16).length = channels.length * count * 2 := by
  have hsamples : channels.flatten.length = channels.length * count := by
    rw [List.length_flatten, List.map_eq_replicate_iff.mpr hcount, List.sum_replicate, smul_eq_mul]
  have hbytes : channels.flatten.map (fun v => (Bytes.ofInt16 v).length) =
      List.replicate channels.flatten.length 2 :=
    List.map_eq_replicate_iff.mpr fun v _ => Bytes.length_ofInt16 v
  rw [List.length_flatMap, hbytes, List.sum_replicate, smul_eq_mul, hsamples]

/-- There are samples for each bit of the mask, and as many for each as the packet says. -/
structure WellFormed (p : DataPacket) : Prop where
  channels : p.samples.length = bitCount p.channelMask
  samples : ∀ samples ∈ p.samples, samples.length = p.samplesPerChannel.toNat

theorem length_toBytes {p : DataPacket} (h : p.WellFormed) : p.toBytes.length =
    8 + bitCount p.channelMask * p.samplesPerChannel.toNat * 2 := by
  rw [toBytes, List.length_append, length_flatMap_ofInt16 h.samples, h.channels]
  rfl

theorem ofBytes?_toBytes {p : DataPacket} (h : p.WellFormed) : ofBytes? p.toBytes = some p := by
  have hsize := length_flatMap_ofInt16 h.samples
  have hsamples := takeChannels_flatten h.samples
  rw [h.channels] at hsize hsamples
  simp [ofBytes?, toBytes, hsize, hsamples]

end DataPacket

/-! ## All responses -/

namespace Response

/-- The counts in the payload are those of the lists that they count. -/
def WellFormed : Response → Prop
  | deviceInfo _ _ infos => infos.length < UInt8.size ∧
      ∀ info ∈ infos, (Text.Utf8.ofString info.name).length < UInt8.size
  | dataPacket p => p.WellFormed
  | _ => True

theorem decodeDeviceInfo?_payload {version : UInt8} {firmware : UInt16} {infos : List ChannelInfo}
    (h : (deviceInfo version firmware infos).WellFormed) :
    decodeDeviceInfo? (deviceInfo version firmware infos).payload =
      some (.deviceInfo version firmware infos) := by
  have hcount : (UInt8.ofNat infos.length).toNat = infos.length := UInt8.toNat_ofNat_of_lt' h.1
  simp [decodeDeviceInfo?, payload, hcount, ChannelInfo.takeMany?_flatMap h.2]

theorem decodeEvent?_payload (timestamp : UInt32) (channel : UInt16) (before after : UInt32) :
    decodeEvent? (eventTriggered timestamp channel before after).payload =
      some (.eventTriggered timestamp channel before after) := by
  have hlast := Bytes.takeField?_ofUInt32 after []
  rw [List.append_nil] at hlast
  simp [decodeEvent?, payload, hlast]

/-- A response is read as it was written. -/
theorem decode?_payload {r : Response} (h : r.WellFormed) :
    decode? r.command r.payload = some r := by
  cases r with
  | pong deviceId =>
    have hfield := Bytes.takeField?_ofUInt64 deviceId []
    rw [List.append_nil] at hfield
    simp [decode?, command, payload, hfield]
  | deviceInfo => exact decodeDeviceInfo?_payload h
  | dataPacket p => exact congrArg (Option.map dataPacket) (DataPacket.ofBytes?_toBytes h)
  | eventTriggered => exact decodeEvent?_payload ..
  | logMessage text => exact congrArg (some <| logMessage ·) (Text.Utf8.decodeLossy_ofString text)
  | status | ack | nack | bufferTransferComplete => rfl

end Response

end Acquisition.Device
