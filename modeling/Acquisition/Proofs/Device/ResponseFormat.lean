import Mathlib
import Acquisition.Proofs.Device.Decoding
import Acquisition.Proofs.Frame.Layout

/-!
# The format of responses

Each response has its form on the link. What a host reads as a response stands at the front of the
payload in the form that the device writes, if its texts are valid (`eq_of_decode?`). Writing and
reading are inverse to each other (`decode?_inverse`).
-/

namespace Acquisition

/-- The commands of what a device sends. -/
def Command.responses : List UInt8 :=
  [pong, statusResponse, deviceInfoResponse, ack, nack, dataPacket, eventTriggered,
    bufferTransferComplete, logMessage]

namespace Device

open Text.Utf8 (Valid)

/-! ## Device info -/

namespace ChannelInfo

/-- The bytes of a channel with these bytes for its name. -/
def withName (c : ChannelInfo) (name : Bytes) : Bytes :=
  c.channelId :: Bytes.ofUInt32 c.maxSampleRate ++ Bytes.ofUInt16 c.formats ++
    UInt8.ofNat name.length :: name

/-- The bytes that are read as the names of `count` channels. Before each stand 8 bytes, the last of
which is its size. -/
def nameFields : (count : Nat) → Bytes → List Bytes
  | 0, _ => []
  | count + 1, bytes =>
    let size := (bytes.getD 7 0).toNat
    (bytes.drop 8).take size :: nameFields count (bytes.drop (8 + size))

theorem nameFields_withName (c : ChannelInfo) {name : Bytes} (hname : name.length < UInt8.size)
    (count : Nat) (rest : Bytes) :
    nameFields (count + 1) (c.withName name ++ rest) = name :: nameFields count rest := by
  have hsize : (UInt8.ofNat name.length).toNat = name.length := UInt8.toNat_ofNat_of_lt' hname
  have hfront : c.withName name ++ rest =
      (c.channelId :: Bytes.ofUInt32 c.maxSampleRate ++ Bytes.ofUInt16 c.formats) ++
        UInt8.ofNat name.length :: (name ++ rest) := by
    simp [withName]
  have hlen : (c.channelId :: Bytes.ofUInt32 c.maxSampleRate ++
      Bytes.ofUInt16 c.formats).length = 7 := by
    simp [Bytes.ofUInt32, Bytes.ofUInt16]
  have hfield : (c.withName name ++ rest).getD 7 0 = UInt8.ofNat name.length := by
    rw [hfront, List.getD_append_right _ _ _ _ hlen.le, hlen]
    rfl
  have hdrop : (c.withName name ++ rest).drop 8 = name ++ rest := by
    rw [hfront, show 8 = 7 + 1 from rfl, ← List.drop_drop, List.drop_left' hlen]
    rfl
  rw [nameFields, hfield, hsize, ← List.drop_drop, hdrop, List.take_left, List.drop_left]

theorem eq_of_take? {bytes rest : Bytes} {c : ChannelInfo} (h : take? bytes = some (c, rest)) :
    ∃ name : Bytes, name.length < UInt8.size ∧ c.name = Text.Utf8.decodeLossy name ∧
      bytes = c.withName name ++ rest := by
  simp only [take?, Option.bind_eq_bind, Option.bind_eq_some_iff] at h
  obtain ⟨⟨id, r₁⟩, hid, ⟨rate, r₂⟩, hrate, ⟨formats, r₃⟩, hformats, ⟨size, r₄⟩, hsize, h⟩ := h
  dsimp only at hrate hformats hsize h
  split at h
  · cases h
  · rename_i hroom
    cases h
    have hlen : (r₄.take size).length = size := List.length_take_of_le (Nat.le_of_not_lt hroom)
    refine ⟨r₄.take size, hlen.symm ▸ (Bytes.eq_of_takeField? hsize).1, rfl, ?_⟩
    rw [Bytes.eq_of_takeField?_one hid, Bytes.eq_of_takeField?_four hrate,
      Bytes.eq_of_takeField?_two hformats, Bytes.eq_of_takeField?_one hsize, withName, hlen]
    simp

theorem eq_of_takeMany? {count : Nat} {bytes : Bytes} {infos : List ChannelInfo}
    (h : takeMany? count bytes = some infos) :
    infos.length = count ∧
      infos.map name = (nameFields count bytes).map Text.Utf8.decodeLossy ∧
      ((∀ name ∈ nameFields count bytes, Valid name) →
        (∀ c ∈ infos, (Text.Utf8.ofString c.name).length < UInt8.size) ∧
          infos.flatMap toBytes <+: bytes) := by
  induction count generalizing bytes infos with
  | zero =>
    cases h
    exact ⟨rfl, rfl, fun _ => ⟨nofun, List.nil_prefix⟩⟩
  | succ count ih =>
    simp only [takeMany?, Option.bind_eq_bind, Option.bind_eq_some_iff] at h
    obtain ⟨⟨c, rest⟩, hfirst, more, hmore, h⟩ := h
    cases h
    obtain ⟨name, hname, htext, rfl⟩ := eq_of_take? hfirst
    obtain ⟨hlength, hmap, hvalid⟩ := ih hmore
    rw [nameFields_withName c hname]
    refine ⟨congrArg (· + 1) hlength, ?_, fun hnames => ?_⟩
    · rw [List.map_cons, List.map_cons, htext, hmap]
    · obtain ⟨hfront, hnames⟩ := List.forall_mem_cons.mp hnames
      obtain ⟨hshort, hprefix⟩ := hvalid hnames
      have hbytes : Text.Utf8.ofString c.name = name := htext ▸ hfront.ofString_decodeLossy
      have hentry : c.toBytes = c.withName name := by rw [← hbytes]; rfl
      refine ⟨List.forall_mem_cons.mpr ⟨hbytes ▸ hname, hshort⟩, ?_⟩
      rw [List.flatMap_cons, hentry]
      exact (List.prefix_append_right_inj _).mpr hprefix

end ChannelInfo

/-! ## Samples -/

namespace DataPacket

theorem takeSamples_spec {count : Nat} {bytes : Bytes} (h : count * 2 ≤ bytes.length) :
    (takeSamples count bytes).1.length = count ∧
      (takeSamples count bytes).1.flatMap Bytes.ofInt16 = bytes.take (count * 2) ∧
      (takeSamples count bytes).2 = bytes.drop (count * 2) := by
  induction count generalizing bytes with
  | zero => exact ⟨rfl, by simp [takeSamples], by simp [takeSamples]⟩
  | succ count ih =>
    have hrest : count * 2 ≤ (bytes.drop 2).length := by
      rw [List.length_drop]
      omega
    obtain ⟨hlength, hsamples, hleft⟩ := ih hrest
    have hsize : (bytes.take 2).length = 2 := List.length_take_of_le (by omega)
    have hfirst := Bytes.ofInt16_toInt16 hsize
    rw [takeSamples]
    dsimp only
    refine ⟨congrArg (· + 1) hlength, ?_, ?_⟩
    · rw [List.flatMap_cons, hfirst, hsamples, Nat.add_mul, Nat.add_comm (count * 2),
        List.take_add]
    · rw [hleft, List.drop_drop, Nat.add_mul, Nat.add_comm (count * 2)]

theorem takeChannels_spec {channels count : Nat} {bytes : Bytes}
    (h : bytes.length = channels * count * 2) :
    (takeChannels channels count bytes).length = channels ∧
      (∀ samples ∈ takeChannels channels count bytes, samples.length = count) ∧
      (takeChannels channels count bytes).flatten.flatMap Bytes.ofInt16 = bytes := by
  induction channels generalizing bytes with
  | zero =>
    rw [Nat.zero_mul, Nat.zero_mul, List.length_eq_zero_iff] at h
    subst h
    exact ⟨rfl, nofun, rfl⟩
  | succ channels ih =>
    rw [Nat.add_mul, Nat.add_mul, Nat.one_mul] at h
    have hfirst : count * 2 ≤ bytes.length := by omega
    have hrest : (bytes.drop (count * 2)).length = channels * count * 2 := by
      rw [List.length_drop]
      omega
    obtain ⟨hlength, hsamples, hleft⟩ := takeSamples_spec hfirst
    obtain ⟨hchannels, hcounts, hbytes⟩ := ih hrest
    rw [takeChannels]
    dsimp only
    rw [hleft]
    refine ⟨congrArg (· + 1) hchannels, List.forall_mem_cons.mpr ⟨hlength, hcounts⟩, ?_⟩
    rw [List.flatten_cons, List.flatMap_append, hsamples, hbytes, List.take_append_drop]

theorem eq_of_ofBytes? {bytes : Bytes} {p : DataPacket} (h : ofBytes? bytes = some p) :
    p.WellFormed ∧ p.toBytes = bytes := by
  simp only [ofBytes?, Option.bind_eq_bind, Option.bind_eq_some_iff] at h
  obtain ⟨⟨timestamp, r₁⟩, htimestamp, ⟨mask, r₂⟩, hmask, ⟨count, r₃⟩, hcount, h⟩ := h
  dsimp only at hmask hcount h
  split at h
  · cases h
  · rename_i hsize
    cases h
    obtain ⟨hchannels, hsamples, hbytes⟩ := takeChannels_spec (not_not.mp hsize)
    have hlt : count < UInt16.size := (Bytes.eq_of_takeField? hcount).1
    refine ⟨⟨hchannels, ?_⟩, ?_⟩
    · rwa [UInt16.toNat_ofNat_of_lt' hlt]
    · rw [toBytes, hbytes, Bytes.eq_of_takeField?_four htimestamp,
        Bytes.eq_of_takeField?_two hmask, Bytes.eq_of_takeField?_two hcount]
      simp

theorem ofBytes?_eq {bytes : Bytes} (h : 8 ≤ bytes.length) :
    ofBytes? bytes =
      if bytes.length - 8 = bitCount (.ofNat (Frame.fieldAt bytes 4)) * Frame.fieldAt bytes 6 * 2
      then some {
        timestamp := .ofNat (Bytes.toNat (bytes.take 4))
        channelMask := .ofNat (Frame.fieldAt bytes 4)
        samplesPerChannel := .ofNat (Frame.fieldAt bytes 6)
        samples := takeChannels (bitCount (.ofNat (Frame.fieldAt bytes 4)))
          (Frame.fieldAt bytes 6) (bytes.drop 8) }
      else none := by
  simp [ofBytes?, Bytes.takeField?, Frame.fieldAt, show 4 ≤ bytes.length by omega,
    show 2 ≤ bytes.length - 4 by omega, show 2 ≤ bytes.length - 6 by omega]
  congr

theorem exists_ofBytes?_iff {bytes : Bytes} : (∃ p, ofBytes? bytes = some p) ↔
    bytes.length =
      8 + 2 * bitCount (UInt16.ofNat (Frame.fieldAt bytes 4)) * Frame.fieldAt bytes 6 := by
  rw [Nat.mul_assoc, Nat.mul_comm 2]
  constructor
  · rintro ⟨p, hp⟩
    have hlong : 8 ≤ bytes.length := by
      obtain ⟨hwell, rfl⟩ := eq_of_ofBytes? hp
      rw [length_toBytes hwell]
      exact Nat.le_add_right ..
    rw [ofBytes?_eq hlong, Option.ite_none_right_eq_some] at hp
    omega
  · intro hsize
    rw [ofBytes?_eq (by omega)]
    exact ⟨_, if_pos (by omega)⟩

end DataPacket

/-! ## All responses -/

namespace Response

/-- The parts of a payload that are read as text. -/
def textFields (id : UInt8) (payload : Bytes) : List Bytes :=
  if id = Command.deviceInfoResponse then
    ChannelInfo.nameFields (payload.getD 3 0).toNat (payload.drop 4)
  else if id = Command.logMessage then [payload]
  else []

/-- The texts in a response. -/
def texts : Response → List String
  | deviceInfo _ _ infos => infos.map ChannelInfo.name
  | logMessage text => [text]
  | _ => []

/-- The response is written as `bytes` or the front of them, under the command `id`. -/
structure Fronts (r : Response) (id : UInt8) (bytes : Bytes) : Prop where
  wellFormed : r.WellFormed
  command : r.command = id
  payload : r.payload <+: bytes

theorem eq_of_decodeDeviceInfo? {bytes : Bytes} {r : Response}
    (h : decodeDeviceInfo? bytes = some r) :
    r.texts = (textFields Command.deviceInfoResponse bytes).map Text.Utf8.decodeLossy ∧
      ((∀ text ∈ textFields Command.deviceInfoResponse bytes, Valid text) →
        r.Fronts Command.deviceInfoResponse bytes) := by
  simp only [decodeDeviceInfo?, Option.bind_eq_bind, Option.bind_eq_some_iff] at h
  obtain ⟨⟨version, r₁⟩, hversion, ⟨firmware, r₂⟩, hfirmware, ⟨count, r₃⟩, hcount, infos, hinfos,
    h⟩ := h
  dsimp only at hfirmware hcount hinfos h
  cases h
  have hlt : count < UInt8.size := (Bytes.eq_of_takeField? hcount).1
  have hsize : (UInt8.ofNat count).toNat = count := UInt8.toNat_ofNat_of_lt' hlt
  have hbytes : bytes = (UInt8.ofNat version :: Bytes.ofUInt16 (.ofNat firmware)) ++
      UInt8.ofNat count :: r₃ := by
    rw [Bytes.eq_of_takeField?_one hversion, Bytes.eq_of_takeField?_two hfirmware,
      Bytes.eq_of_takeField?_one hcount]
    rfl
  have hfields : textFields Command.deviceInfoResponse bytes = ChannelInfo.nameFields count r₃ := by
    have hfield : bytes.getD 3 0 = UInt8.ofNat count := by rw [hbytes]; rfl
    have hdrop : bytes.drop 4 = r₃ := by rw [hbytes]; rfl
    rw [textFields, if_pos rfl, hfield, hsize, hdrop]
  obtain ⟨hlength, hmap, hvalid⟩ := ChannelInfo.eq_of_takeMany? hinfos
  rw [hfields]
  refine ⟨hmap, fun hnames => ?_⟩
  obtain ⟨hshort, hprefix⟩ := hvalid hnames
  refine ⟨⟨hlength ▸ hlt, hshort⟩, rfl, ?_⟩
  rw [payload, hlength, hbytes]
  exact (List.prefix_append_right_inj _).mpr ((List.prefix_cons_inj _).mpr hprefix)

theorem eq_of_decodeEvent? {bytes : Bytes} {r : Response} (h : decodeEvent? bytes = some r) :
    r.texts = [] ∧ r.Fronts Command.eventTriggered bytes := by
  simp only [decodeEvent?, Option.bind_eq_bind, Option.bind_eq_some_iff] at h
  obtain ⟨⟨timestamp, r₁⟩, htimestamp, ⟨channel, r₂⟩, hchannel, ⟨before, r₃⟩, hbefore,
    ⟨after, r₄⟩, hafter, h⟩ := h
  dsimp only at hchannel hbefore hafter h
  cases h
  refine ⟨rfl, trivial, rfl, r₄, ?_⟩
  rw [payload, Bytes.eq_of_takeField?_four htimestamp, Bytes.eq_of_takeField?_two hchannel,
    Bytes.eq_of_takeField?_four hbefore, Bytes.eq_of_takeField?_four hafter]
  simp

theorem mem_responses_of_decode? {id : UInt8} {bytes : Bytes} {r : Response}
    (h : decode? id bytes = some r) : id ∈ Command.responses := by
  by_contra hid
  simp only [Command.responses, List.mem_cons, List.not_mem_nil, or_false, not_or] at hid
  simp [decode?, hid] at h

theorem eq_of_decode? {id : UInt8} {bytes : Bytes} {r : Response} (h : decode? id bytes = some r) :
    r.texts = (textFields id bytes).map Text.Utf8.decodeLossy ∧
      ((∀ text ∈ textFields id bytes, Valid text) → r.Fronts id bytes) := by
  have hid := mem_responses_of_decode? h
  simp only [Command.responses, List.mem_cons, List.not_mem_nil, or_false] at hid
  -- In the order of `Command.responses`.
  rcases hid with rfl | rfl | rfl | rfl | rfl | rfl | rfl | rfl | rfl
  · obtain ⟨⟨deviceId, rest⟩, hfield, rfl⟩ := Option.map_eq_some_iff.mp h
    exact ⟨rfl, fun _ => ⟨trivial, rfl, rest, (Bytes.eq_of_takeField?_eight hfield).symm⟩⟩
  · match bytes, h with
    | mode :: stream :: errorFlag :: errorCode :: rest, h =>
      cases h
      exact ⟨rfl, fun _ => ⟨trivial, rfl, rest, rfl⟩⟩
  · exact eq_of_decodeDeviceInfo? h
  · cases h
    exact ⟨rfl, fun _ => ⟨trivial, rfl, List.nil_prefix⟩⟩
  · match bytes, h with
    | category :: code :: rest, h =>
      cases h
      exact ⟨rfl, fun _ => ⟨trivial, rfl, rest, rfl⟩⟩
  · obtain ⟨p, hp, rfl⟩ := Option.map_eq_some_iff.mp h
    obtain ⟨hwell, hbytes⟩ := DataPacket.eq_of_ofBytes? hp
    exact ⟨rfl, fun _ => ⟨hwell, rfl, hbytes ▸ List.prefix_rfl⟩⟩
  · obtain ⟨htexts, hfronts⟩ := eq_of_decodeEvent? h
    exact ⟨htexts, fun _ => hfronts⟩
  · cases h
    exact ⟨rfl, fun _ => ⟨trivial, rfl, List.nil_prefix⟩⟩
  · cases h
    refine ⟨rfl, fun hvalid => ⟨trivial, rfl, [], ?_⟩⟩
    exact (List.append_nil _).trans (hvalid bytes List.mem_cons_self).ofString_decodeLossy

theorem payload_of_decode?_dataPacket {bytes : Bytes} {r : Response}
    (h : decode? Command.dataPacket bytes = some r) : r.payload = bytes := by
  obtain ⟨p, hp, rfl⟩ := Option.map_eq_some_iff.mp h
  exact (DataPacket.eq_of_ofBytes? hp).2

theorem payload_of_decode?_logMessage {bytes : Bytes} {r : Response}
    (h : decode? Command.logMessage bytes = some r) (htext : Valid bytes) : r.payload = bytes := by
  cases h
  exact htext.ofString_decodeLossy

/-- Writing and reading a response are inverse to each other. A response whose counts are those of
its lists is read as it was written. What is read holds the texts of the payload. If these are valid
it is such a response, and written again it gives the payload, or the front of it where more bytes
follow; none can follow samples or a log text. A data packet is read if it is as long as its mask
and its count of samples say. -/
theorem decode?_inverse :
    (∀ r : Response, r.WellFormed → decode? r.command r.payload = some r) ∧
    (∀ (id : UInt8) (bytes : Bytes) (r : Response), decode? id bytes = some r →
      r.texts = (textFields id bytes).map Text.Utf8.decodeLossy ∧
        ((∀ text ∈ textFields id bytes, Valid text) →
          r.WellFormed ∧ r.command = id ∧ r.payload <+: bytes ∧
            (id = Command.dataPacket ∨ id = Command.logMessage → r.payload = bytes))) ∧
    ∀ bytes : Bytes, (∃ r, decode? Command.dataPacket bytes = some r) ↔
      bytes.length =
        8 + 2 * bitCount (UInt16.ofNat (Frame.fieldAt bytes 4)) * Frame.fieldAt bytes 6 := by
  refine ⟨fun r => decode?_payload, fun id bytes r h => ?_, fun bytes => ?_⟩
  · obtain ⟨htexts, hfronts⟩ := eq_of_decode? h
    refine ⟨htexts, fun hvalid => ?_⟩
    obtain ⟨hwell, hcommand, hprefix⟩ := hfronts hvalid
    refine ⟨hwell, hcommand, hprefix, ?_⟩
    rintro (rfl | rfl)
    · exact payload_of_decode?_dataPacket h
    · exact payload_of_decode?_logMessage h (hvalid bytes List.mem_cons_self)
  · rw [← DataPacket.exists_ofBytes?_iff]
    constructor
    · rintro ⟨r, hr⟩
      obtain ⟨p, hp, -⟩ := Option.map_eq_some_iff.mp hr
      exact ⟨p, hp⟩
    · rintro ⟨p, hp⟩
      exact ⟨.dataPacket p, congrArg (Option.map dataPacket) hp⟩

-- Device info with a name beyond one byte a character, and one byte more than is read.
theorem decode?_inverse_device_info :
    let info : Response := .deviceInfo 6 0x0201 [⟨0, 100000, 3, "Strom µA"⟩, ⟨1, 5, 1, ""⟩]
    let bytes := info.payload ++ [0xFF]
    decode? info.command info.payload = some info ∧
    info.WellFormed ∧ info.payload <+: bytes ∧ info.payload ≠ bytes := by
  intro info bytes
  have hwell : info.WellFormed :=
    ⟨by decide, by decide +kernel⟩
  have hread : decode? Command.deviceInfoResponse bytes = some info := by decide +kernel
  have hnames : textFields Command.deviceInfoResponse bytes =
      [Text.Utf8.ofString "Strom µA", Text.Utf8.ofString ""] := by decide +kernel
  have hvalid : ∀ text ∈ textFields Command.deviceInfoResponse bytes, Valid text := by
    rw [hnames]
    simp [Valid]
  obtain ⟨-, -, hprefix, -⟩ := (decode?_inverse.2.1 _ bytes info hread).2 hvalid
  exact ⟨decode?_inverse.1 info hwell, hwell, hprefix, by decide +kernel⟩

end Response

end Device

end Acquisition
