import Acquisition.Device.Request
import Acquisition.Frame
import Acquisition.Text.Utf8

/-!
# What a device sends

Replies to requests and unprompted frames. `command` and `payload` write a response, `decode?` reads
it on the side of the host.
-/

namespace Acquisition.Device

/-- What device info tells about one channel. -/
structure ChannelInfo where
  channelId : UInt8
  maxSampleRate : UInt32
  formats : UInt16
  name : String
deriving DecidableEq

structure DataPacket where
  timestamp : UInt32
  channelMask : UInt16
  samplesPerChannel : UInt16
  /-- A list for each bit set in the mask, the lowest bit first. -/
  samples : List (List Int16)
deriving DecidableEq

inductive Response
  | pong (deviceId : UInt64)
  | status (mode stream errorFlag errorCode : UInt8)
  | deviceInfo (protocolVersion : UInt8) (firmwareVersion : UInt16) (channels : List ChannelInfo)
  | ack
  | nack (category code : UInt8)
  | dataPacket (packet : DataPacket)
  | eventTriggered (timestamp : UInt32) (channel : UInt16) (preSamples postSamples : UInt32)
  | bufferTransferComplete
  | logMessage (text : String)
deriving DecidableEq

/-- How many bits of `mask` are set. -/
def bitCount (mask : UInt16) : Nat :=
  ((List.range 16).filter fun i => mask.toNat.testBit i).length

namespace ChannelInfo

/-- The name has its length in one byte: of longer names it is the low byte. -/
def toBytes (c : ChannelInfo) : Bytes :=
  let name := Text.Utf8.ofString c.name
  c.channelId :: Bytes.ofUInt32 c.maxSampleRate ++ Bytes.ofUInt16 c.formats ++
    UInt8.ofNat name.length :: name

def take? (bytes : Bytes) : Option (ChannelInfo × Bytes) := do
  let (channelId, bytes) ← Bytes.takeField? 1 bytes
  let (maxSampleRate, bytes) ← Bytes.takeField? 4 bytes
  let (formats, bytes) ← Bytes.takeField? 2 bytes
  let (size, bytes) ← Bytes.takeField? 1 bytes
  if bytes.length < size then none
  else
    some ({
      channelId := .ofNat channelId
      maxSampleRate := .ofNat maxSampleRate
      formats := .ofNat formats
      name := Text.Utf8.decodeLossy (bytes.take size) }, bytes.drop size)

def takeMany? : Nat → Bytes → Option (List ChannelInfo)
  | 0, _ => some []
  | count + 1, bytes => do
    let (info, bytes) ← take? bytes
    let rest ← takeMany? count bytes
    some (info :: rest)

end ChannelInfo

namespace DataPacket

def toBytes (p : DataPacket) : Bytes :=
  Bytes.ofUInt32 p.timestamp ++ Bytes.ofUInt16 p.channelMask ++
    Bytes.ofUInt16 p.samplesPerChannel ++ p.samples.flatten.flatMap Bytes.ofInt16

/-- `count` samples off the front. Callers keep that many there. -/
def takeSamples : Nat → Bytes → List Int16 × Bytes
  | 0, bytes => ([], bytes)
  | count + 1, bytes =>
    let sample := (UInt16.ofNat (Bytes.toNat (bytes.take 2))).toInt16
    let (rest, bytes) := takeSamples count (bytes.drop 2)
    (sample :: rest, bytes)

def takeChannels : (channels samples : Nat) → Bytes → List (List Int16)
  | 0, _, _ => []
  | channels + 1, samples, bytes =>
    let (first, bytes) := takeSamples samples bytes
    first :: takeChannels channels samples bytes

/-- The samples have to fill the rest of the payload exactly. -/
def ofBytes? (bytes : Bytes) : Option DataPacket := do
  let (timestamp, bytes) ← Bytes.takeField? 4 bytes
  let (mask, bytes) ← Bytes.takeField? 2 bytes
  let (samples, bytes) ← Bytes.takeField? 2 bytes
  let channels := bitCount (.ofNat mask)
  if bytes.length ≠ channels * samples * 2 then none
  else
    some {
      timestamp := .ofNat timestamp
      channelMask := .ofNat mask
      samplesPerChannel := .ofNat samples
      samples := takeChannels channels samples bytes }

end DataPacket

namespace Response

def ofRefusal (r : Refusal) : Response := .nack r.nack.1 r.nack.2

def command : Response → UInt8
  | pong _ => Command.pong
  | status .. => Command.statusResponse
  | deviceInfo .. => Command.deviceInfoResponse
  | ack => Command.ack
  | nack .. => Command.nack
  | dataPacket _ => Command.dataPacket
  | eventTriggered .. => Command.eventTriggered
  | bufferTransferComplete => Command.bufferTransferComplete
  | logMessage _ => Command.logMessage

/-- The count of channels has one byte: of longer lists it is the low byte. -/
def payload : Response → Bytes
  | pong deviceId => Bytes.ofUInt64 deviceId
  | status mode stream errorFlag errorCode => [mode, stream, errorFlag, errorCode]
  | deviceInfo protocolVersion firmwareVersion channels =>
    protocolVersion :: Bytes.ofUInt16 firmwareVersion ++
      UInt8.ofNat channels.length :: channels.flatMap ChannelInfo.toBytes
  | ack => []
  | nack category code => [category, code]
  | dataPacket packet => packet.toBytes
  | eventTriggered timestamp channel preSamples postSamples =>
    Bytes.ofUInt32 timestamp ++ Bytes.ofUInt16 channel ++ Bytes.ofUInt32 preSamples ++
      Bytes.ofUInt32 postSamples
  | bufferTransferComplete => []
  | logMessage text => Text.Utf8.ofString text

/-- The frame that carries the response. -/
def toFrame (r : Response) (seq : UInt8) : Frame := ⟨r.command, seq, r.payload⟩

def decodeDeviceInfo? (bytes : Bytes) : Option Response := do
  let (protocolVersion, bytes) ← Bytes.takeField? 1 bytes
  let (firmwareVersion, bytes) ← Bytes.takeField? 2 bytes
  let (count, bytes) ← Bytes.takeField? 1 bytes
  let channels ← ChannelInfo.takeMany? count bytes
  some (.deviceInfo (.ofNat protocolVersion) (.ofNat firmwareVersion) channels)

def decodeEvent? (bytes : Bytes) : Option Response := do
  let (timestamp, bytes) ← Bytes.takeField? 4 bytes
  let (channel, bytes) ← Bytes.takeField? 2 bytes
  let (preSamples, bytes) ← Bytes.takeField? 4 bytes
  let (postSamples, _) ← Bytes.takeField? 4 bytes
  some (.eventTriggered (.ofNat timestamp) (.ofNat channel) (.ofNat preSamples)
    (.ofNat postSamples))

/-- Reads a response; there is none for the command bytes of requests and for malformed payloads. -/
def decode? (command : UInt8) (payload : Bytes) : Option Response :=
  if command = Command.pong then
    (Bytes.takeField? 8 payload).map fun (deviceId, _) => .pong (.ofNat deviceId)
  else if command = Command.statusResponse then
    match payload with
    | mode :: stream :: errorFlag :: errorCode :: _ =>
      some (.status mode stream errorFlag errorCode)
    | _ => none
  else if command = Command.deviceInfoResponse then decodeDeviceInfo? payload
  else if command = Command.ack then some .ack
  else if command = Command.nack then
    match payload with
    | category :: code :: _ => some (.nack category code)
    | _ => none
  else if command = Command.dataPacket then (DataPacket.ofBytes? payload).map .dataPacket
  else if command = Command.eventTriggered then decodeEvent? payload
  else if command = Command.bufferTransferComplete then some .bufferTransferComplete
  else if command = Command.logMessage then some (.logMessage (Text.Utf8.decodeLossy payload))
  else none

end Response

end Acquisition.Device
