import Acquisition.Bytes
import Acquisition.Command
import Acquisition.Text.Hex

/-!
# Requests of the host

`parse` reads a request from a command byte and a payload, `command` and `payload` write it. Bytes
after what a request needs are ignored.
-/

namespace Acquisition.Device

/-- Why a request is answered with a Nack. -/
inductive Refusal
  /-- Malformed or incomplete parameters. -/
  | parameter (code : UInt8)
  /-- Not possible in the state that the device is in. -/
  | status (code : UInt8)
  | unsupported (command : UInt8)
deriving DecidableEq

namespace Refusal

def message : Refusal → String
  | parameter code => s!"parameter error (code {shown code})"
  | status code => s!"status error (code {shown code})"
  | unsupported command => s!"command {shown command} not supported"
where
  shown (v : UInt8) : String := Text.Hex.padded 2 v.toNat

/-- The category and code of the Nack. An unsupported command is not repeated in it. -/
def nack : Refusal → UInt8 × UInt8
  | parameter code => (0x01, code)
  | status code => (0x02, code)
  | unsupported _ => (0x05, 0x00)

/-- What a host can tell from the payload of a Nack. -/
def ofNack? : Bytes → Option Refusal
  | category :: rest =>
    if category = 0x05 then some (unsupported 0)
    else
      match rest with
      | code :: _ =>
        if category = 0x01 then some (parameter code)
        else if category = 0x02 then some (status code)
        else none
      | [] => none
  | [] => none

end Refusal

/-- What a host asks for one channel. A rate of zero turns the channel off. -/
structure ChannelConfig where
  channelId : UInt8
  sampleRate : UInt32
  format : UInt8
deriving DecidableEq

namespace ChannelConfig

def size : Nat := 6

def toBytes (c : ChannelConfig) : Bytes :=
  c.channelId :: Bytes.ofUInt32 c.sampleRate ++ [c.format]

/-- Reads `count` entries off the front. -/
def take? : Nat → Bytes → Option (List ChannelConfig)
  | 0, _ => some []
  | count + 1, id :: r0 :: r1 :: r2 :: r3 :: format :: rest =>
    (take? count rest).map
      (⟨id, UInt32.ofNat (Bytes.toNat [r0, r1, r2, r3]), format⟩ :: ·)
  | _ + 1, _ => none

end ChannelConfig

inductive Request
  | ping
  | getStatus
  | getDeviceInfo
  | setModeContinuous
  | setModeTrigger
  | startStream
  | stopStream
  | configureStream (channels : List ChannelConfig)
  | requestBufferedData
deriving DecidableEq

namespace Request

def parse (command : UInt8) (payload : Bytes) : Except Refusal Request :=
  if command = Command.ping then .ok ping
  else if command = Command.getStatus then .ok getStatus
  else if command = Command.getDeviceInfo then .ok getDeviceInfo
  else if command = Command.setModeContinuous then .ok setModeContinuous
  else if command = Command.setModeTrigger then .ok setModeTrigger
  else if command = Command.startStream then .ok startStream
  else if command = Command.stopStream then .ok stopStream
  else if command = Command.configureStream then
    match payload with
    | [] => .error (.parameter 0x01)
    | count :: entries =>
      match ChannelConfig.take? count.toNat entries with
      | some channels => .ok (configureStream channels)
      | none => .error (.parameter 0x01)
  else if command = Command.requestBufferedData then .ok requestBufferedData
  else .error (.unsupported command)

def command : Request → UInt8
  | ping => Command.ping
  | getStatus => Command.getStatus
  | getDeviceInfo => Command.getDeviceInfo
  | setModeContinuous => Command.setModeContinuous
  | setModeTrigger => Command.setModeTrigger
  | startStream => Command.startStream
  | stopStream => Command.stopStream
  | configureStream _ => Command.configureStream
  | requestBufferedData => Command.requestBufferedData

/-- The count of entries has one byte: of longer lists it is the low byte. -/
def payload : Request → Bytes
  | configureStream channels =>
    UInt8.ofNat channels.length :: channels.flatMap ChannelConfig.toBytes
  | _ => []

end Request

end Acquisition.Device
