import Acquisition.ConfigError
import Acquisition.Frame
import Acquisition.Text.Utf8

/-!
# Device configuration

Identity, channel table, timing and signal of a simulated device. Every field has a default.
`Config.validate` refuses what the device could not run with, most of all a data packet that would
not fit into a frame.
-/

namespace Acquisition

/-- Milliseconds from `minMs` up to but not including `maxMs`. -/
structure DelayRange where
  minMs : UInt64
  maxMs : UInt64
deriving DecidableEq

/-- Bits of a sample format mask. -/
def formatInt16 : UInt16 := 0x01

def formatInt32 : UInt16 := 0x02

/-- One channel: what device info tells about it, and how it is set at power-on. -/
structure ChannelSpec where
  name : String := ""
  maxSampleRate : UInt32 := 100000
  /-- A mask of the formats that the channel can have. -/
  formats : UInt16 := formatInt16 ||| formatInt32
  sampleRate : UInt32 := 10000
  format : UInt8 := 0x01
  enabled : Bool := true
deriving DecidableEq

structure SignalConfig where
  amplitude : Float := 1000.0
  frequencyHz : Float := 50.0
  /-- Jitter is drawn from `-noise` up to but not including `noise`. -/
  noise : Int16 := 50

namespace Device

structure Config where
  deviceId : UInt64 := 0x11223344AABBCCDD
  protocolVersion : UInt8 := 6
  firmwareVersion : UInt16 := 0x0201
  channels : List ChannelSpec := [{ name := "Voltage" }, { name := "Current" }]
  samplesPerPacket : UInt16 := 100
  dataIntervalMs : UInt64 := 10
  /-- From arming to the first trigger. -/
  triggerDelay : DelayRange := ⟨5000, 10000⟩
  /-- From the end of a burst to the next trigger. -/
  triggerRearm : DelayRange := ⟨10000, 15000⟩
  /-- The fewest data packets of a burst. -/
  burstPacketsMin : UInt32 := 5
  /-- The most data packets of a burst. -/
  burstPacketsMax : UInt32 := 10
  preTriggerSamples : UInt32 := 1000
  postTriggerSamples : UInt32 := 1000
  signal : SignalConfig := {}
  /-- Fixes the random numbers of a run. -/
  seed : Option UInt64 := none

namespace Config

def maxChannels : Nat := 8

/-- Timestamp, channel mask and samples per channel of a data packet. -/
def dataHeaderSize : Nat := 8

/-- The payload of a data packet with every channel enabled. -/
def maxDataPayload (c : Config) : Nat :=
  dataHeaderSize + c.channels.length * c.samplesPerPacket.toNat * 2

def nameSize (ch : ChannelSpec) : Nat := (Text.Utf8.ofString ch.name).length

/-- The first reason for which the configuration cannot be used. -/
def validate (c : Config) : Except ConfigError Unit :=
  if c.channels.length = 0 ∨ maxChannels < c.channels.length then
    .error (.channelCount c.channels.length)
  else
    match c.channels.find? fun ch => UInt8.size ≤ nameSize ch with
    | some ch => .error (.longChannelName ch.name)
    | none =>
      if c.dataIntervalMs = 0 then .error .zeroDataInterval
      else if c.samplesPerPacket = 0 then .error .zeroSamples
      else if Frame.maxPayload < c.maxDataPayload then
        .error (.largeDataPacket c.maxDataPayload Frame.maxPayload)
      else if c.triggerDelay.maxMs ≤ c.triggerDelay.minMs then
        .error (.emptyDelay "trigger_delay" c.triggerDelay.minMs c.triggerDelay.maxMs)
      else if c.triggerRearm.maxMs ≤ c.triggerRearm.minMs then
        .error (.emptyDelay "trigger_rearm" c.triggerRearm.minMs c.triggerRearm.maxMs)
      else if c.burstPacketsMax < c.burstPacketsMin then
        .error (.emptyBurst c.burstPacketsMin c.burstPacketsMax)
      else if c.signal.noise < 0 then .error .negativeNoise
      else .ok ()

/-- What `validate` makes sure of. -/
structure Checked (c : Config) : Prop where
  channels_pos : 0 < c.channels.length
  channels_le : c.channels.length ≤ maxChannels
  names : ∀ ch ∈ c.channels, nameSize ch < UInt8.size
  interval : c.dataIntervalMs ≠ 0
  samples : c.samplesPerPacket ≠ 0
  packet : c.maxDataPayload ≤ Frame.maxPayload
  triggerDelay : c.triggerDelay.minMs < c.triggerDelay.maxMs
  triggerRearm : c.triggerRearm.minMs < c.triggerRearm.maxMs
  burst : c.burstPacketsMin ≤ c.burstPacketsMax
  noise : 0 ≤ c.signal.noise

theorem checked_of_validate {c : Config} (h : c.validate = .ok ()) : c.Checked := by
  rw [validate] at h
  -- Each check that fails has a branch with an error, so the branch without checks is left.
  repeat (split at h; · cases h)
  rename_i hcount _ hnames hinterval hsamples hpacket hdelay hrearm hburst hnoise
  exact {
    channels_pos := Nat.pos_of_ne_zero fun hnone => hcount (.inl hnone)
    channels_le := Nat.le_of_not_lt fun hmany => hcount (.inr hmany)
    names := fun ch hch => by simpa using List.find?_eq_none.mp hnames ch hch
    interval := hinterval
    samples := hsamples
    packet := Nat.le_of_not_lt hpacket
    triggerDelay := UInt64.not_le.mp hdelay
    triggerRearm := UInt64.not_le.mp hrearm
    burst := UInt32.not_lt.mp hburst
    noise := Int16.not_lt.mp hnoise }

end Config

end Device

end Acquisition
