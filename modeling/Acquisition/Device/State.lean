import Acquisition.Device.Config

/-!
# What a device remembers
-/

namespace Acquisition.Device

inductive Mode
  | continuous
  | trigger
deriving DecidableEq

inductive StreamStatus
  | stopped
  | running
deriving DecidableEq

namespace Mode

def toByte : Mode → UInt8
  | continuous => 0
  | trigger => 1

def ofByte? (b : UInt8) : Option Mode :=
  if b = 0 then some continuous else if b = 1 then some trigger else none

end Mode

namespace StreamStatus

def toByte : StreamStatus → UInt8
  | stopped => 0
  | running => 1

def ofByte? (b : UInt8) : Option StreamStatus :=
  if b = 0 then some stopped else if b = 1 then some running else none

end StreamStatus

structure ChannelState where
  enabled : Bool
  sampleRate : UInt32
  format : UInt8
deriving DecidableEq

structure TriggerState where
  /-- Set with trigger mode. -/
  armed : Bool := false
  /-- From the firing of a trigger to the end of its burst. -/
  occurred : Bool := false
  /-- While packets of a burst are due. -/
  sending : Bool := false
  /-- When the trigger fired. -/
  timestampMs : Nat := 0
  packetsToSend : Nat := 0
  packetsSent : Nat := 0
  /-- The earliest time of the next firing. -/
  nextTriggerMs : Nat := 0
deriving DecidableEq

structure State where
  mode : Mode
  stream : StreamStatus
  channels : List ChannelState
  trigger : TriggerState
  /-- When the last data packet was due, if one was since the stream started. -/
  lastDataMs : Option Nat
deriving DecidableEq

namespace State

def powerOn (c : Config) : State where
  mode := .continuous
  stream := .stopped
  channels := c.channels.map fun ch => ⟨ch.enabled, ch.sampleRate, ch.format⟩
  trigger := {}
  lastDataMs := none

/-- Bit `i` is set for an enabled channel `i`. -/
def channelMask (s : State) : UInt16 :=
  s.channels.zipIdx.foldl
    (fun mask (ch, i) => if ch.enabled then mask ||| (1 <<< UInt16.ofNat i) else mask) 0

def isRunning (s : State) : Bool := s.stream == .running

end State

end Acquisition.Device
