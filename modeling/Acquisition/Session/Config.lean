import Acquisition.ConfigError
import Acquisition.Frame

/-!
# Session configuration

Sizes of the buffers between a device and its link. `Config.validate` refuses sizes with which a
frame could not get through: the receiver has to hold more than one frame of the largest size, and
the queue a record of one.
-/

namespace Acquisition.Session

structure Config where
  rxCapacity : Nat := 65535
  txCapacity : Nat := 65535
  /-- The largest frame that is accepted. -/
  maxFrameSize : Nat := Frame.maxSize
  /-- The most bytes that are received at a time. -/
  receiveChunk : Nat := 4096
  /-- The rest after a poll that moved nothing. -/
  idleSleepMs : Nat := 1
  statusIntervalMs : Nat := 5000
deriving DecidableEq

namespace Config

/-- The first reason for which the configuration cannot be used. -/
def validate (c : Config) : Except ConfigError Unit :=
  if c.maxFrameSize < Frame.minSize ∨ Frame.maxSize < c.maxFrameSize then
    .error (.maxFrameRange Frame.minSize Frame.maxSize)
  else if c.rxCapacity ≤ c.maxFrameSize then .error .smallReceiver
  else if c.txCapacity ≤ Frame.maxSize + 2 then .error .smallQueue
  else if c.receiveChunk = 0 then .error .zeroReceiveChunk
  else .ok ()

end Config

end Acquisition.Session
