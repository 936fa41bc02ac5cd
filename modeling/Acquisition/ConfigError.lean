import Acquisition.Text.Character

/-!
# Why a configuration is refused
-/

namespace Acquisition

inductive ConfigError
  | channelCount (count : Nat)
  | longChannelName (name : String)
  | zeroDataInterval
  | zeroSamples
  | largeDataPacket (size max : Nat)
  | emptyDelay (name : String) (min max : UInt64)
  | emptyBurst (min max : UInt32)
  | negativeNoise
  | maxFrameRange (min max : Nat)
  | smallReceiver
  | smallQueue
  | zeroReceiveChunk
deriving DecidableEq

def ConfigError.message : ConfigError → String
  | channelCount count => s!"channel count must be 1..=8, got {count}"
  | longChannelName name => s!"channel name longer than 255 bytes: {Text.quote name}"
  | zeroDataInterval => "data_interval_ms must be > 0"
  | zeroSamples => "samples_per_packet must be > 0"
  | largeDataPacket size max => s!"data packet of {size} bytes exceeds frame limit of {max}"
  | emptyDelay name min max => s!"{name} range is empty ({min}..{max})"
  | emptyBurst min max => s!"burst packet range is empty ({min}..={max})"
  | negativeNoise => "signal noise must be >= 0"
  | maxFrameRange min max => s!"max_frame_size must be {min}..={max}"
  | smallReceiver => "rx_capacity must exceed max_frame_size"
  | smallQueue => "tx_capacity must hold at least one maximum-size frame"
  | zeroReceiveChunk => "recv_chunk must be > 0"

end Acquisition
