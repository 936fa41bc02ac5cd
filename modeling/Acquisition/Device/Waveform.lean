import Acquisition.Device.Config
import Acquisition.Random.Draw

/-!
# Synthetic samples

A sine wave with uniform jitter, in binary64 and cut to 16 bits.
-/

namespace Acquisition.Device

def pi : Float := Float.ofBits 0x400921FB54442D18

/-- The bounds of a sample; what is neither below nor above them stays. -/
def clampSample (v : Float) : Float :=
  if v < -32768.0 then -32768.0 else if 32767.0 < v then 32767.0 else v

/-- Sample `index` of a packet. There is one for each millisecond from the timestamp on. -/
def sample (signal : SignalConfig) (timestamp : UInt32) (index : Nat) (jitter : Int) : Int16 :=
  let t := (timestamp.toFloat + Float.ofNat index) * 0.001
  let wave := signal.amplitude * (2.0 * pi * signal.frequencyHz * t).sin
  (clampSample (wave + Float.ofInt jitter)).toInt16

/-- `count` samples from `index` on. A signal without noise draws nothing. -/
def drawSamples (signal : SignalConfig) (timestamp : UInt32) :
    (count index : Nat) → Random.Stream → List Int16 × Random.Stream
  | 0, _, random => ([], random)
  | count + 1, index, random =>
    let (jitter, random) :=
      if 0 < signal.noise then Random.jitter signal.noise.toInt.toNat random else (0, random)
    let (rest, random) := drawSamples signal timestamp count (index + 1) random
    (sample signal timestamp index jitter :: rest, random)

/-- `count` samples for each of so many channels, one channel after the other. -/
def drawChannels (signal : SignalConfig) (timestamp : UInt32) (count : Nat) :
    (channels : Nat) → Random.Stream → List (List Int16) × Random.Stream
  | 0, random => ([], random)
  | channels + 1, random =>
    let (first, random) := drawSamples signal timestamp count 0 random
    let (rest, random) := drawChannels signal timestamp count channels random
    (first :: rest, random)

end Acquisition.Device
