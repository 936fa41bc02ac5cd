import Acquisition.Device.Config
import Acquisition.Failure
import Acquisition.Json.Reader

/-!
# Device configurations in JSON

A configuration is a record whose fields may all be left out. Both ends of a delay have to be given
if the delay is.
-/

namespace Acquisition

namespace DelayRange

def ofJson? (j : Json) : Option DelayRange := do
  let field ← j.record? ["min_ms", "max_ms"]
  let minMs ← (← field "min_ms").nat? UInt64.size
  let maxMs ← (← field "max_ms").nat? UInt64.size
  some ⟨.ofNat minMs, .ofNat maxMs⟩

end DelayRange

def uint8? (j : Json) : Option UInt8 := (j.nat? UInt8.size).map .ofNat

def uint16? (j : Json) : Option UInt16 := (j.nat? UInt16.size).map .ofNat

def uint32? (j : Json) : Option UInt32 := (j.nat? UInt32.size).map .ofNat

def uint64? (j : Json) : Option UInt64 := (j.nat? UInt64.size).map .ofNat

def int16? (j : Json) : Option Int16 := (j.int? (-32768) 32767).map .ofInt

namespace ChannelSpec

def ofJson? (j : Json) : Option ChannelSpec := do
  let field ← j.record?
    ["name", "max_sample_rate", "formats", "sample_rate", "format", "enabled"]
  let d : ChannelSpec := {}
  some {
    name := ← Json.field? (field "name") d.name Json.text?
    maxSampleRate := ← Json.field? (field "max_sample_rate") d.maxSampleRate uint32?
    formats := ← Json.field? (field "formats") d.formats uint16?
    sampleRate := ← Json.field? (field "sample_rate") d.sampleRate uint32?
    format := ← Json.field? (field "format") d.format uint8?
    enabled := ← Json.field? (field "enabled") d.enabled Json.bool? }

end ChannelSpec

namespace SignalConfig

def ofJson? (j : Json) : Option SignalConfig := do
  let field ← j.record? ["amplitude", "frequency_hz", "noise"]
  let d : SignalConfig := {}
  some {
    amplitude := ← Json.field? (field "amplitude") d.amplitude Json.float?
    frequencyHz := ← Json.field? (field "frequency_hz") d.frequencyHz Json.float?
    noise := ← Json.field? (field "noise") d.noise int16? }

end SignalConfig

namespace Device.Config

def fieldNames : List String := [
  "device_id", "protocol_version", "firmware_version", "channels", "samples_per_packet",
  "data_interval_ms", "trigger_delay", "trigger_rearm", "burst_packets_min", "burst_packets_max",
  "pre_trigger_samples", "post_trigger_samples", "signal", "seed"]

def ofJson? (j : Json) : Option Config := do
  let field ← j.record? fieldNames
  let d : Config := {}
  some {
    deviceId := ← Json.field? (field "device_id") d.deviceId uint64?
    protocolVersion := ← Json.field? (field "protocol_version") d.protocolVersion uint8?
    firmwareVersion := ← Json.field? (field "firmware_version") d.firmwareVersion uint16?
    channels := ← Json.field? (field "channels") d.channels fun j => do
      (← j.array?).mapM ChannelSpec.ofJson?
    samplesPerPacket := ← Json.field? (field "samples_per_packet") d.samplesPerPacket uint16?
    dataIntervalMs := ← Json.field? (field "data_interval_ms") d.dataIntervalMs uint64?
    triggerDelay := ← Json.field? (field "trigger_delay") d.triggerDelay DelayRange.ofJson?
    triggerRearm := ← Json.field? (field "trigger_rearm") d.triggerRearm DelayRange.ofJson?
    burstPacketsMin := ← Json.field? (field "burst_packets_min") d.burstPacketsMin uint32?
    burstPacketsMax := ← Json.field? (field "burst_packets_max") d.burstPacketsMax uint32?
    preTriggerSamples := ← Json.field? (field "pre_trigger_samples") d.preTriggerSamples uint32?
    postTriggerSamples :=
      ← Json.field? (field "post_trigger_samples") d.postTriggerSamples uint32?
    signal := ← Json.field? (field "signal") d.signal SignalConfig.ofJson?
    seed := ← Json.field? (field "seed") d.seed (Json.nullable? uint64?) }

/-- A configuration that has passed `validate`. -/
def checked (c : Config) : Except Failure Config :=
  match c.validate with
  | .ok () => .ok c
  | .error e => .error (.ofConfigError e)

/-- The configuration that a JSON value describes. -/
def ofJson (j : Json) : Except Failure Config :=
  match ofJson? j with
  | none => .error .json
  | some c => c.checked

/-- Reads the contents of a configuration file, or reports why there are none. -/
def ofFile (contents : Except SystemError Bytes) : Except Failure Config :=
  match contents with
  | .error e => .error (.system e)
  | .ok bytes =>
    match Text.Utf8.decode? bytes with
    | none => .error (.system ⟨.invalidData, "stream did not contain valid UTF-8"⟩)
    | some text =>
      match Json.parse? text with
      | none => .error .json
      | some j => ofJson j

end Device.Config

end Acquisition
