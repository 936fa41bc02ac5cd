import Acquisition.Device.Response
import Acquisition.Json.Basic
import Acquisition.Text.Character

/-!
# Responses as text

`toJson` is the record that a program reads, `describe` a line for a person, with the names of the
constructor and its fields.
-/

namespace Acquisition.Device

namespace ChannelInfo

def toJson (c : ChannelInfo) : Json := .record [
  ("channel_id", .nat c.channelId.toNat),
  ("max_sample_rate", .nat c.maxSampleRate.toNat),
  ("formats", .nat c.formats.toNat),
  ("name", .text c.name)]

end ChannelInfo

/-! ## Lines for a person -/

namespace Describe

def list (items : List String) : String := "[" ++ ", ".intercalate items ++ "]"

def fields (name : String) (items : List (String × String)) : String :=
  let shown := ", ".intercalate (items.map fun (field, value) => s!"{field}: {value}")
  s!"{name} \x7b {shown} \x7d"

def channel (c : ChannelInfo) : String :=
  fields "ChannelInfo" [
    ("channel_id", toString c.channelId.toNat),
    ("max_sample_rate", toString c.maxSampleRate.toNat),
    ("formats", toString c.formats.toNat),
    ("name", Text.quote c.name)]

def packet (p : DataPacket) : String :=
  fields "DataPacket" [
    ("timestamp", toString p.timestamp.toNat),
    ("channel_mask", toString p.channelMask.toNat),
    ("samples_per_channel", toString p.samplesPerChannel.toNat),
    ("samples", list (p.samples.map fun row => list (row.map fun v => toString v.toInt)))]

end Describe

namespace Response

def toJson : Response → Json
  | pong deviceId => .record [("type", .text "pong"), ("device_id", .nat deviceId.toNat)]
  | status mode stream errorFlag errorCode => .record [
      ("type", .text "status"),
      ("mode", .nat mode.toNat),
      ("stream", .nat stream.toNat),
      ("error_flag", .nat errorFlag.toNat),
      ("error_code", .nat errorCode.toNat)]
  | deviceInfo protocolVersion firmwareVersion channels => .record [
      ("type", .text "device_info"),
      ("protocol_version", .nat protocolVersion.toNat),
      ("firmware_version", .nat firmwareVersion.toNat),
      ("channels", .array (channels.map ChannelInfo.toJson))]
  | ack => .record [("type", .text "ack")]
  | nack category code => .record [
      ("type", .text "nack"), ("category", .nat category.toNat), ("code", .nat code.toNat)]
  | dataPacket p => .record [
      ("type", .text "data_packet"),
      ("timestamp", .nat p.timestamp.toNat),
      ("channel_mask", .nat p.channelMask.toNat),
      ("samples_per_channel", .nat p.samplesPerChannel.toNat),
      ("samples", .array (p.samples.map fun row => .array (row.map fun v => .int v.toInt)))]
  | eventTriggered timestamp channel preSamples postSamples => .record [
      ("type", .text "event_triggered"),
      ("timestamp", .nat timestamp.toNat),
      ("channel", .nat channel.toNat),
      ("pre_samples", .nat preSamples.toNat),
      ("post_samples", .nat postSamples.toNat)]
  | bufferTransferComplete => .record [("type", .text "buffer_transfer_complete")]
  | logMessage text => .record [("type", .text "log_message"), ("text", .text text)]

def describe : Response → String
  | pong deviceId => Describe.fields "Pong" [("device_id", toString deviceId.toNat)]
  | status mode stream errorFlag errorCode => Describe.fields "Status" [
      ("mode", toString mode.toNat),
      ("stream", toString stream.toNat),
      ("error_flag", toString errorFlag.toNat),
      ("error_code", toString errorCode.toNat)]
  | deviceInfo protocolVersion firmwareVersion channels => Describe.fields "DeviceInfo" [
      ("protocol_version", toString protocolVersion.toNat),
      ("firmware_version", toString firmwareVersion.toNat),
      ("channels", Describe.list (channels.map Describe.channel))]
  | ack => "Ack"
  | nack category code => Describe.fields "Nack" [
      ("category", toString category.toNat), ("code", toString code.toNat)]
  | dataPacket p => s!"DataPacket({Describe.packet p})"
  | eventTriggered timestamp channel preSamples postSamples => Describe.fields "EventTriggered" [
      ("timestamp", toString timestamp.toNat),
      ("channel", toString channel.toNat),
      ("pre_samples", toString preSamples.toNat),
      ("post_samples", toString postSamples.toNat)]
  | bufferTransferComplete => "BufferTransferComplete"
  | logMessage text => Describe.fields "LogMessage" [("text", Text.quote text)]

end Response

end Acquisition.Device
