import Acquisition.Command
import Acquisition.Device.ResponseText
import Acquisition.Json.Printer
import Acquisition.Session
import Acquisition.Text.Table

/-!
# What a program run prints

A reply, or the totals of a session, in the format that was asked for. Raw output is a reply's
payload as it is; totals have no raw form and are printed as JSON.
-/

namespace Acquisition.CommandLine

inductive OutputFormat
  | json
  | table
  | pretty
  | raw
deriving DecidableEq

def lines (ls : List String) : Bytes :=
  Text.Utf8.ofString (String.join (ls.map (· ++ "\n")))

namespace Reply

def response? (f : Frame) : Option Device.Response :=
  Device.Response.decode? f.command f.payload

def toJson (f : Frame) : Json := .record ([
  ("command", .nat f.command.toNat),
  ("command_name", .text (Command.name f.command)),
  ("seq", .nat f.seq.toNat),
  ("payload_size", .nat f.payload.length),
  ("payload", .text (Text.Hex.ofBytes f.payload))] ++
  ((response? f).map fun r => ("response", r.toJson)).toList)

def toTable (f : Frame) : Text.Table where
  header := ["COMMAND", "SEQ", "SIZE", "PAYLOAD", "DECODED"]
  rows := [[
    s!"{Text.Hex.paddedUpper 2 f.command.toNat} {Command.name f.command}",
    toString f.seq.toNat,
    toString f.payload.length,
    Text.Hex.ofBytes f.payload,
    ((response? f).map fun r => r.toJson.render).getD ""]]

def summaryLine (f : Frame) : String :=
  s!"command={Text.Hex.paddedUpper 2 f.command.toNat} ({Command.name f.command})" ++
    s!" seq={f.seq.toNat} size={f.payload.length} payload={Text.Hex.ofBytes f.payload}"

def print (f : Frame) : OutputFormat → Bytes
  | .json => lines [(toJson f).render]
  | .table => lines [(toTable f).render]
  | .pretty => lines (summaryLine f :: ((response? f).map Device.Response.describe).toList)
  | .raw => f.payload

end Reply

/-- What a session has done, from its start to its end. -/
structure RunSummary where
  link : String
  elapsedMs : Nat
  session : Session.Stats
  device : Device.Stats
deriving DecidableEq

namespace RunSummary

def toJson (s : RunSummary) : Json := .record [
  ("transport", .text s.link),
  ("elapsed_ms", .nat s.elapsedMs),
  ("session", s.session.toJson),
  ("device", s.device.toJson)]

def rows (s : RunSummary) : List (String × String) := [
  ("transport", s.link),
  ("elapsed_ms", toString s.elapsedMs),
  ("polls", toString s.session.polls),
  ("bytes_received", toString s.session.bytesReceived),
  ("bytes_dropped", toString s.session.bytesDropped),
  ("frames_received", toString s.session.framesReceived),
  ("frames_sent", toString s.session.framesSent),
  ("bytes_sent", toString s.session.bytesSent),
  ("frames_handled", toString s.device.framesHandled),
  ("frames_rejected", toString s.device.framesRejected),
  ("frames_queued", toString s.device.framesQueued),
  ("frames_dropped", toString s.device.framesDropped)]

def toTable (s : RunSummary) : Text.Table where
  header := ["METRIC", "VALUE"]
  rows := s.rows.map fun (name, value) => [name, value]

def print (s : RunSummary) : OutputFormat → Bytes
  | .json | .raw => lines [s.toJson.render]
  | .table => lines [s.toTable.render]
  | .pretty => lines (s.rows.map fun (name, value) => s!"{name}: {value}")

end RunSummary

end Acquisition.CommandLine
