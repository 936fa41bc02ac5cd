import Acquisition.CommandLine.Options
import Acquisition.CommandLine.Reply
import Acquisition.Link.Address

/-!
# Sending a command

A host connects to a running device, sends one frame and prints the reply. What is wrong with the
arguments is reported before anything is sent.
-/

namespace Acquisition.CommandLine

/-- What is needed of a network. -/
structure Network where
  /-- The numeric address of a host, if its name has one. -/
  lookup : String → Except SystemError (Option String)
  /-- Connects, writes the bytes, and gives what is read until the time is over. -/
  exchange : Address → Bytes → Duration → Except SystemError (List ReadResult)

structure SendPlan where
  timeout : Duration
  seq : UInt8
  wire : Bytes
  host : String
  port : UInt16
deriving DecidableEq

/-- Cuts an address at its last colon. There has to be a port. -/
def target (address : String) : Except Fault (String × UInt16) :=
  let invalid (reason : String) : Fault := ⟨.usage, s!"invalid address {address}: {reason}"⟩
  match Address.splitLast? ':' address.toList with
  | none => .error (invalid "invalid socket address")
  | some (host, port) =>
    match Text.Numeral.unsigned? 10 (UInt16.size - 1) port with
    | none => .error (invalid "invalid port value")
    | some n => .ok (String.ofList host, .ofNat n)

namespace SendOptions

def plan (o : SendOptions) (address : String) : Except Fault SendPlan := do
  let timeout ← Duration.parse (o.timeout.getD "5s")
  let payload ← HexPayload.parse (o.payload.getD "")
  let seq := o.seq.getD 0
  match Frame.encode { command := o.command.getD 0x01, seq, payload } with
  | .error e => throw (.ofFrameError "cannot encode frame" e)
  | .ok wire =>
    let (host, port) ← target address
    return { timeout, seq, wire, host, port }

end SendOptions

namespace SendPlan

/-- The numeric address to connect to. -/
def resolve (p : SendPlan) (address : String) (found : Except SystemError (Option String)) :
    Except Fault Address :=
  match found with
  | .error e => .error ⟨.usage, s!"invalid address {address}: {e.text}"⟩
  | .ok none => .error ⟨.usage, s!"address {address} did not resolve"⟩
  | .ok (some host) => .ok ⟨host, p.port⟩

end SendPlan

/-- Sends a frame over a network and waits for the reply. -/
def SendOptions.run (o : SendOptions) (address : String) (network : Network) :
    Except Fault Frame := do
  let plan ← o.plan address
  let device ← plan.resolve address (network.lookup plan.host)
  match network.exchange device plan.wire plan.timeout with
  | .error e => throw (.ofSystemError s!"connect to {device.render} failed" e)
  | .ok reads =>
    if plan.timeout.isClockable then Reply.await plan.seq reads
    else throw ⟨.crash, "the wait would end after the last time of the clock"⟩

end Acquisition.CommandLine
