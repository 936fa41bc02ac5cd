import Acquisition.CommandLine.Options
import Acquisition.Device.ConfigFile
import Acquisition.Link.Loopback
import Acquisition.Link.TcpLink

/-!
# Running a device

A device is put on a link and polled until its time is over or the link fails. A host that hangs up
is no failure.
-/

namespace Acquisition.CommandLine

inductive Carrier
  | tcp (listen : Address)
  | serial (line : SerialLine)
  /-- With or without the requests of a host. -/
  | loopback (demo : Bool)
deriving DecidableEq

structure RunPlan where
  config : Device.Config
  limit : Option Duration
  carrier : Carrier

namespace RunOptions

/-- The configuration of the device. A seed that is given replaces that of the file. -/
def deviceConfig (o : RunOptions) (file : String → Except SystemError Bytes) :
    Except Fault Device.Config := do
  let config ← match o.config with
    | none => pure {}
    | some path =>
      match Device.Config.ofFile (file path) with
      | .error e => throw (.ofFailure s!"failed loading {path}" e)
      | .ok config => pure config
  return { config with seed := o.seed <|> config.seed }

/-- What the device is put on. `noLine` says why there is no serial line at a path. -/
def carrier (o : RunOptions) (noLine : String → String) : Except Fault Carrier :=
  match o.link.getD .tcp with
  | .tcp =>
    match o.listen.map Address.parse with
    | none => .ok (.tcp {})
    | some (.ok listen) => .ok (.tcp listen)
    | some (.error e) => .error (.ofLinkError "invalid --listen" e)
  | .serial =>
    match o.serialPath with
    | none => .error ⟨.usage, "--serial-path is required with --transport serial"⟩
    | some path =>
      let line : SerialLine := { path, reason := noLine path }
      .ok (.serial { line with baudRate := o.baud.getD line.baudRate })
  | .loopback => .ok (.loopback !o.noDemo)

def plan (o : RunOptions) (file : String → Except SystemError Bytes)
    (noLine : String → String) : Except Fault RunPlan := do
  let config ← o.deviceConfig file
  let limit ← o.duration.mapM Duration.parse
  return { config, limit, carrier := ← o.carrier noLine }

end RunOptions

/-! ## The host of a loopback run -/

/-- Probe the device, set both channels, arm the trigger and start the stream. -/
def demoRequests : List Device.Request := [
  .ping,
  .getDeviceInfo,
  .configureStream [⟨0, 10000, 1⟩, ⟨1, 10000, 1⟩],
  .setModeTrigger,
  .startStream]

/-- Requests as frames, numbered from `seq` on. -/
def injectAll (l : Loopback) (seq : UInt8) : List Device.Request → Except Fault Loopback
  | [] => .ok l
  | r :: rest =>
    match Frame.encode { command := r.command, seq, payload := r.payload } with
    | .error e => .error (.ofFrameError "failed encoding demo frame" e)
    | .ok wire => injectAll (l.inject wire).2 (seq + 1) rest

def demoLink (demo : Bool) : Except Fault Loopback :=
  injectAll (Loopback.ofCapacity Loopback.defaultCapacity) 0 (if demo then demoRequests else [])

/-! ## Driving a session -/

def isDisconnect : LinkError → Bool
  | .peerClosed => true
  | .system e =>
    match e.kind with
    | .connectionReset | .brokenPipe | .connectionAborted => true
    | _ => false
  | _ => false

section

variable {σ : Type} [Link σ]

def openSession (link : σ) (config : Device.Config) (entropy : Random.Stream) :
    Except Fault (Session σ) :=
  match Session.create link {} config entropy with
  | .error e => .error (.ofFailure "session setup failed" e)
  | .ok s =>
    match s.start with
    | (.error e, _) => .error (.ofFailure "transport start failed" e)
    | (.ok (), s) => .ok s

/-- What a run comes to, after it ended with `result`. -/
def conclude (s : Session σ) (elapsedMs : Nat) (result : Except Failure Unit) :
    Except Fault RunSummary :=
  let summary : RunSummary :=
    { link := Link.name σ, elapsedMs, session := s.stats, device := s.device.stats }
  match result with
  | .ok () => .ok summary
  | .error (.link e) =>
    if isDisconnect e then .ok summary else .error (.ofLinkError "session failed" e)
  | .error e => .error (.ofFailure "session failed" e)

/-- A run over the readings of a clock. The last one is how long it took. -/
def drive (link : σ) (config : Device.Config) (entropy : Random.Stream) (readings : List Nat) :
    Except Fault RunSummary := do
  let s ← openSession link config entropy
  let (result, s) := s.run readings
  conclude s (readings.getLastD 0) (result.map fun _ => ())

end

/-- A run of which the clock is known beforehand. -/
def RunPlan.run (p : RunPlan) (host : TcpHost) (entropy : Random.Stream) (readings : List Nat) :
    Except Fault RunSummary :=
  match p.carrier with
  | .tcp listen => drive (TcpLink.ofAddress listen host) p.config entropy readings
  | .serial line => drive line p.config entropy readings
  | .loopback demo => do drive (← demoLink demo) p.config entropy readings

end Acquisition.CommandLine
