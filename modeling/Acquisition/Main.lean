import Std.Async.DNS
import Std.Async.TCP
import Acquisition.CommandLine

/-!
# The program

Files, sockets and the clock. What they give is handed to the functions of `CommandLine` and
`Session`, and what those decide is carried out.
-/

open Std.Async Std.Net

namespace Acquisition.CommandLine

/-! ## Files and addresses -/

/-- The number of an error. Some parts of the system give it negated. -/
def numberOf : IO.Error → Nat
  | .alreadyExists _ n _ | .otherError n _ | .resourceBusy n _ | .resourceVanished n _
  | .unsupportedOperation n _ | .hardwareFault n _ | .unsatisfiedConstraints n _
  | .illegalOperation n _ | .protocolError n _ | .timeExpired n _ | .interrupted _ n _
  | .noFileOrDirectory _ n _ | .invalidArgument _ n _ | .permissionDenied _ n _
  | .resourceExhausted _ n _ | .inappropriateType _ n _ | .noSuchThing _ n _ =>
    n.toNat.min (0 - n).toNat
  | .unexpectedEof | .userError _ => 0

def systemErrorOf (e : IO.Error) : SystemError :=
  (SystemError.ofNumber? (numberOf e)).getD ⟨.other, toString e⟩

/-- Runs an action, with its error as a value. -/
def attempt {α : Type} (action : IO α) : IO (Except SystemError α) := do
  try return .ok (← action)
  catch e => return .error (systemErrorOf e)

def readFile (path : String) : IO (Except SystemError Bytes) :=
  attempt do return (← IO.FS.readBinFile path).toList

def lookup (host : String) : IO (Except SystemError (Option IPAddr)) := do
  match IPv4Addr.ofString host with
  | some ip => return .ok (some (.v4 ip))
  | none =>
    match ← attempt (DNS.getAddrInfo host "").block with
    | .ok found => return .ok found[0]?
    | .error e =>
      return .error { e with text := s!"failed to lookup address information: {e.text}" }

def socketAddress (ip : IPAddr) (port : UInt16) : SocketAddress :=
  match ip with
  | .v4 ip => .v4 ⟨ip, port⟩
  | .v6 ip => .v6 ⟨ip, port⟩

/-! ## Sending a command -/

/-- Waits for a task, or until a time. -/
partial def waitUntil {α : Type} (task : AsyncTask α) (deadline : Nat) :
    IO (Option (Except SystemError α)) := do
  if (← task.getState) == .finished then return some (← attempt task.block)
  else if deadline ≤ (← IO.monoMsNow) then return none
  else
    IO.sleep 1
    waitUntil task deadline

/-- Reads until the reply is there or the time is over. -/
partial def collect (client : TCP.Socket.Client) (seq : UInt8) (deadline : Nat)
    (reads : List ReadResult) : IO (List ReadResult) := do
  let wanting : Bool := match Reply.await seq reads with
    | .ok _ => false
    | .error fault => fault == Reply.timedOut
  if !wanting then return reads
  else
    match ← waitUntil (← (client.recv? Reply.readSize.toUInt64).toIO) deadline with
    | none => return reads
    | some read =>
      let bytes := read.map fun data => (data.map ByteArray.toList).getD []
      collect client seq deadline (reads ++ [bytes])

def exchange (device : SocketAddress) (plan : SendPlan) :
    IO (Except SystemError (List ReadResult)) := do
  let client ← TCP.Socket.Client.mk
  let deadline := (← IO.monoMsNow) + plan.timeout.milliseconds
  match ← waitUntil (← (client.connect device).toIO) deadline with
  | none => return .error ⟨.timedOut, "connection timed out"⟩
  | some (.error e) => return .error e
  | some (.ok ()) =>
    (client.send ⟨plan.wire.toArray⟩).block
    let deadline := (← IO.monoMsNow) + plan.timeout.milliseconds
    return .ok (← collect client plan.seq deadline [])

def sendCommand (o : SendOptions) (address : String) : IO (Except Fault Frame) := do
  match o.plan address with
  | .error fault => return .error fault
  | .ok plan =>
    let found ← lookup plan.host
    let exchanged ← match found with
      | .ok (some ip) => exchange (socketAddress ip plan.port) plan
      | _ => pure (.ok [])
    let network : Network := {
      lookup := fun _ => found.map (·.map toString)
      exchange := fun _ _ _ => exchanged }
    return o.run address network

/-! ## Running a device -/

/-- Polls until a time is reached or the link fails. `pump` moves bytes between the link and the
outside after each poll. -/
partial def drivePumped {σ : Type} [Link σ] (pump : σ → IO (Except SystemError σ))
    (start : Nat) (stop : Option Nat) (s : Session σ) :
    IO (Except Failure Unit × Session σ) := do
  let now ← IO.monoMsNow
  if stop.any (· ≤ now) then return (.ok (), s)
  else
    match s.poll (now - start) with
    | (.error e, s) => return (.error e, s)
    | (.ok moved, s) =>
      match ← pump s.link with
      | .error e => return (.error (.link (.system e)), s)
      | .ok link =>
        if moved.isIdle then IO.sleep s.config.idleSleepMs.toUInt32
        drivePumped pump start stop { s with link }

/-- Sends what the link holds for the host, and takes in what has arrived. -/
def pumpSocket (client : TCP.Socket.Client)
    (arriving : IO.Ref (AsyncTask (Option ByteArray))) (l : TcpLink) :
    IO (Except SystemError TcpLink) := attempt do
  unless l.host.received.isEmpty do
    (client.send ⟨l.host.received.toArray⟩).block
  let host := { l.host with received := [] }
  let task ← arriving.get
  if (← task.getState) == .finished then
    match ← task.block with
    | none => return { l with host := { host with ended := true } }
    | some data =>
      arriving.set (← (client.recv? 4096).toIO)
      return { l with host := { host with outgoing := host.outgoing ++ data.toList } }
  else return { l with host }

/-- Waits for a host at an address. -/
def accept (listen : Address) : IO (Except LinkError TCP.Socket.Client) := do
  let bound ← attempt do
    match ← IO.ofExcept ((← lookup listen.host).mapError fun e => IO.userError e.text) with
    | none => throw (IO.userError "no address")
    | some ip =>
      let server ← TCP.Socket.Server.mk
      server.bind (socketAddress ip listen.port)
      server.listen 128
      return server
  match bound with
  | .error e => return .error (.bind listen.render e)
  | .ok server =>
    match ← attempt server.accept.block with
    | .error e => return .error (.accept e)
    | .ok client => return .ok client

/-- Opens a session, drives it, and says what it came to. -/
def runSession {σ : Type} [Link σ] (link : σ) (pump : σ → IO (Except SystemError σ))
    (plan : RunPlan) (entropy : Random.Stream) (started : Nat) : IO (Except Fault RunSummary) := do
  match openSession link plan.config entropy with
  | .error fault => return .error fault
  | .ok s =>
    let stop := plan.limit.map (started + ·.milliseconds)
    let (result, s) ← drivePumped pump (← IO.monoMsNow) stop s
    return conclude s ((← IO.monoMsNow) - started) result

def runPlan (plan : RunPlan) (entropy : Random.Stream) : IO (Except Fault RunSummary) := do
  let started ← IO.monoMsNow
  match plan.carrier with
  | .serial line => runSession line (fun l => return .ok l) plan entropy started
  | .loopback demo =>
    match demoLink demo with
    | .error fault => return .error fault
    | .ok link => runSession link (fun l => return .ok l.takeSent.2) plan entropy started
  | .tcp listen =>
    match ← accept listen with
    | .error e => return .error (.ofLinkError "transport start failed" e)
    | .ok client =>
      client.noDelay
      let arriving ← IO.mkRef (← (client.recv? 4096).toIO)
      runSession (TcpLink.ofAddress listen {}) (pumpSocket client arriving) plan entropy started

def runDevice (o : RunOptions) : IO (Except Fault RunSummary) := do
  let contents ← (o.config.map readFile).getD (pure (.ok []))
  match o.plan (fun _ => contents) (fun _ => "No such file or directory") with
  | .error fault => return .error fault
  | .ok plan =>
    let seed := Bytes.toNat (← IO.getRandomBytes 8).toList
    runPlan plan (.ofSeed seed.toUInt64)

/-! ## The whole program -/

def finish (outcome : Outcome) : IO UInt32 := do
  let stdout ← IO.getStdout
  stdout.write ⟨outcome.output.toArray⟩
  stdout.flush
  if let some message := outcome.message then IO.eprintln message
  return outcome.exitCode.toUInt32

def perform (command : Subcommand) (format : OutputFormat) : IO (Except Fault Bytes) := do
  match command with
  | .version extended => return .ok (printVersion extended {})
  | .send address o => return (← sendCommand o address).map (Reply.print · format)
  | .run o => return (← runDevice o).map (·.print format)

end Acquisition.CommandLine

open Acquisition.CommandLine in
def main (args : List String) : IO UInt32 := do
  match Invocation.parse args with
  | .error stop => finish (.ofStop stop)
  | .ok invocation =>
    let usual : OutputFormat := if ← (← IO.getStdout).isTty then .table else .json
    finish (.ofResult (← perform invocation.command (invocation.options.format.getD usual)))
