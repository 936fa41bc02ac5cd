import Acquisition.CommandLine.Run
import Acquisition.CommandLine.Send
import Acquisition.CommandLine.Version

/-!
# The command line

The arguments and what is found outside the program determine what it prints and its exit code.
-/

namespace Acquisition

namespace CommandLine

/-- What is found outside the program. -/
structure Environment where
  /-- The format of the output if none is asked for. -/
  defaultFormat : OutputFormat
  /-- The contents of the file at a path. -/
  file : String → Except SystemError Bytes
  /-- Why there is no serial line at a path. -/
  noLine : String → String
  network : Network
  /-- The host that connects to a device. -/
  host : TcpHost
  /-- What the clock shows while a device runs so long. -/
  clock : Option Duration → List Nat
  entropy : Random.Stream
  build : Build

structure Outcome where
  exitCode : Nat
  output : Bytes
  /-- A line for the user. -/
  message : Option String
deriving DecidableEq

def helpLines : List String := [
  "Simulated data-acquisition device",
  "",
  "Usage: daqsim [OPTIONS] <COMMAND>",
  "",
  "Commands:",
  "  run      Run the simulated device on a transport",
  "  send     Send one command frame to a running device and print the reply",
  "  version  Show version information"]

/-- Runs a command, to what it prints. -/
def Subcommand.execute (command : Subcommand) (format : OutputFormat) (env : Environment) :
    Except Fault Bytes :=
  match command with
  | .version extended => .ok (printVersion extended env.build)
  | .send address options => do return Reply.print (← options.run address env.network) format
  | .run options => do
    let plan ← options.plan env.file env.noLine
    let summary ← plan.run env.host env.entropy (env.clock plan.limit)
    return summary.print format

def Outcome.ofResult : Except Fault Bytes → Outcome
  | .ok output => ⟨ExitCode.success.toNat, output, none⟩
  | .error fault => ⟨fault.code.toNat, [], some fault.line⟩

/-- The outcome of arguments that name no command to run. -/
def Outcome.ofStop : Stop → Outcome
  | .usage => ⟨2, [], some "error: invalid arguments, try --help"⟩
  | .help => ⟨0, lines helpLines, none⟩
  | .version => ⟨0, lines [versionLine], none⟩

/-- Runs the program. -/
def execute (args : List String) (env : Environment) : Outcome :=
  match Invocation.parse args with
  | .error stop => .ofStop stop
  | .ok invocation =>
    let format := invocation.options.format.getD env.defaultFormat
    .ofResult (invocation.command.execute format env)

end CommandLine

end Acquisition
