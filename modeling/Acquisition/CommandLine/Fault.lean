import Acquisition.Failure

/-!
# How a program run fails

A fault is an exit code and a line for the user. The code tells what kind of failure it was, and
the line says what was being done.
-/

namespace Acquisition.CommandLine

inductive ExitCode
  | success
  | failure
  | transportError
  | permissionDenied
  | dataInvalid
  | usage
  | crash
  | timeout
  | internal
deriving DecidableEq

def ExitCode.toNat : ExitCode → Nat
  | success => 0
  | failure => 1
  | transportError => 3
  | permissionDenied => 50
  | dataInvalid => 60
  | usage => 64
  | crash => 101
  | timeout => 124
  | internal => 125

structure Fault where
  code : ExitCode
  message : String
deriving DecidableEq

namespace Fault

/-- What is printed. A crash is no error of the user's. -/
def line (f : Fault) : String := if f.code = .crash then f.message else s!"error: {f.message}"

def ofSystemError (context : String) (e : SystemError) : Fault :=
  let code : ExitCode := match e.kind with
    | .permissionDenied => .permissionDenied
    | .timedOut | .wouldBlock => .timeout
    | .connectionRefused => .failure
    | _ => .internal
  ⟨code, s!"{context}: {e.text}"⟩

/-- What the system reported is shown by itself, without the link's own words. -/
def ofLinkError (context : String) (e : LinkError) : Fault :=
  match e with
  | .bind _ source | .accept source | .system source => ofSystemError context source
  | .invalidAddress _ => ⟨.usage, s!"{context}: {e.message}"⟩
  | _ => ⟨.transportError, s!"{context}: {e.message}"⟩

def ofFrameError (context : String) (e : FrameError) : Fault :=
  let code : ExitCode := match e with
    | .payloadTooLarge .. => .usage
    | .headMismatch | .tailMismatch | .lengthMismatch | .checksumMismatch .. => .dataInvalid
    | .bufferTooSmall .. | .queueFull .. | .recordTooLarge .. => .internal
  ⟨code, s!"{context}: {e.message}"⟩

def ofFailure (context : String) (e : Failure) : Fault :=
  match e with
  | .link cause => ofLinkError context cause
  | .frame cause => ofFrameError context cause
  | .config _ | .json => ⟨.dataInvalid, s!"{context}: {e.message}"⟩
  | .system cause => ofSystemError context cause

end Fault

end Acquisition.CommandLine
