import Acquisition.CommandLine.Fault
import Acquisition.Command
import Acquisition.Receiver

/-!
# Waiting for a reply

A host that has sent a request reads until the reply to it arrives. The reply has the sequence
number of the request; frames that the device sends unprompted are passed over, whatever their
number is.
-/

namespace Acquisition.CommandLine

/-- A read from the connection: bytes, none at the end of the stream, or an error. -/
abbrev ReadResult := Except SystemError Bytes

namespace Reply

/-- The most bytes of a read. -/
def readSize : Nat := 4096

def isReplyTo (seq : UInt8) (f : Frame) : Bool :=
  f.seq == seq && !Command.isUnsolicited f.command

/-- Looks for the reply among the frames that have arrived. One that is malformed ends the wait. -/
def next? (seq : UInt8) (rx : Receiver) : Except Fault (Option Frame) × Receiver :=
  match _h : rx.extract Frame.maxSize with
  | (none, rx) => (.ok none, rx)
  | (some wire, rx) =>
    match Frame.decode wire with
    | .error e => (.error (.ofFrameError "bad reply" e), rx)
    | .ok f => if isReplyTo seq f then (.ok (some f), rx) else next? seq rx
termination_by rx.ring.available
decreasing_by exact Receiver.available_lt_of_extract _h

/-- Errors after which the next read may succeed. -/
def isPassing (e : SystemError) : Bool :=
  match e.kind with
  | .wouldBlock | .timedOut | .interrupted => true
  | _ => false

/-- Takes in what a read gave. -/
def takeIn (rx : Receiver) : ReadResult → Except Fault Receiver
  | .ok [] => .error ⟨.failure, "device closed the connection"⟩
  | .ok bytes => .ok (rx.feed bytes).2
  | .error e => if isPassing e then .ok rx else .error (.ofSystemError "receive failed" e)

def timedOut : Fault := ⟨.timeout, "timed out waiting for reply"⟩

/-- Reads on until the reply is there or the wait fails. The receiver then holds what has come
after the last frame that was looked at. -/
def awaitFrom (seq : UInt8) (rx : Receiver) (reads : List ReadResult) :
    Except Fault Frame × Receiver :=
  match next? seq rx with
  | (.error e, rx) => (.error e, rx)
  | (.ok (some f), rx) => (.ok f, rx)
  | (.ok none, rx) =>
    match reads with
    | [] => (.error timedOut, rx)
    | read :: rest =>
      match takeIn rx read with
      | .error e => (.error e, rx)
      | .ok rx => awaitFrom seq rx rest

def receiver : Receiver := Receiver.ofCapacity Receiver.defaultCapacity Frame.maxSize

/-- The reply among the reads that there is time for. -/
def await (seq : UInt8) (reads : List ReadResult) : Except Fault Frame :=
  (awaitFrom seq receiver reads).1

end Reply

end Acquisition.CommandLine
