import Acquisition.Device
import Acquisition.Link.Basic
import Acquisition.Receiver
import Acquisition.Session.Config

/-!
# Sessions

A session binds a device to a link. Each `poll` takes in what has arrived, answers it, lets the
device send what is due, and sends what is queued.

A link may accept a frame in part. The rest is then `pending`, and no later frame is sent before
it is gone, so that frames go out whole and in order.
-/

namespace Acquisition

/-- What one poll has moved. -/
structure PollStats where
  bytesReceived : Nat := 0
  /-- Received bytes for which there was no room. -/
  bytesDropped : Nat := 0
  /-- Well-formed frames; the device counts the malformed ones. -/
  framesReceived : Nat := 0
  framesSent : Nat := 0
  bytesSent : Nat := 0
deriving DecidableEq

namespace PollStats

def isIdle (p : PollStats) : Bool := p.bytesReceived == 0 && p.bytesSent == 0

def toJson (p : PollStats) : Json := .record [
  ("bytes_received", .nat p.bytesReceived),
  ("bytes_dropped", .nat p.bytesDropped),
  ("frames_received", .nat p.framesReceived),
  ("frames_sent", .nat p.framesSent),
  ("bytes_sent", .nat p.bytesSent)]

end PollStats

namespace Session

/-- Totals over the polls that came to their end. -/
structure Stats where
  polls : Nat := 0
  bytesReceived : Nat := 0
  bytesDropped : Nat := 0
  framesReceived : Nat := 0
  framesSent : Nat := 0
  bytesSent : Nat := 0
deriving DecidableEq

namespace Stats

def absorb (s : Stats) (p : PollStats) : Stats where
  polls := s.polls + 1
  bytesReceived := s.bytesReceived + p.bytesReceived
  bytesDropped := s.bytesDropped + p.bytesDropped
  framesReceived := s.framesReceived + p.framesReceived
  framesSent := s.framesSent + p.framesSent
  bytesSent := s.bytesSent + p.bytesSent

def toJson (s : Stats) : Json := .record [
  ("polls", .nat s.polls),
  ("bytes_received", .nat s.bytesReceived),
  ("bytes_dropped", .nat s.bytesDropped),
  ("frames_received", .nat s.framesReceived),
  ("frames_sent", .nat s.framesSent),
  ("bytes_sent", .nat s.bytesSent)]

end Stats

/-- A clock that is set by hand, in milliseconds. They go round at 2^64. -/
structure ManualClock where
  now : UInt64
deriving DecidableEq

namespace ManualClock

def set (_ : ManualClock) (now : UInt64) : ManualClock := ⟨now⟩

def advance (c : ManualClock) (ms : UInt64) : ManualClock := ⟨c.now + ms⟩

end ManualClock

end Session

structure Session (σ : Type) where
  link : σ
  config : Session.Config
  device : Device
  rx : Receiver
  tx : RecordQueue
  /-- The unsent rest of a frame that was accepted in part. -/
  pending : Bytes
  stats : Session.Stats

namespace Session

variable {σ : Type}

/-- A session over a link that is not yet in use. -/
def create (link : σ) (config : Config) (deviceConfig : Device.Config)
    (entropy : Random.Stream) : Except Failure (Session σ) := do
  match config.validate with
  | .error e => throw (.ofConfigError e)
  | .ok () =>
    let device ← Device.powerOn deviceConfig entropy
    return {
      link, config, device
      rx := Receiver.ofCapacity config.rxCapacity config.maxFrameSize
      tx := RecordQueue.ofCapacity config.txCapacity
      pending := []
      stats := {} }

/-- Answers the frames that have arrived, in their order. -/
def handleAll (d : Device) (now : Nat) : List Bytes → RecordQueue → Device × RecordQueue
  | [], q => (d, q)
  | wire :: rest, q =>
    let (d, q) := d.handleFrame wire now q
    handleAll d now rest q

/-- What happens between reception and sending: arrived bytes are buffered, whole frames are
answered, and the device sends what is due. -/
def dispatch (s : Session σ) (arrived : Bytes) (now : Nat) : PollStats × Session σ :=
  let (accepted, rx) := s.rx.feed arrived
  let (frames, rx) := rx.drain Frame.maxSize
  let (device, tx) := handleAll s.device now frames s.tx
  let framesReceived := device.stats.framesHandled - s.device.stats.framesHandled
  let (device, tx) := device.tick now tx
  ({ bytesReceived := arrived.length
     bytesDropped := arrived.length - accepted
     framesReceived },
   { s with rx, device, tx })

variable [Link σ]

/-- Sends the rest of a frame that was accepted in part. -/
def flush (s : Session σ) (poll : PollStats) : Except LinkError PollStats × Session σ :=
  if s.pending = [] then (.ok poll, s)
  else
    match Link.send s.link s.pending with
    | (.error e, link) => (.error e, { s with link })
    | (.ok sent, link) =>
      let pending := s.pending.drop sent
      (.ok { poll with
        bytesSent := poll.bytesSent + sent
        framesSent := poll.framesSent + if pending = [] then 1 else 0 },
       { s with link, pending })

/-- Sends queued frames until none is left or one is accepted in part. A frame that the link
refuses is lost. -/
def transmit (s : Session σ) (poll : PollStats) : Except LinkError PollStats × Session σ :=
  match _h : s.tx.dequeue Frame.maxSize with
  | (.ok none, tx) => (.ok poll, { s with tx })
  | (.error _, tx) => transmit { s with tx } poll
  | (.ok (some frame), tx) =>
    match Link.send s.link frame with
    | (.error e, link) => (.error e, { s with tx, link })
    | (.ok sent, link) =>
      let poll := { poll with bytesSent := poll.bytesSent + sent }
      if sent < frame.length then
        (.ok poll, { s with tx, link, pending := frame.drop sent })
      else transmit { s with tx, link } { poll with framesSent := poll.framesSent + 1 }
termination_by s.tx.ring.available
decreasing_by all_goals exact RecordQueue.available_lt_of_dequeue _h (by simp)

/-- Everything that is to be sent, the pending rest first. -/
def sendOut (s : Session σ) (poll : PollStats) : Except LinkError PollStats × Session σ :=
  match s.flush poll with
  | (.error e, s) => (.error e, s)
  | (.ok poll, s) => if s.pending = [] then s.transmit poll else (.ok poll, s)

/-- One cycle: receive, answer, let time pass up to `now`, send. What fails is the link, and a
poll that fails is not in the totals. -/
def poll (s : Session σ) (now : Nat) : Except Failure PollStats × Session σ :=
  match Link.receive s.link s.config.receiveChunk with
  | (.error e, link) => (.error (.link e), { s with link })
  | (.ok arrived, link) =>
    let (moved, s) := { s with link }.dispatch arrived now
    match s.sendOut moved with
    | (.error e, s) => (.error (.link e), s)
    | (.ok moved, s) => (.ok moved, { s with stats := s.stats.absorb moved })

/-- Polls at each of the times, until a poll fails. -/
def pollAt (s : Session σ) : List Nat → Except Failure Unit × Session σ
  | [] => (.ok (), s)
  | now :: rest =>
    match s.poll now with
    | (.error e, s) => (.error e, s)
    | (.ok _, s) => pollAt s rest

/-- A run over the readings of a clock. The first marks its start, and each later one is the time
of a poll. -/
def run (s : Session σ) (readings : List Nat) : Except Failure Stats × Session σ :=
  match s.pollAt readings.tail with
  | (.error e, s) => (.error e, s)
  | (.ok (), s) => (.ok s.stats, s)

/-- Takes the link into use and waits for the host. -/
def start (s : Session σ) : Except Failure Unit × Session σ :=
  match Link.acquire s.link with
  | (.error e, link) => (.error (.link e), { s with link })
  | (.ok (), link) =>
    match Link.attach link with
    | (.error e, link) => (.error (.link e), { s with link })
    | (.ok (), link) => (.ok (), { s with link })

/-- Stops the stream, gives up the link and drops everything buffered. -/
def shutdown (s : Session σ) : Session σ :=
  { s with
    device := s.device.stop
    link := Link.release s.link
    rx := s.rx.reset
    tx := s.tx.reset
    pending := [] }

end Session

end Acquisition
