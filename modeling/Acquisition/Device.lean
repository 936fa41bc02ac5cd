import Acquisition.Device.State
import Acquisition.Device.Response
import Acquisition.Device.Waveform
import Acquisition.Failure
import Acquisition.Json.Basic
import Acquisition.RecordQueue

/-!
# The simulated device

A device answers requests and, while its stream runs, sends data packets and trigger events that
are due. Time is given to it in milliseconds, as a number below 2^64.

`respond` and `due` say which frames the device wants to send; whether they find room in a queue
(`send`) changes its counters and nothing else.
-/

namespace Acquisition

namespace Device

structure Stats where
  /-- Frames that were well-formed and were answered. -/
  framesHandled : Nat := 0
  framesRejected : Nat := 0
  framesQueued : Nat := 0
  /-- Frames that found no room in the queue. -/
  framesDropped : Nat := 0
deriving DecidableEq

def Stats.toJson (s : Stats) : Json := .record [
  ("frames_handled", .nat s.framesHandled),
  ("frames_rejected", .nat s.framesRejected),
  ("frames_queued", .nat s.framesQueued),
  ("frames_dropped", .nat s.framesDropped)]

end Device

structure Device where
  config : Device.Config
  state : Device.State
  random : Random.Stream
  /-- The sequence number of the next unprompted frame. -/
  nextSeq : UInt8
  stats : Device.Stats

namespace Device

/-- A device at power-on. Without a seed the random numbers are those of `entropy`. -/
def powerOn (config : Config) (entropy : Random.Stream) : Except Failure Device :=
  match config.validate with
  | .error e => .error (.ofConfigError e)
  | .ok () => .ok {
      config
      state := State.powerOn config
      random := match config.seed with
        | some seed => Random.Stream.ofSeed seed
        | none => entropy
      nextSeq := 0
      stats := {} }

/-! ## Requests -/

def infoOf (config : Config) : Response :=
  .deviceInfo config.protocolVersion config.firmwareVersion <|
    config.channels.zipIdx.map fun (ch, i) =>
      ⟨UInt8.ofNat i, ch.maxSampleRate, ch.formats, ch.name⟩

/-- Sets one channel; an entry for a channel that the device does not have is passed over. -/
def configureChannel (channels : List ChannelState) (c : ChannelConfig) : List ChannelState :=
  channels.modify c.channelId.toNat fun _ => ⟨0 < c.sampleRate, c.sampleRate, c.format⟩

/-- Stops the stream and gives up a burst that is under way. -/
def stop (d : Device) : Device :=
  { d with state := { d.state with
      stream := .stopped
      trigger := { d.state.trigger with sending := false, occurred := false } } }

/-- Arms the trigger, to fire after a drawn delay at the earliest. The sum is assumed to be below
2^64, as `now` and the delay are: it is not taken modulo the size of a word. -/
def arm (d : Device) (now : Nat) : Device :=
  let range := d.config.triggerDelay
  let (delay, random) := Random.delay range.minMs range.maxMs d.random
  { d with
    random
    state := { d.state with
      mode := .trigger
      trigger := { armed := true, nextTriggerMs := now + delay } } }

/-- Applies a request and gives the reply to it. -/
def handleRequest (d : Device) (request : Request) (now : Nat) : Response × Device :=
  match request with
  | .ping => (.pong d.config.deviceId, d)
  | .getStatus => (.status d.state.mode.toByte d.state.stream.toByte 0 0, d)
  | .getDeviceInfo => (infoOf d.config, d)
  | .setModeContinuous =>
    (.ack, { d with state := { d.state with mode := .continuous, trigger := {} } })
  | .setModeTrigger => (.ack, d.arm now)
  | .startStream =>
    (.ack, { d with state := { d.state with stream := .running, lastDataMs := none } })
  | .stopStream => (.ack, d.stop)
  | .configureStream channels =>
    (.ack, { d with state := { d.state with
      channels := channels.foldl configureChannel d.state.channels } })
  | .requestBufferedData =>
    if d.state.mode = .trigger ∧ d.state.trigger.occurred then (.ack, d)
    else (.ofRefusal (.status 0x02), d)

/-- Room for the payload of a received frame. -/
def payloadRoom : Bytes := List.replicate Frame.maxPayload 0

/-- The reply to a received frame. A malformed one is counted and has none. -/
def respond (d : Device) (wire : Bytes) (now : Nat) : Option Frame × Device :=
  match Frame.parseInto wire payloadRoom with
  | (.error _, _) =>
    (none, { d with stats := { d.stats with framesRejected := d.stats.framesRejected + 1 } })
  | (.ok header, room) =>
    let d := { d with stats := { d.stats with framesHandled := d.stats.framesHandled + 1 } }
    let (response, d) :=
      match Request.parse header.command (room.take header.payloadLength) with
      | .ok request => d.handleRequest request now
      | .error refusal => (.ofRefusal refusal, d)
    (some (response.toFrame header.seq), d)

/-! ## Unprompted frames -/

/-- Gives a response the next sequence number. -/
def unprompted (d : Device) (r : Response) : Frame × Device :=
  (r.toFrame d.nextSeq, { d with nextSeq := d.nextSeq + 1 })

/-- Whether enough time has passed since the last data packet. -/
def dataDue (d : Device) (now : Nat) : Bool :=
  match d.state.lastDataMs with
  | none => true
  | some last => d.config.dataIntervalMs.toNat ≤ now - last

/-- A packet with samples of every enabled channel, stamped with the low 32 bits of `stamp`. -/
def dataPacket (d : Device) (stamp : Nat) : Frame × Device :=
  let timestamp := UInt32.ofNat stamp
  let mask := d.state.channelMask
  let (samples, random) := drawChannels d.config.signal timestamp d.config.samplesPerPacket.toNat
    (bitCount mask) d.random
  { d with random }.unprompted
    (.dataPacket ⟨timestamp, mask, d.config.samplesPerPacket, samples⟩)

/-- Fires the trigger if it is armed and its time has come. -/
def fire (d : Device) (now : Nat) : List Frame × Device :=
  let t := d.state.trigger
  if t.armed ∧ ¬ t.occurred ∧ t.nextTriggerMs ≤ now then
    let (event, d) := d.unprompted
      (.eventTriggered (UInt32.ofNat now) 0 d.config.preTriggerSamples d.config.postTriggerSamples)
    let (packets, random) :=
      Random.count d.config.burstPacketsMin d.config.burstPacketsMax d.random
    ([event], { d with
      random
      state := { d.state with trigger := { t with
        occurred := true
        sending := true
        timestampMs := now
        packetsToSend := packets
        packetsSent := 0 } } })
  else ([], d)

/-- Sends the next packet of a burst, or the end of it once they are all sent, if data is due.
Packets are stamped as if they had been sent on time. For the time of the next trigger the same is
assumed as in `arm`. -/
def continueBurst (d : Device) (now : Nat) : List Frame × Device :=
  let t := d.state.trigger
  if ¬ t.sending ∨ ¬ d.dataDue now then ([], d)
  else if t.packetsSent < t.packetsToSend then
    let (packet, d) :=
      d.dataPacket (t.timestampMs + t.packetsSent * d.config.dataIntervalMs.toNat)
    ([packet], { d with state := { d.state with
      trigger := { t with packetsSent := t.packetsSent + 1 }
      lastDataMs := some now } })
  else
    let (complete, d) := d.unprompted .bufferTransferComplete
    let range := d.config.triggerRearm
    let (delay, random) := Random.delay range.minMs range.maxMs d.random
    ([complete], { d with
      random
      state := { d.state with
        trigger := { t with sending := false, occurred := false, nextTriggerMs := now + delay } } })

/-- The unprompted frames that are due at `now`. -/
def due (d : Device) (now : Nat) : List Frame × Device :=
  if ¬ d.state.isRunning then ([], d)
  else
    match d.state.mode with
    | .trigger =>
      let (event, d) := d.fire now
      let (burst, d) := d.continueBurst now
      (event ++ burst, d)
    | .continuous =>
      if d.dataDue now then
        let (packet, d) := d.dataPacket now
        ([packet], { d with state := { d.state with lastDataMs := some now } })
      else ([], d)

/-! ## Queueing -/

/-- Room for an encoded frame. -/
def frameRoom : Bytes := List.replicate Frame.maxSize 0

/-- Encodes a frame and queues it, or counts it as dropped if the queue has no room. -/
def send (d : Device) (f : Frame) (q : RecordQueue) : Device × RecordQueue :=
  match f.writeInto frameRoom with
  | (.error _, _) => (d, q)
  | (.ok size, room) =>
    match q.enqueue (room.take size) with
    | (.ok (), q) =>
      ({ d with stats := { d.stats with framesQueued := d.stats.framesQueued + 1 } }, q)
    | (.error _, q) =>
      ({ d with stats := { d.stats with framesDropped := d.stats.framesDropped + 1 } }, q)

def sendAll (d : Device) : List Frame → RecordQueue → Device × RecordQueue
  | [], q => (d, q)
  | f :: rest, q =>
    let (d, q) := d.send f q
    d.sendAll rest q

/-- Answers one received frame. -/
def handleFrame (d : Device) (wire : Bytes) (now : Nat) (q : RecordQueue) : Device × RecordQueue :=
  let (reply, d) := d.respond wire now
  d.sendAll reply.toList q

/-- Lets time pass up to `now`. -/
def tick (d : Device) (now : Nat) (q : RecordQueue) : Device × RecordQueue :=
  let (frames, d) := d.due now
  d.sendAll frames q

end Device

end Acquisition
