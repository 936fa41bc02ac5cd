import Acquisition.Link.Basic
import Acquisition.Link.BlockPool

/-!
# A link of blocks

The receiving side is filled from outside, block by block, and read by the session (`Inbox`). The
sending side splits what the session sends into blocks (`Outbox`), and a worker takes them one by
one to a sink. Each function here that touches a pool does one of the steps that exclude each other:
filling a block, or one step of the worker (`ChunkStream.work?`).
-/

namespace Acquisition

namespace Chunk

/-- The largest block. -/
def maxBytes : Nat := 256

/-- The blocks of each side, and as many of them may be ready. -/
def poolCount : Nat := 32

/-- A block size: zero and what is too large stand for the largest. -/
def clamp (requested : Nat) : Nat :=
  if requested = 0 ∨ maxBytes < requested then maxBytes else requested

theorem clamp_pos (requested : Nat) : 0 < clamp requested := by
  unfold clamp maxBytes
  split <;> omega

theorem clamp_le (requested : Nat) : clamp requested ≤ maxBytes := by
  unfold clamp
  split <;> omega

def emptyPool : BlockPool := BlockPool.ofCount poolCount poolCount

end Chunk

/-! ## The receiving side -/

structure Inbox where
  pool : BlockPool
  /-- The block being read, and how much of it has been. -/
  current : Option (Nat × Nat)
  chunkBytes : Nat
  chunkBytes_pos : 0 < chunkBytes

namespace Inbox

def ofChunkBytes (requested : Nat) : Inbox where
  pool := Chunk.emptyPool
  current := none
  chunkBytes := Chunk.clamp requested
  chunkBytes_pos := Chunk.clamp_pos requested

/-- Fills one block from the front of `data`. -/
def pushChunk? (box : Inbox) (data : Bytes) : Option Inbox :=
  (box.pool.push? (data.take box.chunkBytes)).map fun pool => { box with pool }

/-- Fills blocks until `data` is used up or no block is free. The number says how much was
taken. -/
def push (box : Inbox) (data : Bytes) : Nat × Inbox :=
  if data = [] then (0, box)
  else
    match box.pushChunk? data with
    | none => (0, box)
    | some next =>
      let (n, next) := push next (data.drop box.chunkBytes)
      ((data.take box.chunkBytes).length + n, next)
termination_by data.length
decreasing_by
  have := box.chunkBytes_pos
  have : data.length ≠ 0 := by simpa using ‹data ≠ []›
  simp only [List.length_drop]
  omega

/-- The block to read and where, if there is one. -/
def next? (box : Inbox) : Option (Nat × Nat × Inbox) :=
  match box.current with
  | some (index, offset) => some (index, offset, { box with current := none })
  | none => box.pool.takeReady?.map fun (index, pool) => (index, 0, { box with pool })

/-- Reads at most `max` bytes of a block. A block that has been read is given back. -/
def readBlock (box : Inbox) (index offset max : Nat) : Bytes × Inbox :=
  let block := box.pool.block index
  let bytes := (block.drop offset).take max
  if block.length ≤ offset + bytes.length then
    (bytes, { box with pool := box.pool.giveBack index, current := none })
  else (bytes, { box with current := some (index, offset + bytes.length) })

def receiveFrom : (blocks : Nat) → Inbox → Nat → Bytes × Inbox
  | 0, box, _ => ([], box)
  | blocks + 1, box, max =>
    if max = 0 then ([], box)
    else
      match box.next? with
      | none => ([], box)
      | some (index, offset, box) =>
        let (bytes, box) := box.readBlock index offset max
        let (more, box) := receiveFrom blocks box (max - bytes.length)
        (bytes ++ more, box)

/-- At most `max` of the bytes pushed. The current block and each ready one are read at most
once. -/
def receive (box : Inbox) (max : Nat) : Bytes × Inbox :=
  receiveFrom (box.pool.ready.length + 1) box max

def reset (box : Inbox) : Inbox :=
  { box with pool := box.pool.reset, current := none }

end Inbox

/-! ## The sending side -/

/-- How a sink takes a block. -/
inductive SinkOutcome
  /-- Not yet; the same block will be offered again. -/
  | blocked
  | written
  /-- The block is lost. -/
  | failed
  /-- The block is lost, and the worker and the sink with it. -/
  | crashed
deriving DecidableEq

/-- Where the blocks go. -/
class BlockSink (τ : Type) where
  write : τ → Bytes → SinkOutcome × τ

/-- What the worker is doing. -/
inductive WorkerState
  /-- There is none; the next one gets the sink. -/
  | absent
  | idle
  /-- A block has been copied and is to be written. -/
  | holding (index : Nat) (data : Bytes)
  /-- A block has been dealt with and is to be given back. -/
  | finished (index : Nat)
  /-- It has died on a block. -/
  | dead
  /-- There is none, and no sink for another. -/
  | lost
deriving DecidableEq

structure Outbox where
  pool : BlockPool
  chunkBytes : Nat
  chunkBytes_pos : 0 < chunkBytes

namespace Outbox

def ofChunkBytes (requested : Nat) : Outbox where
  pool := Chunk.emptyPool
  chunkBytes := Chunk.clamp requested
  chunkBytes_pos := Chunk.clamp_pos requested

/-- Fills one block from the front of `data`. -/
def pushChunk? (box : Outbox) (data : Bytes) : Option Outbox :=
  (box.pool.push? (data.take box.chunkBytes)).map fun pool => { box with pool }

end Outbox

structure ChunkStream (τ : Type) where
  inbox : Inbox
  outbox : Outbox
  worker : WorkerState
  sink : τ

namespace ChunkStream

variable {τ : Type}

def ofSink (sink : τ) (receiveBytes sendBytes : Nat) : ChunkStream τ where
  inbox := Inbox.ofChunkBytes receiveBytes
  outbox := Outbox.ofChunkBytes sendBytes
  worker := .absent
  sink := sink

/-- Sets the block sizes from now on. -/
def setChunkBytes (s : ChunkStream τ) (receiveBytes sendBytes : Nat) : ChunkStream τ :=
  { s with
    inbox := { s.inbox with
      chunkBytes := Chunk.clamp receiveBytes
      chunkBytes_pos := Chunk.clamp_pos receiveBytes }
    outbox := { s.outbox with
      chunkBytes := Chunk.clamp sendBytes
      chunkBytes_pos := Chunk.clamp_pos sendBytes } }

/-- Hands received bytes to the link from outside. -/
def push (s : ChunkStream τ) (data : Bytes) : Nat × ChunkStream τ :=
  let (n, inbox) := s.inbox.push data
  (n, { s with inbox })

variable [BlockSink τ]

/-- One step of the worker, if it can take one: to take a block, to write it, or to give it back. -/
def work? (s : ChunkStream τ) : Option (ChunkStream τ) :=
  match s.worker with
  | .idle =>
    s.outbox.pool.takeReady?.map fun (index, pool) =>
      { s with outbox := { s.outbox with pool }, worker := .holding index (pool.block index) }
  | .holding index data =>
    match BlockSink.write s.sink data with
    | (.blocked, _) => none
    | (.written, sink) | (.failed, sink) => some { s with sink, worker := .finished index }
    | (.crashed, sink) => some { s with sink, worker := .dead }
  | .finished index =>
    some { s with
      outbox := { s.outbox with pool := s.outbox.pool.giveBack index }
      worker := .idle }
  | .absent | .dead | .lost => none

def workFor : Nat → ChunkStream τ → ChunkStream τ
  | 0, s => s
  | steps + 1, s =>
    match s.work? with
    | none => s
    | some s => workFor steps s

/-- Lets the worker go on until it can not. It takes at most three steps a block. -/
def settle (s : ChunkStream τ) : ChunkStream τ :=
  workFor (3 * (s.outbox.pool.ready.length + 1)) s

/-- Queues block after block while the worker takes them, until `data` is used up or the worker can
free no block. The number says how much was queued. -/
def sendBlocks (s : ChunkStream τ) (data : Bytes) : Nat × ChunkStream τ :=
  if data = [] then (0, s)
  else
    let size := s.outbox.chunkBytes
    match s.outbox.pushChunk? data with
    | none => (0, s)
    | some outbox =>
      let (n, next) := sendBlocks (settle { s with outbox }) (data.drop size)
      ((data.take size).length + n, next)
termination_by data.length
decreasing_by
  have := s.outbox.chunkBytes_pos
  have : data.length ≠ 0 := by simpa using ‹data ≠ []›
  simp only [List.length_drop]
  omega

def send (s : ChunkStream τ) (data : Bytes) : Except LinkError Nat × ChunkStream τ :=
  match s.worker with
  | .absent | .lost => (.error .notConnected, s)
  | _ =>
    let (n, s) := s.settle.sendBlocks data
    if n = 0 ∧ data ≠ [] then
      (.error (.system ⟨.wouldBlock, "no tx blocks available"⟩), s)
    else (.ok n, s)

/-- Starts a worker on empty pools, unless there is one. -/
def acquire (s : ChunkStream τ) : Except LinkError Unit × ChunkStream τ :=
  match s.worker with
  | .lost => (.error .shutdown, s)
  | .absent =>
    (.ok (), { s with
      inbox := s.inbox.reset
      outbox := { s.outbox with pool := s.outbox.pool.reset }
      worker := .idle })
  | _ => (.ok (), s)

/-- Lets the worker write what is queued and ends it, and drops what was not received. A worker
whose sink stays blocked goes on. -/
def release (s : ChunkStream τ) : ChunkStream τ :=
  let s := s.settle
  let worker := match s.worker with
    | .idle => .absent
    | .dead => .lost
    | other => other
  { s with worker, inbox := s.inbox.reset }

instance : Link (ChunkStream τ) where
  name := "chunk-stream"
  acquire := acquire
  attach s := (.ok (), s)
  receive s max :=
    let (bytes, inbox) := s.inbox.receive max
    (.ok bytes, { s with inbox })
  send := send
  release := release

end ChunkStream

end Acquisition
