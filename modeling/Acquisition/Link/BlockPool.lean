import Acquisition.Bytes

/-!
# A pool of blocks

A fixed number of blocks that are filled in turn and given back. A block is known by its index. The
free ones are a stack, the filled ones a queue.
-/

namespace Acquisition

structure BlockPool where
  /-- What each block holds. -/
  contents : List Bytes
  /-- The blocks to fill, the next one first. -/
  free : List Nat
  /-- The filled blocks, the oldest first. -/
  ready : List Nat
  /-- The most blocks that may be ready. -/
  readyLimit : Nat
deriving DecidableEq

namespace BlockPool

def ofCount (count readyLimit : Nat) : BlockPool where
  contents := List.replicate count []
  free := List.range count
  ready := []
  readyLimit := readyLimit

def block (p : BlockPool) (index : Nat) : Bytes := p.contents.getD index []

/-- Fills a free block and makes it ready. There is none if no block is free or the queue is
full. -/
def push? (p : BlockPool) (data : Bytes) : Option BlockPool :=
  if p.readyLimit ≤ p.ready.length then none
  else
    match p.free with
    | [] => none
    | index :: free =>
      some { p with
        contents := p.contents.set index data
        free
        ready := p.ready ++ [index] }

/-- Takes the oldest ready block out of the queue. -/
def takeReady? (p : BlockPool) : Option (Nat × BlockPool) :=
  match p.ready with
  | [] => none
  | index :: ready => some (index, { p with ready })

/-- Gives a block back. -/
def giveBack (p : BlockPool) (index : Nat) : BlockPool :=
  { p with contents := p.contents.set index [], free := index :: p.free }

def reset (p : BlockPool) : BlockPool := ofCount p.contents.length p.readyLimit

end BlockPool

end Acquisition
