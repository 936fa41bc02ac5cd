import Acquisition.Link.Basic

/-!
# A link in memory

The host side injects bytes, up to a bound on those not yet received, and takes what the device has
sent. Once the host has closed, the device still receives what was injected before.
-/

namespace Acquisition

structure Loopback where
  /-- Injected and not yet received. -/
  inbound : Bytes
  /-- The most bytes that may be on their way to the device. -/
  capacity : Nat
  /-- Sent and not yet taken by the host. -/
  outbound : Bytes
  closed : Bool
  /-- Receptions that moved data. -/
  receptions : Nat
  sends : Nat
deriving DecidableEq

namespace Loopback

def defaultCapacity : Nat := 4096

def ofCapacity (capacity : Nat) : Loopback :=
  { inbound := [], capacity, outbound := [], closed := false, receptions := 0, sends := 0 }

/-- Puts bytes on their way to the device. The number says how many fitted. -/
def inject (l : Loopback) (data : Bytes) : Nat × Loopback :=
  let accepted := min (l.capacity - l.inbound.length) data.length
  (accepted, { l with inbound := l.inbound ++ data.take accepted })

/-- Everything that the device has sent since the last time. -/
def takeSent (l : Loopback) : Bytes × Loopback :=
  (l.outbound, { l with outbound := [] })

/-- The host hangs up. -/
def close (l : Loopback) : Loopback := { l with closed := true }

def receive (l : Loopback) (max : Nat) : Except LinkError Bytes × Loopback :=
  let bytes := l.inbound.take max
  if bytes = [] then (if l.closed then .error .peerClosed else .ok [], l)
  else (.ok bytes, { l with inbound := l.inbound.drop max, receptions := l.receptions + 1 })

def send (l : Loopback) (data : Bytes) : Except LinkError Nat × Loopback :=
  if l.closed then (.error .peerClosed, l)
  else (.ok data.length, { l with outbound := l.outbound ++ data, sends := l.sends + 1 })

instance : Link Loopback where
  name := "loopback"
  acquire l := (.ok (), { l with closed := false, receptions := 0, sends := 0 })
  attach l := (.ok (), l)
  receive := receive
  send := send
  release l := l

end Loopback

end Acquisition
