import Acquisition.Link.Address
import Acquisition.Link.Basic

/-!
# A link to one host over a connection

The link listens at an address until its host connects. What the host sends and is sent stands in
buffers here; a socket fills the one and empties the other.
-/

namespace Acquisition

/-- The other end of a connection. -/
structure TcpHost where
  /-- Sent by the host and not yet received. -/
  outgoing : Bytes := []
  /-- The host sends no more. -/
  ended : Bool := false
  /-- What the host has been sent. -/
  received : Bytes := []
deriving DecidableEq

inductive TcpLink.Stage
  | closed
  | listening
  | connected
deriving DecidableEq

structure TcpLink where
  address : Address
  stage : TcpLink.Stage
  host : TcpHost
deriving DecidableEq

namespace TcpLink

def ofAddress (address : Address) (host : TcpHost) : TcpLink :=
  { address, stage := .closed, host }

/-- An address is listened at once. -/
def acquire (l : TcpLink) : Except LinkError Unit × TcpLink :=
  if l.stage = .closed then (.ok (), { l with stage := .listening })
  else (.error (.bind l.address.render .addressInUse), l)

def attach (l : TcpLink) : Except LinkError Unit × TcpLink :=
  match l.stage with
  | .closed => (.error .notConnected, l)
  | .listening | .connected => (.ok (), { l with stage := .connected })

def receive (l : TcpLink) (max : Nat) : Except LinkError Bytes × TcpLink :=
  if max = 0 then (.ok [], l)
  else if l.stage ≠ .connected then (.error .notConnected, l)
  else
    let bytes := l.host.outgoing.take max
    if bytes = [] ∧ l.host.ended then (.error .peerClosed, l)
    else (.ok bytes, { l with host := { l.host with outgoing := l.host.outgoing.drop max } })

def send (l : TcpLink) (data : Bytes) : Except LinkError Nat × TcpLink :=
  if l.stage ≠ .connected then (.error .notConnected, l)
  else (.ok data.length, { l with host := { l.host with received := l.host.received ++ data } })

instance : Link TcpLink where
  name := "tcp"
  acquire := acquire
  attach := attach
  receive := receive
  send := send
  release l := { l with stage := .closed }

end TcpLink

end Acquisition
