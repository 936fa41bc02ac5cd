import Acquisition.Bytes
import Acquisition.SystemError
import Acquisition.Text.Character

/-!
# Links

A link carries bytes between a device and its host. Its operations are functions on its state, so a
session can be run over any list of outcomes as well as over a real connection.
-/

namespace Acquisition

/-- Why a link fails. Every one of these ends the session that owns the link. -/
inductive LinkError
  /-- The listen address cannot be bound. -/
  | bind (address : String) (source : SystemError)
  /-- An incoming connection cannot be accepted. -/
  | accept (source : SystemError)
  | system (source : SystemError)
  /-- The other end closed the connection. -/
  | peerClosed
  /-- Used before a connection was made. -/
  | notConnected
  /-- A serial line cannot be opened or set up. -/
  | serial (path reason : String)
  /-- A listen address that is none. -/
  | invalidAddress (text : String)
  /-- Used after its worker was lost. -/
  | shutdown
deriving DecidableEq

def LinkError.message : LinkError → String
  | bind address source => s!"failed to bind to {address}: {source.text}"
  | accept source => s!"failed to accept connection: {source.text}"
  | system source => s!"transport I/O error: {source.text}"
  | peerClosed => "peer closed the connection"
  | notConnected => "transport not connected"
  | serial path reason => s!"serial port {path}: {reason}"
  | invalidAddress text => s!"invalid address {Text.quote text}"
  | shutdown => "transport shut down"

class Link (σ : Type) where
  name : String
  /-- Takes what the link needs: an address, a line, a worker. -/
  acquire : σ → Except LinkError Unit × σ
  /-- Waits for the host. -/
  attach : σ → Except LinkError Unit × σ
  /-- At most so many of the bytes that have arrived; none if there are none right now. -/
  receive : σ → Nat → Except LinkError Bytes × σ
  /-- Takes bytes to send. The number says how many were accepted, from the front. -/
  send : σ → Bytes → Except LinkError Nat × σ
  /-- Gives up what was taken. It may be done twice. -/
  release : σ → σ

/-- A serial line without a port: opening it fails, and nothing can be received or sent. -/
structure SerialLine where
  path : String
  baudRate : UInt32 := 115200
  /-- Why there is no port. -/
  reason : String
deriving DecidableEq

namespace SerialLine

instance : Link SerialLine where
  name := "serial"
  acquire l := (.error (.serial l.path l.reason), l)
  attach l := (.ok (), l)
  receive l _ := (.error .notConnected, l)
  send l _ := (.error .notConnected, l)
  release l := l

end SerialLine

end Acquisition
