import Acquisition.Link.Basic
import Acquisition.Text.Character
import Acquisition.Text.Numeral

/-!
# Listen addresses

A listen address is a host and a port, and `parse` has defaults for either. A scheme in front is
passed over. The port stands after the last colon, so that a host may have colons of its own.
-/

namespace Acquisition

structure Address where
  host : String := "0.0.0.0"
  port : UInt16 := 9001
deriving DecidableEq

namespace Address

/-- The text of an address, which `parse` reads back. -/
def render (a : Address) : String := s!"{a.host}:{a.port.toNat}"

/-- What stands after the first `://`. -/
def afterScheme? : List Char → Option (List Char)
  | ':' :: '/' :: '/' :: rest => some rest
  | _ :: rest => afterScheme? rest
  | [] => none

/-- What stands before and after the last `separator`. -/
def splitLast? (separator : Char) : List Char → Option (List Char × List Char)
  | [] => none
  | c :: rest =>
    match splitLast? separator rest with
    | some (before, after) => some (c :: before, after)
    | none => if c = separator then some ([], rest) else none

/-- A port is not zero. -/
def port? (text : List Char) : Option UInt16 :=
  ((Text.Numeral.unsigned? 10 (UInt16.size - 1) text).filter (0 < ·)).map .ofNat

/-- Reads a host and a port, a host, or a port. -/
def ofHostAndPort? (text : List Char) : Option Address :=
  match splitLast? ':' text with
  | some ([], port) => (port? port).map fun port => { port }
  | some (host, port) => (port? port).map fun port => ⟨String.ofList host, port⟩
  | none =>
    if text.all Char.isDigit then (port? text).map fun port => { port }
    else some { host := String.ofList text }

/-- Reads an address. White space around it is passed over, and nothing at all is the default. -/
def parse (text : String) : Except LinkError Address :=
  let shown := Text.trim text.toList
  if shown = [] then .ok {}
  else
    match ofHostAndPort? ((afterScheme? shown).getD shown) with
    | some a => .ok a
    | none => .error (.invalidAddress (String.ofList shown))

end Address

end Acquisition
