import Acquisition.CommandLine.Fault
import Acquisition.Text.Character
import Acquisition.Text.Numeral
import Acquisition.Text.Utf8

/-!
# Values on the command line

Durations, byte strings in hexadecimal digits, and single bytes.
-/

namespace Acquisition.CommandLine

structure Duration where
  milliseconds : Nat
deriving DecidableEq

namespace Duration

/-- The seconds that a clock can count. -/
def clockRange : Nat := 9223372036854775807

/-- Whether a clock can show the time after the duration. -/
def isClockable (d : Duration) : Bool := d.milliseconds / 1000 < clockRange

/-- The digits, and the milliseconds of their unit: `ms`, or seconds with or without an `s`. -/
def splitUnit (text : List Char) : List Char × Nat :=
  match text.reverse with
  | 's' :: 'm' :: digits => (digits.reverse, 1)
  | 's' :: digits => (digits.reverse, 1000)
  | _ => (text, 1000)

/-- Reads a duration. It is never zero. -/
def parse (text : String) : Except Fault Duration :=
  let shown := Text.trim text.toList
  if shown = [] then .error ⟨.usage, "duration must not be empty"⟩
  else
    let (digits, unit) := splitUnit shown
    match Text.Numeral.unsigned? 10 (UInt64.size - 1) digits with
    | none => .error ⟨.usage, s!"invalid duration value: {String.ofList shown}"⟩
    | some 0 => .error ⟨.usage, "duration must be greater than zero"⟩
    | some n => .ok ⟨n * unit⟩

end Duration

namespace HexPayload

/-- Space, tab, line feed, form feed and carriage return. -/
def isSpace (b : UInt8) : Bool := b == 32 || b == 9 || b == 10 || b == 12 || b == 13

/-- Two digits are a byte, and so are a `+` and one digit. -/
def pair? (high low : UInt8) : Option UInt8 :=
  (Text.Numeral.unsigned? 16 (UInt8.size - 1)
    [Char.ofNat high.toNat, Char.ofNat low.toNat]).map .ofNat

def pairs? : Bytes → Option Bytes
  | [] => some []
  | [_] => none
  | high :: low :: rest => do
    let b ← pair? high low
    some (b :: (← pairs? rest))

/-- Reads pairs of digits. White space may stand anywhere. -/
def parse (text : String) : Except Fault Bytes :=
  let digits := (Text.Utf8.ofString text).filter fun b => !isSpace b
  if digits.length % 2 ≠ 0 then
    .error ⟨.usage, s!"hex payload has an odd number of digits: {text}"⟩
  else
    match pairs? digits with
    | some bytes => .ok bytes
    | none => .error ⟨.usage, s!"invalid hex payload: {text}"⟩

end HexPayload

namespace ByteValue

def parse? (text : List Char) : Option UInt8 :=
  let value? := match text with
    | '0' :: 'x' :: digits | '0' :: 'X' :: digits =>
      Text.Numeral.unsigned? 16 (UInt8.size - 1) digits
    | _ => Text.Numeral.unsigned? 10 (UInt8.size - 1) text
  value?.map .ofNat

/-- Reads a byte in decimal digits or, after `0x`, in hexadecimal digits. The error is a line for
the user. -/
def parse (text : String) : Except String UInt8 :=
  let shown := Text.trim text.toList
  match parse? shown with
  | some b => .ok b
  | none =>
    .error s!"expected a byte value (0-255 or 0x00-0xFF), got {Text.quote (String.ofList shown)}"

end ByteValue

end Acquisition.CommandLine
