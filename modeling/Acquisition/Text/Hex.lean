import Acquisition.Bytes

/-!
# Hexadecimal text

`ofBytes` writes two lower-case digits a byte. `padded` writes a number with a `0x` in front and
leading zeros.
-/

namespace Acquisition.Text.Hex

/-- The digits of `n`, at least `width` of them. -/
def digits (width n : Nat) : List Char :=
  let shown := Nat.toDigits 16 n
  List.replicate (width - shown.length) '0' ++ shown

def padded (width n : Nat) : String :=
  String.ofList ('0' :: 'x' :: digits width n)

/-- As `padded`, with the digits in upper case. -/
def paddedUpper (width n : Nat) : String :=
  String.ofList ('0' :: 'x' :: (digits width n).map Char.toUpper)

def ofByte (b : UInt8) : List Char :=
  [Nat.digitChar (b.toNat / 16), Nat.digitChar (b.toNat % 16)]

def ofBytes (bytes : Bytes) : String :=
  String.ofList (bytes.flatMap ofByte)

/-- The value of one digit of either case. -/
def digitValue? (c : Char) : Option Nat :=
  if '0' ≤ c ∧ c ≤ '9' then some (c.toNat - '0'.toNat)
  else if 'a' ≤ c ∧ c ≤ 'f' then some (c.toNat - 'a'.toNat + 10)
  else if 'A' ≤ c ∧ c ≤ 'F' then some (c.toNat - 'A'.toNat + 10)
  else none

end Acquisition.Text.Hex
