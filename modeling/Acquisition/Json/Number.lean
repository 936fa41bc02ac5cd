/-!
# Numbers as JSON writes them

A number keeps its digits, so that a reader can still tell `1` from `1.0`. `toInteger?` is for
fields that hold integers of at most 64 bits and `toFloat?` for those that hold binary64 values.
-/

namespace Acquisition.Json

structure Number where
  negative : Bool
  /-- The digits before the point. -/
  whole : List Nat
  /-- The digits after the point, none if there is no point. -/
  fraction : List Nat
  exponent : Option Int

namespace Number

def ofInt (n : Int) : Number where
  negative := n < 0
  whole := (Nat.toDigits 10 n.natAbs).map fun c => c.toNat - '0'.toNat
  fraction := []
  exponent := none

/-- Appends `digits` to `value` for as long as it fits into 64 bits, and gives what is left. -/
def absorb (value : Nat) : List Nat → Nat × List Nat
  | [] => (value, [])
  | d :: rest =>
    if value * 10 + d < UInt64.size then absorb (value * 10 + d) rest else (value, d :: rest)

/-- The integer, if it is written without point and exponent and fits into 64 bits. A minus sign
asks for a number below zero. -/
def toInteger? (n : Number) : Option Int :=
  if n.fraction ≠ [] ∨ n.exponent.isSome then none
  else
    match absorb 0 n.whole with
    | (_, _ :: _) => none
    | (value, []) =>
      if ¬ n.negative then some value
      else if 0 < value ∧ value ≤ UInt64.size / 2 then some (-value)
      else none

def powerOfTen (k : Nat) : Float := Float.ofScientific 1 false k

/-- The largest power of ten that binary64 holds. -/
def largestPower : Nat := 308

/-- `f` divided `k` times by the largest power of ten. -/
def divideByLargest (f : Float) : Nat → Float
  | 0 => f
  | k + 1 => divideByLargest (f / powerOfTen largestPower) k

/-- `significand` times ten to the `exponent`, rounded after each step; none beyond the range. -/
def scale? (significand : Nat) (exponent : Int) : Option Float :=
  let f := (UInt64.ofNat significand).toFloat
  if significand = 0 then some f
  else if 0 ≤ exponent then
    let value := f * powerOfTen exponent.toNat
    if exponent ≤ largestPower ∧ ¬ value.isInf then some value else none
  else
    let k := exponent.natAbs
    let steps := (k - 1) / largestPower
    -- After three such divisions nothing is left of 64 bits.
    some (divideByLargest f (min steps 3) / powerOfTen (k - largestPower * steps))

/-- The binary64 value: the first digits that fit into 64 bits, scaled by a power of ten. The
result is not always the nearest value to a number of many digits. -/
def toFloat? (n : Number) : Option Float :=
  let (value, unread) := absorb 0 n.whole
  let (significand, ignored) := absorb value n.fraction
  let shift : Int := unread.length - (n.fraction.length - ignored.length : Nat)
  (scale? significand (shift + n.exponent.getD 0)).map fun f => if n.negative then -f else f

def render (n : Number) : String :=
  let digits (ds : List Nat) := String.ofList (ds.map Nat.digitChar)
  (if n.negative then "-" else "") ++ digits n.whole ++
    (if n.fraction = [] then "" else "." ++ digits n.fraction) ++
    (match n.exponent with
      | none => ""
      | some e => s!"e{e}")

end Number

end Acquisition.Json
