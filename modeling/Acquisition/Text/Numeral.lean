import Acquisition.Text.Hex

/-!
# Unsigned numerals

One optional `+`, then at least one digit of the radix, leading zeros allowed, and the value within
a bound.
-/

namespace Acquisition.Text.Numeral

/-- The value of a digit of either case in a radix of at most 16. -/
def digit? (radix : Nat) (c : Char) : Option Nat :=
  (Hex.digitValue? c).filter (· < radix)

/-- The number that `digits` continue, if all of them are digits. -/
def continue? (radix : Nat) : Nat → List Char → Option Nat
  | value, [] => some value
  | value, c :: rest => do continue? radix (value * radix + (← digit? radix c)) rest

def digits? (radix : Nat) : List Char → Option Nat
  | [] => none
  | cs@(_ :: _) => continue? radix 0 cs

def unsigned? (radix max : Nat) (text : List Char) : Option Nat :=
  let digits := match text with
    | '+' :: rest => rest
    | _ => text
  (digits? radix digits).filter (· ≤ max)

/-- As `unsigned?` in radix 10 with `-` as a second sign, and a value from `min` to `max`. -/
def signed? (min max : Int) (text : List Char) : Option Int :=
  let value? : Option Int := match text with
    | '+' :: rest => (digits? 10 rest).map Int.ofNat
    | '-' :: rest => (digits? 10 rest).map fun n => -Int.ofNat n
    | _ => (digits? 10 text).map Int.ofNat
  value?.filter fun v => min ≤ v ∧ v ≤ max

end Acquisition.Text.Numeral
