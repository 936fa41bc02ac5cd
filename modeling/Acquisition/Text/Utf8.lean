import Acquisition.Bytes

/-!
# UTF-8

`ofString` encodes. Decoding splits any byte string into characters and ill-formed pieces, where a
piece is as much of one character as is there (`next`). A strict reader refuses a text with such a
piece, a lenient one shows the replacement character for each.
-/

namespace Acquisition.Text.Utf8

def ofString (s : String) : Bytes :=
  s.toList.flatMap String.utf8EncodeChar

/-- For the first byte of a longer character: its payload bits, and the range of each byte that
follows. The ranges leave out overlong forms, surrogates and what lies beyond the last character. -/
def continuation? (b : UInt8) : Option (Nat × List (UInt8 × UInt8)) :=
  let any := (0x80, 0xBF)
  if 0xC2 ≤ b ∧ b ≤ 0xDF then some (b.toNat % 32, [any])
  else if b = 0xE0 then some (0, [(0xA0, 0xBF), any])
  else if b = 0xED then some (13, [(0x80, 0x9F), any])
  else if 0xE1 ≤ b ∧ b ≤ 0xEF then some (b.toNat % 16, [any, any])
  else if b = 0xF0 then some (0, [(0x90, 0xBF), any, any])
  else if 0xF1 ≤ b ∧ b ≤ 0xF3 then some (b.toNat % 8, [any, any, any])
  else if b = 0xF4 then some (4, [(0x80, 0x8F), any, any])
  else none

/-- Reads the bytes after the first, or as many of them as fit their ranges. -/
def continueWith : List (UInt8 × UInt8) → Nat → Bytes → Option Nat × Bytes
  | [], value, bytes => (some value, bytes)
  | (low, high) :: ranges, value, b :: rest =>
    if low ≤ b ∧ b ≤ high then continueWith ranges (value * 64 + b.toNat % 64) rest
    else (none, b :: rest)
  | _ :: _, _, [] => (none, [])

theorem length_continueWith (ranges : List (UInt8 × UInt8)) (value : Nat) (bytes : Bytes) :
    (continueWith ranges value bytes).2.length ≤ bytes.length := by
  fun_induction continueWith ranges value bytes with
  | case1 => simp
  | case2 _ _ _ _ _ _ _ ih => simp only [List.length_cons]; omega
  | case3 => simp
  | case4 => simp

/-- The character at the front of `b :: rest`, or `none` for an ill-formed piece, and what follows
it. -/
def next (b : UInt8) (rest : Bytes) : Option Char × Bytes :=
  if b < 0x80 then (some (Char.ofNat b.toNat), rest)
  else
    match continuation? b with
    | none => (none, rest)
    | some (value, ranges) =>
      let (code, rest) := continueWith ranges value rest
      (code.map Char.ofNat, rest)

theorem length_next (b : UInt8) (rest : Bytes) : (next b rest).2.length ≤ rest.length := by
  unfold next
  split
  · simp
  · split
    · simp
    · exact length_continueWith ..

/-- The characters and ill-formed pieces of a byte string in order. -/
def pieces : Bytes → List (Option Char)
  | [] => []
  | b :: rest =>
    (next b rest).1 :: pieces (next b rest).2
termination_by bytes => bytes.length
decreasing_by
  have := length_next b rest
  simp only [List.length_cons]
  omega

def decode? (bytes : Bytes) : Option String :=
  ((pieces bytes).mapM id).map String.ofList

def decodeLossy (bytes : Bytes) : String :=
  String.ofList ((pieces bytes).map (·.getD '\uFFFD'))

end Acquisition.Text.Utf8
