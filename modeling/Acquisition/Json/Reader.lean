import Acquisition.Json.Basic
import Acquisition.Text.Hex

/-!
# Reading JSON

A strict reader: one value with white space around it. It refuses comments, commas before a closing
bracket, leading zeros, raw control characters in strings and escapes that JSON does not have.
-/

namespace Acquisition.Json

def isSpace (c : Char) : Bool := c == ' ' || c == '\n' || c == '\t' || c == '\r'

def skipSpace (cs : List Char) : List Char := cs.dropWhile isSpace

def digitsOf (cs : List Char) : List Nat := cs.map fun c => c.toNat - '0'.toNat

/-- At least one digit. -/
def digits? (cs : List Char) : Option (List Nat × List Char) :=
  match cs.span Char.isDigit with
  | ([], _) => none
  | (ds, rest) => some (digitsOf ds, rest)

def exponent? : List Char → Option (Option Int × List Char)
  | c :: rest =>
    if c = 'e' ∨ c = 'E' then do
      let (negative, rest) := match rest with
        | '+' :: rest => (false, rest)
        | '-' :: rest => (true, rest)
        | _ => (false, rest)
      let (ds, rest) ← digits? rest
      let value : Int := (ds.foldl (fun v d => v * 10 + d) 0 : Nat)
      some (some (if negative then -value else value), rest)
    else some (none, c :: rest)
  | [] => some (none, [])

def number? (cs : List Char) : Option (Number × List Char) := do
  let (negative, cs) := match cs with
    | '-' :: rest => (true, rest)
    | _ => (false, cs)
  let (whole, rest) ← digits? cs
  if whole.head? = some 0 ∧ whole.length ≠ 1 then none
  else
    let (fraction, rest) ← match rest with
      | '.' :: rest => digits? rest
      | _ => some ([], rest)
    let (exponent, rest) ← exponent? rest
    some ({ negative, whole, fraction, exponent }, rest)

/-- What the letter after a backslash stands for. -/
def escape? (c : Char) : Option Char :=
  match c with
  | '"' => some '"'
  | '\\' => some '\\'
  | '/' => some '/'
  | 'b' => some '\x08'
  | 'f' => some '\x0c'
  | 'n' => some '\n'
  | 'r' => some '\r'
  | 't' => some '\t'
  | _ => none

/-- The numbers of the characters up to the closing quote, where an escape may give half a surrogate
pair. -/
def codes? : List Char → Option (List Nat × List Char)
  | [] => none
  | '"' :: rest => some ([], rest)
  | '\\' :: 'u' :: a :: b :: c :: d :: rest => do
    let code ← [a, b, c, d].foldlM (fun v c => (Text.Hex.digitValue? c).map (v * 16 + ·)) 0
    let (more, rest) ← codes? rest
    some (code :: more, rest)
  | '\\' :: c :: rest => do
    let c ← escape? c
    let (more, rest) ← codes? rest
    some (c.toNat :: more, rest)
  | c :: rest =>
    if c = '\\' ∨ c.toNat < 0x20 then none
    else do
      let (more, rest) ← codes? rest
      some (c.toNat :: more, rest)

/-- The text with these numbers, if every surrogate is one of a pair. -/
def textOf? : List Nat → Option (List Char)
  | [] => some []
  | high :: rest =>
    if high < 0xD800 ∨ 0xDFFF < high then (textOf? rest).map (Char.ofNat high :: ·)
    else
      match rest with
      | low :: rest =>
        if high < 0xDC00 ∧ 0xDC00 ≤ low ∧ low < 0xE000 then
          (textOf? rest).map
            (Char.ofNat (0x10000 + (high - 0xD800) * 0x400 + (low - 0xDC00)) :: ·)
        else none
      | [] => none

def string? (cs : List Char) : Option (Option String × List Char) := do
  let (codes, rest) ← codes? cs
  some ((textOf? codes).map String.ofList, rest)

mutual

/-- One value. The first argument bounds the depth and the length of what is read. -/
def value? : Nat → List Char → Option (Json × List Char)
  | 0, _ => none
  | fuel + 1, cs =>
    match skipSpace cs with
    | 'n' :: 'u' :: 'l' :: 'l' :: rest => some (.null, rest)
    | 't' :: 'r' :: 'u' :: 'e' :: rest => some (.bool true, rest)
    | 'f' :: 'a' :: 'l' :: 's' :: 'e' :: rest => some (.bool false, rest)
    | '"' :: rest => (string? rest).map fun (s, rest) => (.string s, rest)
    | '[' :: rest =>
      match skipSpace rest with
      | ']' :: rest => some (.array [], rest)
      | rest => (items? fuel rest).map fun (items, rest) => (.array items, rest)
    | '\x7b' :: rest =>
      match skipSpace rest with
      | '\x7d' :: rest => some (.object [], rest)
      | rest => (members? fuel rest).map fun (members, rest) => (.object members, rest)
    | cs => (number? cs).map fun (n, rest) => (.number n, rest)

/-- The items of an array from one on, up to the bracket. -/
def items? : Nat → List Char → Option (List Json × List Char)
  | 0, _ => none
  | fuel + 1, cs => do
    let (item, rest) ← value? fuel cs
    match skipSpace rest with
    | ',' :: rest =>
      let (items, rest) ← items? fuel rest
      some (item :: items, rest)
    | ']' :: rest => some ([item], rest)
    | _ => none

/-- The members of an object from one on, up to the brace. -/
def members? : Nat → List Char → Option (List (Option String × Json) × List Char)
  | 0, _ => none
  | fuel + 1, cs => do
    let '"' :: rest := skipSpace cs | none
    let (name, rest) ← string? rest
    let ':' :: rest := skipSpace rest | none
    let (value, rest) ← value? fuel rest
    match skipSpace rest with
    | ',' :: rest =>
      let (members, rest) ← members? fuel rest
      some ((name, value) :: members, rest)
    | '\x7d' :: rest => some ([(name, value)], rest)
    | _ => none

end

/-- Reads a whole text. Every level of nesting and every item takes at least one character, and two
steps of the reader. -/
def parse? (s : String) : Option Json := do
  let cs := s.toList
  let (value, rest) ← value? (2 * cs.length + 2) cs
  if skipSpace rest = [] then some value else none

end Acquisition.Json
