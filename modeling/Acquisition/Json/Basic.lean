import Acquisition.Json.Number

/-!
# JSON values

Members of an object keep their order and may repeat a name. A text is missing where an escape
names half a surrogate pair: such a string is well-formed JSON and stands for no text.
-/

namespace Acquisition

inductive Json
  | null
  | bool (b : Bool)
  | number (n : Json.Number)
  | string (text : Option String)
  | array (items : List Json)
  | object (members : List (Option String × Json))

namespace Json

def text (s : String) : Json := .string (some s)

def int (n : Int) : Json := .number (Number.ofInt n)

def nat (n : Nat) : Json := int n

def record (members : List (String × Json)) : Json :=
  .object (members.map fun (name, value) => (some name, value))

def ofOption {α : Type} (f : α → Json) : Option α → Json
  | none => .null
  | some a => f a

/-! ## Reading typed values -/

def bool? : Json → Option Bool
  | .bool b => some b
  | _ => none

def text? : Json → Option String
  | .string s => s
  | _ => none

/-- An integer from `low` to `high`. -/
def int? (low high : Int) : Json → Option Int
  | .number n => n.toInteger?.filter fun v => low ≤ v ∧ v ≤ high
  | _ => none

/-- A natural number below `size`. -/
def nat? (size : Nat) (j : Json) : Option Nat :=
  (j.int? 0 (size - 1)).map Int.toNat

def float? : Json → Option Float
  | .number n => n.toFloat?
  | _ => none

def array? : Json → Option (List Json)
  | .array items => some items
  | _ => none

/-- A null for a missing value, anything else through `read`. -/
def nullable? {α : Type} (read : Json → Option α) : Json → Option (Option α)
  | .null => some none
  | j => (read j).map some

/-- Whether `name` stands more than once among the members. -/
def repeats (members : List (Option String × Json)) (name : String) : Bool :=
  1 < (members.filter fun m => m.1 == some name).length

/-- A record with fields of the given names, as a way to look them up. It is written as an object,
whose other members are ignored, or as an array of the fields in order, which may be cut short. No
field may stand twice. -/
def record? (names : List String) : Json → Option (String → Option Json)
  | .object members =>
    if members.any (·.1.isNone) || names.any (repeats members) then none
    else some fun name => (members.find? fun m => m.1 == some name).map (·.2)
  | .array items =>
    if names.length < items.length then none else some fun name => items[names.idxOf name]?
  | _ => none

/-- A field that may be missing. -/
def field? {α : Type} (field : Option Json) (default : α) (read : Json → Option α) :
    Option α :=
  match field with
  | none => some default
  | some j => read j

/-- The member of an object, the first if there are several. -/
def get? (j : Json) (name : String) : Option Json :=
  match j with
  | .object members => (members.find? fun m => m.1 == some name).map (·.2)
  | _ => none

end Json

end Acquisition
