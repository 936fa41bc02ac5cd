/-!
# Arguments

The shapes of a command-line argument: `--name`, `--name=value`, `-n`, `-nvalue`, `-n=value`, `--`,
and anything else. A single `-` is no option.
-/

namespace Acquisition.CommandLine

inductive Argument
  /-- After it there are no more options. -/
  | escape
  | long (name : String) (attached : Option String)
  | short (name : Char) (attached : Option String)
  | plain (text : String)
deriving DecidableEq

namespace Argument

/-- Cuts at the first `=`. -/
def splitValue (text : List Char) : String × Option String :=
  let name := text.takeWhile (· ≠ '=')
  match text.dropWhile (· ≠ '=') with
  | [] => (String.ofList name, none)
  | _ :: value => (String.ofList name, some (String.ofList value))

def ofString (arg : String) : Argument :=
  match arg.toList with
  | ['-', '-'] => .escape
  | '-' :: '-' :: text => .long (splitValue text).1 (splitValue text).2
  | ['-', name] => .short name none
  | '-' :: name :: '=' :: value => .short name (some (String.ofList value))
  | '-' :: name :: value => .short name (some (String.ofList value))
  | _ => .plain arg

/-- The value of an option: attached to it, or else the next argument unless that is an option. -/
def value? (attached : Option String) (rest : List String) : Option (String × List String) :=
  match attached, rest with
  | some value, rest => some (value, rest)
  | none, arg :: rest =>
    match ofString arg with
    | .plain value => some (value, rest)
    | _ => none
  | none, [] => none

theorem length_value? {attached : Option String} {rest rest' : List String} {value : String}
    (h : value? attached rest = some (value, rest')) : rest'.length ≤ rest.length := by
  unfold value? at h
  split at h
  · cases h; exact Nat.le_refl _
  · split at h
    · cases h; simp
    · cases h
  · cases h

end Argument

end Acquisition.CommandLine
