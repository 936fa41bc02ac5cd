import Acquisition.CommandLine.Argument
import Acquisition.CommandLine.Report
import Acquisition.CommandLine.Value

/-!
# Options

What the user asks for: a command with its options, and the options that may stand before or after
the command. An option is given at most once on each side of the command; after it counts.
-/

namespace Acquisition.CommandLine

/-- Why there is no command to run. -/
inductive Stop
  /-- The arguments do not make sense. -/
  | usage
  | help
  | version
deriving DecidableEq

inductive LogFormat
  | text
  | json
deriving DecidableEq

inductive LogLevel
  | error
  | warn
  | info
  | debug
  | trace
deriving DecidableEq

inductive LinkKind
  | tcp
  | loopback
  | serial
deriving DecidableEq

def outputFormats : List (String × OutputFormat) :=
  [("json", .json), ("table", .table), ("pretty", .pretty), ("raw", .raw)]

def logFormats : List (String × LogFormat) := [("text", .text), ("json", .json)]

def logLevels : List (String × LogLevel) :=
  [("error", .error), ("warn", .warn), ("info", .info), ("debug", .debug), ("trace", .trace)]

def linkKinds : List (String × LinkKind) :=
  [("tcp", .tcp), ("loopback", .loopback), ("serial", .serial)]

/-- Options of every command. Nothing is logged: those of the log are only checked. -/
structure GlobalOptions where
  format : Option OutputFormat := none
  logFormat : Option LogFormat := none
  logLevel : Option LogLevel := none
deriving DecidableEq

structure RunOptions where
  link : Option LinkKind := none
  listen : Option String := none
  serialPath : Option String := none
  baud : Option UInt32 := none
  config : Option String := none
  noDemo : Bool := false
  duration : Option String := none
  seed : Option UInt64 := none
deriving DecidableEq

structure SendOptions where
  address : Option String := none
  command : Option UInt8 := none
  seq : Option UInt8 := none
  payload : Option String := none
  timeout : Option String := none
deriving DecidableEq

structure VersionOptions where
  extended : Bool := false
deriving DecidableEq

/-- Fills an option that was not yet given. -/
def once {α : Type} (before : Option α) (value : Option α) : Option (Option α) :=
  match before, value with
  | none, some v => some (some v)
  | _, _ => none

/-- A decimal numeral with an optional sign. -/
def natural? (max : Nat) (text : String) : Option Nat :=
  (Text.Numeral.signed? 0 max text.toList).map Int.toNat

/-- Options of a command: which there are, and what becomes of a value. -/
class OptionSet (α : Type) where
  /-- Whether an option has a value. -/
  takesValue? : String → Option Bool
  /-- The option that a single letter stands for. -/
  long? : Char → Option String
  /-- Refuses a value that is none, and an option that was given before. -/
  set? : α → (name value : String) → Option α
  /-- Takes an argument that is no option. -/
  positional? : α → String → Option α

namespace GlobalOptions

/-- What was given later counts. -/
def override (g later : GlobalOptions) : GlobalOptions where
  format := later.format <|> g.format
  logFormat := later.logFormat <|> g.logFormat
  logLevel := later.logLevel <|> g.logLevel

instance : OptionSet GlobalOptions where
  takesValue? name := if name ∈ ["format", "log-format", "log-level"] then some true else none
  long? _ := none
  set? g name value :=
    match name with
    | "format" => (once g.format (outputFormats.lookup value)).map ({ g with format := · })
    | "log-format" => (once g.logFormat (logFormats.lookup value)).map ({ g with logFormat := · })
    | "log-level" => (once g.logLevel (logLevels.lookup value)).map ({ g with logLevel := · })
    | _ => none
  positional? _ _ := none

end GlobalOptions

instance : OptionSet RunOptions where
  takesValue? name :=
    if name ∈ ["transport", "listen", "serial-path", "baud", "config", "duration", "seed"] then
      some true
    else if name = "no-demo" then some false
    else none
  long? _ := none
  set? o name value :=
    match name with
    | "transport" => (once o.link (linkKinds.lookup value)).map ({ o with link := · })
    | "listen" => (once o.listen (some value)).map ({ o with listen := · })
    | "serial-path" => (once o.serialPath (some value)).map ({ o with serialPath := · })
    | "baud" =>
      (once o.baud ((natural? (UInt32.size - 1) value).map .ofNat)).map ({ o with baud := · })
    | "config" =>
      (once o.config (if value = "" then none else some value)).map ({ o with config := · })
    | "no-demo" => if o.noDemo then none else some { o with noDemo := true }
    | "duration" => (once o.duration (some value)).map ({ o with duration := · })
    | "seed" =>
      (once o.seed ((Text.Numeral.unsigned? 10 (UInt64.size - 1) value.toList).map .ofNat)).map
        ({ o with seed := · })
    | _ => none
  positional? _ _ := none

instance : OptionSet SendOptions where
  takesValue? name :=
    if name ∈ ["command", "seq", "payload", "timeout"] then some true else none
  long? c := if c = 'c' then some "command" else none
  set? o name value :=
    match name with
    | "command" => (once o.command (ByteValue.parse value).toOption).map ({ o with command := · })
    | "seq" =>
      (once o.seq ((natural? (UInt8.size - 1) value).map .ofNat)).map ({ o with seq := · })
    | "payload" => (once o.payload (some value)).map ({ o with payload := · })
    | "timeout" => (once o.timeout (some value)).map ({ o with timeout := · })
    | _ => none
  positional? o text := (once o.address (some text)).map ({ o with address := · })

instance : OptionSet VersionOptions where
  takesValue? name := if name = "extended" then some false else none
  long? _ := none
  set? o name _ := if name = "extended" ∧ ¬ o.extended then some { extended := true } else none
  positional? _ _ := none

/-- The options of a command together with those of every command. -/
instance {α : Type} [OptionSet α] : OptionSet (GlobalOptions × α) where
  takesValue? name :=
    OptionSet.takesValue? GlobalOptions name <|> OptionSet.takesValue? α name
  long? c := OptionSet.long? α c
  set? o name value :=
    (OptionSet.set? o.1 name value).map (·, o.2) <|>
      (OptionSet.set? o.2 name value).map (o.1, ·)
  positional? o text := (OptionSet.positional? o.2 text).map (o.1, ·)

section

variable {α : Type} [OptionSet α]

/-- Takes one option off the arguments. -/
def takeOption (o : α) (name : String) (attached : Option String) (rest : List String) :
    Except Stop (α × List String) :=
  match OptionSet.takesValue? α name, attached with
  | none, _ => .error (if name = "help" ∧ attached = none then .help else .usage)
  | some false, some _ => .error .usage
  | some false, none => ((OptionSet.set? o name "").map (·, rest)).elim (.error .usage) .ok
  | some true, _ =>
    match Argument.value? attached rest with
    | none => .error .usage
    | some (value, rest) =>
      ((OptionSet.set? o name value).map (·, rest)).elim (.error .usage) .ok

/-- Takes the option off that a single letter stands for. -/
def takeShort (o : α) (c : Char) (attached : Option String) (rest : List String) :
    Except Stop (α × List String) :=
  match OptionSet.long? α c with
  | some name => takeOption o name attached rest
  | none => .error (if c = 'h' then .help else .usage)

theorem length_takeOption {o o' : α} {name : String} {attached : Option String}
    {rest rest' : List String} (h : takeOption o name attached rest = .ok (o', rest')) :
    rest'.length ≤ rest.length := by
  unfold takeOption at h
  split at h
  · cases h
  · cases h
  · cases hs : OptionSet.set? o name "" <;> rw [hs] at h <;> cases h
    exact Nat.le_refl _
  · split at h
    · cases h
    · rename_i value rest'' hv
      cases hs : OptionSet.set? o name value <;> rw [hs] at h <;> cases h
      exact Argument.length_value? hv

theorem length_takeShort {o o' : α} {c : Char} {attached : Option String}
    {rest rest' : List String} (h : takeShort o c attached rest = .ok (o', rest')) :
    rest'.length ≤ rest.length := by
  unfold takeShort at h
  split at h
  · exact length_takeOption h
  · cases h

/-- Takes arguments that are no options. -/
def takePositionals (o : α) : List String → Except Stop α
  | [] => .ok o
  | arg :: rest =>
    match OptionSet.positional? o arg with
    | none => .error .usage
    | some o => takePositionals o rest

/-- Takes the arguments of a command. -/
def takeAll (o : α) : List String → Except Stop α
  | [] => .ok o
  | arg :: rest =>
    match Argument.ofString arg with
    | .escape => takePositionals o rest
    | .plain text =>
      match OptionSet.positional? o text with
      | none => .error .usage
      | some o => takeAll o rest
    | .long name attached =>
      match _h : takeOption o name attached rest with
      | .error e => .error e
      | .ok (o, rest') => takeAll o rest'
    | .short c attached =>
      match _h : takeShort o c attached rest with
      | .error e => .error e
      | .ok (o, rest') => takeAll o rest'
termination_by args => args.length
decreasing_by
  · simp
  · have := length_takeOption _h
    simp only [List.length_cons]
    omega
  · have := length_takeShort _h
    simp only [List.length_cons]
    omega

end

inductive Subcommand
  | run (options : RunOptions)
  | send (address : String) (options : SendOptions)
  | version (extended : Bool)
deriving DecidableEq

structure Invocation where
  options : GlobalOptions
  command : Subcommand
deriving DecidableEq

namespace Invocation

def commandNames : List String := ["run", "send", "version", "help"]

/-- What is shown to someone who asks for help, about the program or one of its commands. -/
def help : List String → Stop
  | [] => .help
  | [name] => if name ∈ commandNames then .help else .usage
  | _ => .usage

/-- Reads the arguments of the command that is named. -/
def ofCommand (g : GlobalOptions) (name : String) (args : List String) :
    Except Stop Invocation :=
  match name with
  | "run" => do
    let (later, o) ← takeAll (({}, {}) : GlobalOptions × RunOptions) args
    return ⟨g.override later, .run o⟩
  | "send" => do
    let (later, o) ← takeAll (({}, {}) : GlobalOptions × SendOptions) args
    match o.address with
    | none => throw .usage
    | some address => return ⟨g.override later, .send address o⟩
  | "version" => do
    let (later, o) ← takeAll (({}, {}) : GlobalOptions × VersionOptions) args
    return ⟨g.override later, .version o.extended⟩
  | "help" => throw (help args)
  | _ => throw .usage

def parseFrom (g : GlobalOptions) : List String → Except Stop Invocation
  | [] => .error .usage
  | arg :: rest =>
    match Argument.ofString arg with
    | .escape => .error .usage
    | .plain name => ofCommand g name rest
    | .long "version" none => .error .version
    | .short 'V' _ => .error .version
    | .long name attached =>
      match _h : takeOption g name attached rest with
      | .error e => .error e
      | .ok (g, rest') => parseFrom g rest'
    | .short c attached =>
      match _h : takeShort g c attached rest with
      | .error e => .error e
      | .ok (g, rest') => parseFrom g rest'
termination_by args => args.length
decreasing_by
  · have := length_takeOption _h
    simp only [List.length_cons]
    omega
  · have := length_takeShort _h
    simp only [List.length_cons]
    omega

/-- Reads the arguments of the program. -/
def parse (args : List String) : Except Stop Invocation := parseFrom {} args

end Invocation

end Acquisition.CommandLine
