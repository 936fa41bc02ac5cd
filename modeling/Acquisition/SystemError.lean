/-!
# Errors of the operating system

What a file, a socket or a serial line reports: a kind to act on and a text to show.
-/

namespace Acquisition

namespace SystemError

inductive Kind
  | notFound
  | permissionDenied
  | connectionRefused
  | connectionReset
  | connectionAborted
  | brokenPipe
  | timedOut
  | wouldBlock
  | interrupted
  | invalidInput
  | invalidData
  | other
deriving DecidableEq

end SystemError

structure SystemError where
  kind : SystemError.Kind
  text : String
deriving DecidableEq

namespace SystemError

/-- The errors that have numbers. -/
def numbered : List (Nat × Kind × String) := [
  (1, .permissionDenied, "Operation not permitted"),
  (2, .notFound, "No such file or directory"),
  (4, .interrupted, "Interrupted system call"),
  (11, .wouldBlock, "Resource temporarily unavailable"),
  (13, .permissionDenied, "Permission denied"),
  (20, .other, "Not a directory"),
  (21, .other, "Is a directory"),
  (22, .invalidInput, "Invalid argument"),
  (32, .brokenPipe, "Broken pipe"),
  (36, .other, "File name too long"),
  (98, .other, "Address already in use"),
  (99, .other, "Cannot assign requested address"),
  (101, .other, "Network is unreachable"),
  (103, .connectionAborted, "Software caused connection abort"),
  (104, .connectionReset, "Connection reset by peer"),
  (110, .timedOut, "Connection timed out"),
  (111, .connectionRefused, "Connection refused"),
  (113, .other, "No route to host")]

/-- What an error is called, with its number. -/
def shown (name : String) (n : Nat) : String := s!"{name} (os error {n})"

def ofNumber? (n : Nat) : Option SystemError :=
  (numbered.lookup n).map fun (kind, name) => ⟨kind, shown name n⟩

def addressInUse : SystemError := ⟨.other, shown "Address already in use" 98⟩

end SystemError

end Acquisition
