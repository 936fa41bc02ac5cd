import Acquisition.Bytes
import Acquisition.SystemError

/-!
# Files in memory

A tree of directories and files, and what a path leads to in it. The names of a path are followed
from left to right, so the first that cannot be followed decides what is reported.
-/

namespace Acquisition.CommandLine

inductive FileTree
  | file (contents : Bytes)
  | directory (entries : List (String × FileTree))

inductive PathError
  | missing
  /-- A name follows one of a file. -/
  | notDirectory
  /-- A directory has no contents to read. -/
  | isDirectory
  | nameTooLong
deriving DecidableEq

namespace PathError

def name : PathError → String
  | missing => "No such file or directory"
  | notDirectory => "Not a directory"
  | isDirectory => "Is a directory"
  | nameTooLong => "File name too long"

def number : PathError → Nat
  | missing => 2
  | notDirectory => 20
  | isDirectory => 21
  | nameTooLong => 36

def toSystemError (e : PathError) : SystemError :=
  ⟨if e = missing then .notFound else .other, SystemError.shown e.name e.number⟩

end PathError

namespace FileTree

/-- The most bytes of one name. -/
def maxName : Nat := 255

/-- A path has fewer bytes. -/
def maxPath : Nat := 4096

/-- Goes on by one name, from the innermost of the trees that the path has led through. -/
def follow (through : List FileTree) (name : String) : Except PathError (List FileTree) :=
  match through with
  | directory entries :: outer =>
    if name = "" ∨ name = "." then .ok through
    else if name = ".." then .ok (if outer.isEmpty then through else outer)
    else if maxName < name.utf8ByteSize then .error .nameTooLong
    else
      match entries.lookup name with
      | some tree => .ok (tree :: through)
      | none => .error .missing
  | _ => .error .notDirectory

/-- Reads the file at a path, from `root` if it starts with a slash and else from `home`. -/
def read (root home : FileTree) (path : String) : Except PathError Bytes :=
  if path = "" then .error .missing
  else if maxPath ≤ path.utf8ByteSize then .error .nameTooLong
  else
    let start := if path.startsWith "/" then [root] else [home, root]
    match (path.splitOn "/").foldlM follow start with
    | .error e => .error e
    | .ok (file contents :: _) => .ok contents
    | .ok _ => .error .isDirectory

/-- Why there is no serial line at a path. -/
def whyNoLine (root home : FileTree) (path : String) : String :=
  match read root home path with
  | .ok _ => "Not a typewriter"
  | .error e => e.name

end FileTree

end Acquisition.CommandLine
