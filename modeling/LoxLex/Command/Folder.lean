import LoxLex.Command.Failure

/-!
# A folder with one file

The smallest surroundings in which the program can be run: a folder that is empty or holds one file.
-/

namespace LoxLex

structure Folder where
  fileName : String
  content : Option (List UInt8)

def pathSteps (path : String) : List String :=
  (path.splitOn "/").filter fun step => step ≠ "" ∧ step ≠ "."

/-- The most bytes that a path and one of its steps may have. -/
def pathLimit : Nat := 4095
def stepLimit : Nat := 255

/-- Reads the file at a path that starts in the folder. A path with nothing but stays in place is the folder
itself, and the file has no inside. -/
def Folder.read (f : Folder) (path : String) : Except ReadFailure (List UInt8) :=
  if path = "" then .error .notFound
  else if pathLimit < path.utf8ByteSize then .error .nameTooLong
  else
    match pathSteps path, f.content with
    | [], _ | [".."], _ => .error .isDirectory
    | step :: steps, content =>
      if stepLimit < step.utf8ByteSize then .error .nameTooLong
      else if path.startsWith "/" ∨ step ≠ f.fileName then .error .notFound
      else
        match content with
        | none => .error .notFound
        | some bytes =>
          if steps = [] ∧ !(path.endsWith "/" || path.endsWith "/.") then .ok bytes
          else .error .notDirectory

end LoxLex
