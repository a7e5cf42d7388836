import ClassDiagram.Text.Split

/-!
# Disks

The operations on files that commands need, in any monad, and the ways in which they fail.
-/

namespace ClassDiagram

open Text

/-- The parts of a path. An empty part in front stands for a path that does not start in the
working directory. -/
def pathParts (path : String) : List String :=
  (splitEvery '/' path.toList).map String.ofList

def joinParts (place : List String) : String :=
  String.intercalate "/" place

inductive DiskFault where
  | notFound
  | exists
  | notDirectory
  | isDirectory
  | nameTooLong
  | other (text : String)
  deriving DecidableEq, Repr

def DiskFault.message : DiskFault → String
  | .notFound => "No such file or directory (os error 2)"
  | .exists => "File exists (os error 17)"
  | .notDirectory => "Not a directory (os error 20)"
  | .isDirectory => "Is a directory (os error 21)"
  | .nameTooLong => "File name too long (os error 36)"
  | .other text => text

structure Disk (m : Type → Type) where
  /-- The text of a file. -/
  read : String → m (Except DiskFault String)
  /-- Makes a directory and those above it, as far as they are missing. -/
  makeDirectories : String → m (Except DiskFault Unit)
  /-- Makes a file, or replaces its text. -/
  write : String → String → m (Except DiskFault Unit)

end ClassDiagram
