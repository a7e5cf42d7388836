import ClassDiagram.CommandLine.Run

/-!
# The program

The command line on the files of the computer.
-/

namespace ClassDiagram

/-- The fault behind an error of the operating system, by its number. -/
def DiskFault.ofError (error : IO.Error) : DiskFault :=
  match error with
  | .noFileOrDirectory .. | .noSuchThing .. => .notFound
  | .alreadyExists .. => .exists
  | .inappropriateType _ 20 _ => .notDirectory
  | .inappropriateType _ 21 _ => .isDirectory
  | error => .other error.toString

def attempt {α : Type} (action : IO α) : IO (Except DiskFault α) := do
  try
    return .ok (← action)
  catch error =>
    return .error (DiskFault.ofError error)

def computerDisk : Disk IO where
  read path := attempt (IO.FS.readFile path)
  makeDirectories path := attempt (IO.FS.createDirAll path)
  write path text := attempt (IO.FS.writeFile path text)

end ClassDiagram

def main (arguments : List String) : IO UInt32 := do
  let report ← ClassDiagram.execute ClassDiagram.computerDisk arguments
  IO.print report.output
  report.messages.forM fun line => IO.eprintln line
  return report.exitCode.toUInt32
