import ClassDiagram.CommandLine.Arguments
import ClassDiagram.CommandLine.Disk
import ClassDiagram.CommandLine.Journal
import ClassDiagram.Java.ProjectFiles
import ClassDiagram.Json.Diagram
import ClassDiagram.Notation.Diagram

/-!
# Runs of the command line

A command reads its models from a disk, writes what it makes to the disk or to the standard output,
and keeps a journal. It stops at the first failure; what has been written by then stays.
-/

namespace ClassDiagram

open Text

inductive RunFault where
  | unreadable (path : String) (fault : DiskFault)
  | unwritable (path : String) (fault : DiskFault)
  | noDirectory (fault : DiskFault)
  | badNotation (fault : Notation.NotationFault)
  | badJson (fault : Json.JsonFault)
  | badModel (faults : List ModelFault)
  | badSchema (faults : List ModelFault)
  | badProject (fault : ProjectFault)
  | badType (fault : TypeFault)
  deriving DecidableEq, Repr

def jsonFaultMessage : Json.JsonFault → String
  | .text .endOfText => "the JSON text ends too early"
  | .text .malformed => "the text is not JSON"
  | .shape fault => fault.message

def RunFault.message : RunFault → String
  | .unreadable path fault => s!"failed to read {path}: " ++ fault.message
  | .unwritable path fault => s!"failed to write {path}: " ++ fault.message
  | .noDirectory fault => fault.message
  | .badNotation fault => fault.message
  | .badJson fault => jsonFaultMessage fault
  | .badModel faults => faultReport faults
  | .badSchema faults => invalidModelReport faults
  | .badProject fault => fault.message
  | .badType fault => fault.message

abbrev Run (m : Type → Type) := ExceptT RunFault (StateT (List Event) m)

/-- Models in files with this extension are written in JSON, all others in the notation. -/
def isJsonPath (path : String) : Bool :=
  match splitLast '.' ((pathParts path).getLastD "").toList with
  | some (stem, extension) => !stem.isEmpty && String.ofList extension == "json"
  | none => false

namespace Run

variable {m : Type → Type} [Monad m]

def record (events : List Event) : Run m Unit :=
  modify fun journal => journal ++ events

/-- The result, or the failure that a fault is. -/
def check {ε α : Type} (failure : ε → RunFault) : Except ε α → Run m α
  | .ok value => pure value
  | .error fault => throw (failure fault)

/-- Asks the disk for something. -/
def ask {α : Type} (failure : DiskFault → RunFault) (question : m (Except DiskFault α)) :
    Run m α := do
  check failure (← liftM question)

def readDiagram (disk : Disk m) (path : String) : Run m Diagram := do
  let text ← ask (.unreadable path) (disk.read path)
  if isJsonPath path then check .badJson (Diagram.ofJson text)
  else check .badNotation (Diagram.ofNotation text)

def loadSchema (disk : Disk m) (path : String) : Run m Schema := do
  let derivation := (← readDiagram disk path).derive
  record (derivation.notes.map DerivationNote.event)
  check .badModel derivation.outcome

def summary (path : String) (schema : Schema) : String :=
  s!"{path}: {schema.tables.size} tables, {schema.links.length} relationships, "
    ++ s!"{schema.enums.size} enums\n"

def runCheck (disk : Disk m) (input : String) : Run m String := do
  return summary input (← loadSchema disk input)

def script (disk : Disk m) (command : SqlCommand) : Run m String := do
  let schema ← loadSchema disk command.input
  match command.baseline with
  | none => check .badType (schema.script command.dialect)
  | some path =>
    let base ← loadSchema disk path
    check .badType (base.incrementScript schema command.dialect)

def runSql (disk : Disk m) (command : SqlCommand) : Run m String := do
  let script ← script disk command
  match command.output with
  | none => return script
  | some path =>
    ask (.unwritable path) (disk.write path script)
    record [schemaWrittenEvent path command.dialect]
    return ""

/-- The sources of a schema, or of what it adds to an earlier one. -/
def sources (schema : Schema) (base : Option Schema) (project : JavaProject) : Run m Bundle := do
  match base with
  | none =>
    let backend := Backend.full schema project
    let bundle ← check .badSchema backend.generate
    record (backend.events ++ [bundleEvent bundle project])
    return bundle
  | some base =>
    let backend := Backend.increment base schema project
    let bundle ← check .badSchema backend.generate
    record (backend.events ++ [incrementEvent base schema bundle])
    return bundle

/-- The path of a file below a directory. -/
def pathBelow (directory path : String) : String :=
  if directory.toList.getLast? = some '/' then directory ++ path else directory ++ "/" ++ path

def writeFile (disk : Disk m) (directory : String) (file : String × String) : Run m Unit := do
  let path := pathBelow directory file.1
  match splitLast '/' path.toList with
  | some (parent, _) =>
    ask .noDirectory (disk.makeDirectories (String.ofList parent))
  | none => pure ()
  ask (.unwritable path) (disk.write path file.2)

def runGenerate (disk : Disk m) (command : GenerateCommand) : Run m String := do
  let project ← check .badProject
    (JavaProject.ofOptions command.basePackage command.projectName)
  let schema ← loadSchema disk command.input
  let base ← command.baseline.mapM (loadSchema disk)
  let bundle ← sources schema base project
  let scaffold ←
    if command.withScaffold then check .badType (schema.projectFiles project command.dialect)
    else pure Catalog.empty
  let bundle := bundle.extend scaffold
  bundle.files.forM (writeFile disk command.output)
  record [sourcesWrittenEvent bundle command.output]
  return ""

/-- Runs a command and gives what it says on the standard output. -/
def command (disk : Disk m) : Command → Run m String
  | .check input => runCheck disk input
  | .sql command => runSql disk command
  | .generate command => runGenerate disk command

end Run

inductive Ending where
  | success
  | failure (fault : RunFault)
  | misuse (fault : UsageFault)
  deriving DecidableEq, Repr

structure Report where
  output : String
  journal : List Event
  ending : Ending

def Report.exitCode (report : Report) : Nat :=
  match report.ending with
  | .success => 0
  | .failure _ => 1
  | .misuse _ => 2

/-- What is said about an ending that is no success. -/
def Ending.message? : Ending → Option String
  | .success => none
  | .failure fault => some ("Error: " ++ fault.message)
  | .misuse fault => some ("error: " ++ fault.message)

/-- What is written beside the output: the journal and the message about the ending. -/
def Report.messages (report : Report) : List String :=
  report.journal.map Event.text ++ report.ending.message?.toList

def versionText : String := "umlgen 0.1.0\n"

def helpText : String :=
  "Derive SQL schemas and Spring Boot backends from class diagrams\n\n"
    ++ "umlgen [-v] check INPUT\n"
    ++ "umlgen [-v] sql INPUT [-b BASELINE] [-d DIALECT] [-o FILE]\n"
    ++ "umlgen [-v] generate INPUT [-b BASELINE] [-p PACKAGE] [--project NAME]\n"
    ++ "       [--scaffold] [-d DIALECT] [-o DIRECTORY]\n"

/-- Debug events are kept only if they are asked for. -/
def keptEvents (verbose : Bool) (events : List Event) : List Event :=
  events.filter fun event => verbose || event.weight != .debug

/-- Runs what the arguments ask for. -/
def execute {m : Type → Type} [Monad m] (disk : Disk m) (arguments : List String) :
    m Report := do
  match Invocation.ofArguments arguments with
  | .error .version => return { output := versionText, journal := [], ending := .success }
  | .error .help => return { output := helpText, journal := [], ending := .success }
  | .error (.misuse fault) => return { output := "", journal := [], ending := .misuse fault }
  | .ok invocation =>
    let (outcome, events) ← ((Run.command disk invocation.command).run).run []
    let journal := keptEvents invocation.verbose events
    match outcome with
    | .ok output => return { output, journal, ending := .success }
    | .error fault => return { output := "", journal, ending := .failure fault }

end ClassDiagram
