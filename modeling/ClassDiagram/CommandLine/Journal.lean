import ClassDiagram.Java.Layer
import ClassDiagram.Schema.Derivation
import ClassDiagram.Text.Quoted

/-!
# The journal of a run

What is done is written down in a journal, one line for each event: how weighty it is, which part
of the program it comes from, what happened, and details.
-/

namespace ClassDiagram

open Text

inductive Weight where
  | debug
  | info
  | warning
  deriving DecidableEq, Repr

/-- The name of a weight, in five columns. -/
def Weight.name : Weight → String
  | .debug => "DEBUG"
  | .info => " INFO"
  | .warning => " WARN"

structure Event where
  weight : Weight
  origin : String
  what : String
  details : List (String × String)
  deriving DecidableEq, Repr

def Event.text (event : Event) : String :=
  event.weight.name ++ " " ++ event.origin ++ ": " ++ event.what
    ++ String.join (event.details.map fun detail => " " ++ detail.1 ++ "=" ++ detail.2)

def derivationOrigin : String := "umlgen::builder"

def derivationEvent (weight : Weight) (what : String) (details : List (String × String)) :
    Event :=
  { weight, origin := derivationOrigin, what, details }

/-- An optional name as the journal shows it. -/
def shownOption : Option String → String
  | none => "None"
  | some name => "Some(" ++ quoted name ++ ")"

def DerivationNote.event : DerivationNote → Event
  | .duplicateEnum name => derivationEvent .debug "duplicate enum ignored" [("name", name)]
  | .mappedElement table columns =>
    derivationEvent .debug "mapped element" [("table", table), ("columns", toString columns)]
  | .dependency relationship =>
    derivationEvent .debug "dependency has no physical shape" [("relationship", relationship)]
  | .realizationOutside relationship =>
    derivationEvent .debug "realization of a non-persistent type"
      [("relationship", relationship)]
  | .skippedRelationship relationship kind =>
    derivationEvent .warning "skipping relationship with a non-persistent endpoint"
      [("relationship", relationship), ("kind", quoted kind.name)]
  | .joinedInheritance table parent =>
    derivationEvent .debug "joined inheritance"
      [("table", table), ("parent", shownOption parent)]
  | .foreignKey relationship owner column =>
    derivationEvent .debug "foreign key"
      [("relationship", relationship), ("owner", owner), ("column", column)]
  | .joinTable relationship table =>
    derivationEvent .debug "join table" [("relationship", relationship), ("table", table)]
  | .rejected faults =>
    derivationEvent .info "logical model rejected" [("errors", toString faults)]
  | .derived tables links enums =>
    derivationEvent .info "built physical model"
      [("tables", toString tables), ("relationships", toString links),
        ("enums", toString enums)]

/-- A declared method for which no stub is written. -/
def shadowingEvent (table : Table) (method : Method) : Event :=
  { weight := .debug
    origin := "umlgen::codegen::service"
    what := "declared method shadows a CRUD operation"
    details := [("table", table.name), ("method", method.name)] }

def layerEvent (layer : Layer) (files : Nat) : Event :=
  { weight := .debug
    origin := "umlgen::codegen"
    what := "rendered layer"
    details := [("layer", quoted layer.name), ("files", toString files)] }

/-- The events of writing the sources of a backend. -/
def Backend.events (backend : Backend) : List Event :=
  (backend.served.flatMap fun entity =>
    (entity.table.methods.filter Method.isShadowing).map (shadowingEvent entity.table))
    ++ Layer.all.map fun layer => layerEvent layer (backend.sources layer).length

def bundleEvent (bundle : Bundle) (project : JavaProject) : Event :=
  { weight := .info
    origin := "umlgen::codegen"
    what := "generated code bundle"
    details :=
      [("files", toString bundle.size), ("package", quoted project.basePackage)] }

def incrementEvent (base candidate : Schema) (bundle : Bundle) : Event :=
  { weight := .info
    origin := "umlgen::diff"
    what := "incremental generation"
    details :=
      [("tables", toString (base.newTables candidate).length),
        ("enums", toString (base.newEnums candidate).length),
        ("files", toString bundle.size)] }

def schemaWrittenEvent (path : String) (dialect : Dialect) : Event :=
  { weight := .info
    origin := "umlgen"
    what := "wrote schema"
    details := [("path", path), ("dialect", quoted dialect.name)] }

def sourcesWrittenEvent (bundle : Bundle) (output : String) : Event :=
  { weight := .info
    origin := "umlgen"
    what := "wrote sources"
    details := [("files", toString bundle.size), ("output", output)] }

end ClassDiagram
