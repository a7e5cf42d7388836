import ClassDiagram.Bundle
import ClassDiagram.Java.ControllerClass
import ClassDiagram.Java.EntityClass
import ClassDiagram.Java.EnumClass
import ClassDiagram.Java.ServiceClass
import ClassDiagram.Schema.Increment
import ClassDiagram.Schema.Validity

/-!
# Layers of a backend

The sources of a backend, layer by layer, and their generation from a schema. A schema that breaks
a rule has no sources.
-/

namespace ClassDiagram

inductive Layer where
  | entity
  | enums
  | transfer
  | mapper
  | repository
  | service
  | controller
  deriving DecidableEq, Repr

namespace Layer

def all : List Layer :=
  [.entity, .enums, .transfer, .mapper, .repository, .service, .controller]

/-- The name of the package that holds the layer. -/
def name : Layer → String
  | .entity => "entity"
  | .enums => "enums"
  | .transfer => "dto"
  | .mapper => "mapper"
  | .repository => "repository"
  | .service => "service"
  | .controller => "controller"

end Layer

/-- A source for each of several entities, named after the entity. -/
def Backend.entitySources (backend : Backend) (layer : Layer) (entities : List Entity)
    (className : String → String) (source : Entity → String) : List (String × String) :=
  entities.map fun entity =>
    (backend.path layer.name (className entity.typeName), source entity)

/-- The paths and texts of the sources of one layer. -/
def Backend.sources (backend : Backend) (layer : Layer) : List (String × String) :=
  match layer with
  | .entity => backend.entitySources layer backend.writtenEntities id backend.entityClass
  | .enums =>
    backend.enums.map fun enumType =>
      (backend.path layer.name enumType.name, backend.enumClass enumType)
  | .transfer =>
    backend.entitySources layer backend.served transferType backend.transferClass
  | .mapper => backend.entitySources layer backend.served mapperType backend.mapperClass
  | .repository =>
    backend.entitySources layer backend.writtenEntities repositoryType backend.repositoryInterface
  | .service =>
    backend.entitySources layer backend.served (fun name => name ++ "Service")
      backend.serviceClass
  | .controller =>
    backend.entitySources layer backend.served (fun name => name ++ "Controller")
      backend.controllerClass

/-- The sources of all layers. -/
def Backend.bundle (backend : Backend) : Bundle :=
  Catalog.ofList (Layer.all.flatMap backend.sources)

/-- The bundle of a backend whose schema keeps the rules, or the faults of the schema. -/
def Backend.generate (backend : Backend) : Except (List ModelFault) Bundle :=
  match backend.schema.faults with
  | [] => .ok backend.bundle
  | faults => .error faults

/-- The sources for a schema. -/
def Schema.generate (schema : Schema) (project : JavaProject) :
    Except (List ModelFault) Bundle :=
  (Backend.full schema project).generate

/-- The backend of two schemas, in which classes are written for what the later one adds. -/
def Backend.increment (base candidate : Schema) (project : JavaProject) : Backend :=
  restricted (base.merge candidate) project ((base.newTables candidate).map Table.name)
    (base.newEnums candidate)

/-- The sources for what the later of two schemas adds. -/
def Schema.generateIncrement (base candidate : Schema) (project : JavaProject) :
    Except (List ModelFault) Bundle :=
  (Backend.increment base candidate project).generate

def invalidModelReport (faults : List ModelFault) : String :=
  "physical model is structurally invalid:\n" ++ faultReport faults

end ClassDiagram
