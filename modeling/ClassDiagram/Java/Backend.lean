import ClassDiagram.Java.Entity
import ClassDiagram.Java.Project
import ClassDiagram.Schema.Vocabulary

/-!
# Backends

A backend is a schema seen as the classes of a project: the entities of its tables, and the tables
and enumerations for which classes are written.
-/

namespace ClassDiagram

structure Backend where
  schema : Schema
  project : JavaProject
  entities : Catalog Entity
  /-- The tables for which classes are written. -/
  written : List String
  /-- The enumerations for which classes are written. -/
  enums : List EnumType

namespace Backend

/-- The backend in which classes are written for the named tables and enumerations only. -/
def restricted (schema : Schema) (project : JavaProject) (tables enums : List String) : Backend :=
  let written := schema.tables.names.filter fun name => tables.contains name
  { schema
    project
    entities := schema.entities written
    written
    enums := schema.enums.values.filter fun enumType => enums.contains enumType.name }

/-- The backend in which classes are written for everything. -/
def full (schema : Schema) (project : JavaProject) : Backend :=
  restricted schema project schema.tables.names schema.enums.names

def entity? (backend : Backend) (table : String) : Option Entity :=
  backend.entities.find? table

/-- The entities for which classes are written. -/
def writtenEntities (backend : Backend) : List Entity :=
  backend.written.filterMap backend.entity?

def served (backend : Backend) : List Entity :=
  backend.writtenEntities.filter Entity.isServed

def isEnum (backend : Backend) (javaType : String) : Bool :=
  backend.schema.enums.contains javaType

/-- The key of an entity is that of its farthest ancestor. -/
def keyField? (backend : Backend) (table : String) : Option Field :=
  let root := match (backend.schema.ancestors table).getLast? with
    | some ancestor => ancestor.name
    | none => table
  (backend.entity? root).bind Entity.ownKey?

/-- The entities along the hierarchy down to the one of a table. -/
def lineage (backend : Backend) (table : String) : List Entity :=
  (backend.schema.ancestors table).reverse.filterMap (fun ancestor =>
    backend.entity? ancestor.name) ++ (backend.entity? table).toList

/-- Where the source of a class lies. -/
def path (backend : Backend) (layer className : String) : String :=
  backend.project.sourceDirectory layer ++ "/" ++ className ++ ".java"

/-- The full name of a class. -/
def qualified (backend : Backend) (layer className : String) : String :=
  backend.project.package layer ++ "." ++ className

/-- What must be imported to use a Java type. -/
def importsOf (backend : Backend) (javaType : String) : List String :=
  match importOf? javaType with
  | some qualified => [qualified]
  | none => if backend.isEnum javaType then [backend.qualified "enums" javaType] else []

end Backend

end ClassDiagram
