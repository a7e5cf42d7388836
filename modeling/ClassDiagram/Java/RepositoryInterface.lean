import ClassDiagram.Java.Backend
import ClassDiagram.Java.Source

/-!
# Repositories

A repository finds the entities of one class. It has a finder for every foreign key that several
entities may share, and for the parts of a composite key.
-/

namespace ClassDiagram

open Text

/-- A query by the value of one property. -/
structure Finder where
  parameter : Property
  deriving DecidableEq, Repr

def Finder.name (finder : Finder) : String :=
  "findBy" ++ capitalized finder.parameter.name

def Finder.line (finder : Finder) (typeName : String) : String :=
  listOf typeName ++ " " ++ finder.name
    ++ s!"({finder.parameter.javaType} {finder.parameter.name});"

/-- The finder for the targets of a foreign key, if the target has a key. -/
def Backend.finder? (backend : Backend) (field : Field) : Option Finder :=
  match field.kind with
  | .manyToOne _ target _ =>
    (backend.keyField? target).map fun key =>
      { parameter :=
          { name := field.name ++ capitalized key.name, javaType := key.javaType } }
  | _ => none

def Backend.finders (backend : Backend) (entity : Entity) : List Finder :=
  if entity.table.isJoin then entity.keyFields.map fun key => { parameter := key.property }
  else entity.fields.filterMap backend.finder?

/-- The type of the keys by which entities of a table are found. -/
def Backend.keyType (backend : Backend) (table : String) : String :=
  ((backend.keyField? table).map Field.javaType).getD "Long"

def repositoryType (typeName : String) : String :=
  typeName ++ "Repository"

def Backend.repositoryInterface (backend : Backend) (entity : Entity) : String :=
  let name := entity.typeName
  let isJoin := entity.table.isJoin
  let keyType := backend.keyType entity.table.name
  let finders := backend.finders entity
  let imports :=
    [backend.qualified "entity" name, "org.springframework.data.jpa.repository.JpaRepository",
      "org.springframework.stereotype.Repository"]
      ++ (if isJoin then [] else backend.importsOf keyType)
      ++ (finders.flatMap fun finder => backend.importsOf finder.parameter.javaType)
      ++ if finders.isEmpty then [] else ["java.util.List"]
  let keyText := if isJoin then name ++ ".Key" else keyType
  sourceFile (backend.project.package "repository") imports
    ("@Repository" :: block
      (s!"public interface {repositoryType name} extends JpaRepository<{name}, {keyText}>")
      (finders.flatMap fun finder => ["", finder.line name]))

end ClassDiagram
