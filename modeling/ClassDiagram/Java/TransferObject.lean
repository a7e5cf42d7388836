import ClassDiagram.Java.Backend
import ClassDiagram.Java.Source

/-!
# Transfer objects

The web service exchanges flat objects. Such an object holds the key of an entity, its scalar
fields and, in place of its associations, the keys of the entities they lead to, inherited ones
included.
-/

namespace ClassDiagram

/-- An association that a transfer object holds as a key. -/
structure KeyReference where
  /-- The field of the entity with the association. -/
  field : String
  targetType : String
  targetKey : String
  /-- An object of the target can be made; abstract classes have none. -/
  instantiable : Bool
  deriving DecidableEq, Repr

structure TransferField where
  name : String
  javaType : String
  reference : Option KeyReference
  deriving DecidableEq, Repr

def TransferField.property (field : TransferField) : Property :=
  { name := field.name, javaType := field.javaType }

def plainField (field : Field) : TransferField :=
  { name := field.name, javaType := field.javaType, reference := none }

/-- The key of the target in place of an association, if the target has a key. -/
def Backend.flattened? (backend : Backend) (field : Field) (target : String) :
    Option TransferField :=
  (backend.keyField? target).map fun key =>
    { name := field.name ++ "Id"
      javaType := key.javaType
      reference := some
        { field := field.name
          targetType := typeName target
          targetKey := key.name
          instantiable := (backend.entity? target).any fun entity => !entity.table.isAbstract } }

/-- What a field of an entity contributes to the transfer object. -/
def Backend.transferField? (backend : Backend) (field : Field) : Option TransferField :=
  match field.kind with
  | .scalar .. => some (plainField field)
  | .manyToOne _ target _ | .oneToOne _ target _ => backend.flattened? field target
  | _ => none

/-- Keys in place of associations get numbers where their names are taken. -/
def renameReferences (taken : List String) : List TransferField → List TransferField
  | [] => []
  | field :: rest =>
    match field.reference with
    | none => field :: renameReferences taken rest
    | some _ =>
      let name := freshAmong [field.name] taken
      { field with name } :: renameReferences (name :: taken) rest

/-- The fields of the transfer object of an entity. Scalar fields keep their names. -/
def Backend.transferFields (backend : Backend) (entity : Entity) : List TransferField :=
  let key := (backend.keyField? entity.table.name).toList.map plainField
  let members := (backend.lineage entity.table.name).flatMap fun member =>
    member.fields.filterMap backend.transferField?
  let fields := key ++ members
  let taken := (fields.filter fun field => field.reference.isNone).map TransferField.name
  renameReferences taken fields

def transferType (typeName : String) : String :=
  typeName ++ "DTO"

def Backend.transferClass (backend : Backend) (entity : Entity) : String :=
  let properties := (backend.transferFields entity).map TransferField.property
  let name := transferType entity.typeName
  let declarations := properties.map Property.declaration
  let body :=
    [""] ++ declarations ++ (if declarations.isEmpty then [] else [""])
      ++ block s!"public {name}()" [] ++ properties.flatMap Property.accessors
  sourceFile (backend.project.package "dto")
    (properties.flatMap fun property => backend.importsOf property.javaType)
    (block s!"public class {name}" body)

end ClassDiagram
