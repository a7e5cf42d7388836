import ClassDiagram.Java.TransferObject

/-!
# Mappers

A mapper copies an entity into its transfer object and back, field by field. On the way back an
association becomes a stub that holds nothing but the key; where no stub can be made, the service
looks the target up.
-/

namespace ClassDiagram

/-- One field on the way from the entity to the transfer object. -/
inductive ReadStep where
  /-- Both have a field of one name. -/
  | copy (name : String)
  /-- The key of what an association leads to, if it leads anywhere. -/
  | readKey (name association targetKey : String)
  deriving DecidableEq, Repr

/-- One field on the way from the transfer object to the entity. -/
inductive WriteStep where
  | copy (name : String)
  | stub (name association targetType targetKey : String)
  deriving DecidableEq, Repr

def TransferField.readStep (field : TransferField) : ReadStep :=
  match field.reference with
  | none => .copy field.name
  | some reference => .readKey field.name reference.field reference.targetKey

def TransferField.writeStep? (field : TransferField) : Option WriteStep :=
  match field.reference with
  | none => some (.copy field.name)
  | some reference =>
    if reference.instantiable then
      some (.stub field.name reference.field reference.targetType reference.targetKey)
    else none

open Property in
def ReadStep.lines : ReadStep → List String
  | .copy name => [s!"dto.{setter name}(entity.{getter name}());"]
  | .readKey name association targetKey =>
    block s!"if (entity.{getter association}() != null)"
      [s!"dto.{setter name}(entity.{getter association}().{getter targetKey}());"]

open Property in
def WriteStep.lines : WriteStep → List String
  | .copy name => [s!"entity.{setter name}(dto.{getter name}());"]
  | .stub name association targetType targetKey =>
    block s!"if (dto.{getter name}() != null)"
      [s!"{targetType} {association} = new {targetType}();",
        s!"{association}.{setter targetKey}(dto.{getter name}());",
        s!"entity.{setter association}({association});"]

def WriteStep.target? : WriteStep → Option String
  | .copy _ => none
  | .stub _ _ targetType _ => some targetType

def mapperType (typeName : String) : String :=
  typeName ++ "Mapper"

def Backend.mapperClass (backend : Backend) (entity : Entity) : String :=
  let name := entity.typeName
  let transfer := transferType name
  let fields := backend.transferFields entity
  let writeSteps := fields.filterMap TransferField.writeStep?
  let toTransfer :=
    block "if (entity == null)" ["return null;"]
      ++ [s!"{transfer} dto = new {transfer}();"]
      ++ (fields.flatMap fun field => field.readStep.lines)
      ++ ["return dto;"]
  let toEntity :=
    block "if (dto == null)" ["return null;"]
      ++ [s!"{name} entity = new {name}();"]
      ++ writeSteps.flatMap WriteStep.lines
      ++ ["return entity;"]
  let imports :=
    [backend.qualified "dto" transfer, backend.qualified "entity" name,
      "org.springframework.stereotype.Component"]
      ++ (writeSteps.filterMap WriteStep.target?).map (backend.qualified "entity")
  sourceFile (backend.project.package "mapper") imports
    ("@Component" :: block ("public class " ++ mapperType name)
      ("" :: block s!"public {transfer} toDto({name} entity)" toTransfer
        ++ "" :: block s!"public {name} toEntity({transfer} dto)" toEntity))

end ClassDiagram
