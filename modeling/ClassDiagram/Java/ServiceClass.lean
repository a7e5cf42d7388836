import ClassDiagram.Java.MapperClass
import ClassDiagram.Java.SignatureType
import ClassDiagram.Java.RepositoryInterface

/-!
# Services

A service lists, finds, creates, changes and deletes the entities of one class, and has a stub for
every method that the class declares, unless the method is named like one of these operations.
-/

namespace ClassDiagram

open Text

def crudOperations : List String :=
  ["findAll", "findById", "create", "update", "delete"]

def Method.isShadowing (method : Method) : Bool :=
  crudOperations.contains method.name

/-- A stub with its imports. -/
structure MethodStub where
  lines : List String
  imports : List String

def Backend.methodStub (backend : Backend) (typeName : String) (method : Method) : MethodStub :=
  let result := match method.returnType with
    | some token => backend.signatureType token.toList
    | none => { text := "void", imports := [] }
  let parameters := method.parameters.map fun parameter =>
    (parameter.name, backend.signatureType parameter.typeToken.toList)
  let parameterTexts := parameters.map fun parameter => parameter.2.text ++ " " ++ parameter.1
  let parameterText := String.intercalate ", " parameterTexts
  { lines :=
      "" :: block s!"public {result.text} {method.name}({parameterText})"
        [s!"throw new UnsupportedOperationException("
          ++ s!"\"{typeName}.{method.name} is not implemented\");"]
    imports := result.imports ++ parameters.flatMap fun parameter => parameter.2.imports }

/-- A repository that a service uses: its type and the field that holds it. -/
structure RepositoryUse where
  typeName : String
  field : String
  deriving DecidableEq, Repr

def repositoryOf (typeName : String) : RepositoryUse :=
  { typeName := repositoryType typeName, field := fieldName typeName ++ "Repository" }

/-- The references that no mapper can make a stub for. -/
def Backend.lookups (backend : Backend) (entity : Entity) : List TransferField :=
  (backend.transferFields entity).filter fun field =>
    field.reference.any fun reference => !reference.instantiable

/-- Adds a repository unless there is one of its type. -/
def addRepository (uses : List RepositoryUse) (use : RepositoryUse) : List RepositoryUse :=
  if uses.any fun other => other.typeName == use.typeName then uses else uses ++ [use]

/-- The repository of the entity itself and those of the references to be looked up. -/
def Backend.repositories (backend : Backend) (entity : Entity) : List RepositoryUse :=
  let references := (backend.lookups entity).filterMap TransferField.reference
  (references.map fun reference => repositoryOf reference.targetType).foldl addRepository
    [repositoryOf entity.typeName]

/-- The lines that set an association to what its key leads to. -/
def lookupLines (field : TransferField) : List String :=
  match field.reference with
  | none => []
  | some reference =>
    let value := "dto." ++ Property.getter field.name ++ "()"
    let repository := (repositoryOf reference.targetType).field
    block s!"if ({value} != null)"
      [s!"entity.{Property.setter reference.field}({repository}.getReferenceById({value}));"]

/-- The key of an entity as a service sees it. -/
structure ServiceKey where
  name : String
  javaType : String
  generated : Bool
  deriving DecidableEq, Repr

def Field.serviceKey (field : Field) : ServiceKey :=
  { name := field.name
    javaType := field.javaType
    generated := match field.kind with
      | .key _ generated => generated
      | _ => false }

def Backend.serviceKey (backend : Backend) (table : String) : ServiceKey :=
  ((backend.keyField? table).map Field.serviceKey).getD
    { name := "id", javaType := "Long", generated := true }

/-- The operations on all entities of a class. -/
def crudLines (name repository mapper : String) (key : ServiceKey) (lookups : List String) :
    List String :=
  let transfer := transferType name
  let notFound :=
    s!"new ResponseStatusException(HttpStatus.NOT_FOUND, \"{name} not found: \" + id)"
  let makeEntity := s!"{name} entity = {mapper}.toEntity(dto);" :: lookups
  let saveEntity := s!"return {mapper}.toDto({repository}.save(entity));"
  let refuseUnknown := block s!"if (!{repository}.existsById(id))" [s!"throw {notFound};"]
  ["", "@Transactional(readOnly = true)"]
    ++ block s!"public List<{transfer}> findAll()"
      [s!"return {repository}.findAll().stream().map({mapper}::toDto).toList();"]
    ++ ["", "@Transactional(readOnly = true)"]
    ++ block s!"public {transfer} findById({key.javaType} id)"
      [s!"return {repository}.findById(id)",
        s!"        .map({mapper}::toDto)",
        s!"        .orElseThrow(() -> {notFound});"]
    ++ "" :: block s!"public {transfer} create({transfer} dto)"
      (makeEntity
        ++ (if key.generated then [s!"entity.{Property.setter key.name}(null);"] else [])
        ++ [saveEntity])
    ++ "" :: block s!"public {transfer} update({key.javaType} id, {transfer} dto)"
      (refuseUnknown ++ makeEntity
        ++ [s!"entity.{Property.setter key.name}(id);", saveEntity])
    ++ "" :: block s!"public void delete({key.javaType} id)"
      (refuseUnknown ++ [s!"{repository}.deleteById(id);"])

def Backend.serviceClass (backend : Backend) (entity : Entity) : String :=
  let name := entity.typeName
  let mapperName := mapperType name
  let mapper := fieldName name ++ "Mapper"
  let repositories := backend.repositories entity
  let key := backend.serviceKey entity.table.name
  let stubs := (entity.table.methods.filter fun method => !method.isShadowing).map
    (backend.methodStub name)
  let parts := repositories.map (fun use => (use.typeName, use.field)) ++ [(mapperName, mapper)]
  let parameters := parts.map fun part => part.1 ++ " " ++ part.2
  let imports :=
    [backend.qualified "dto" (transferType name), backend.qualified "entity" name,
      backend.qualified "mapper" mapperName]
      ++ (repositories.map fun use => backend.qualified "repository" use.typeName)
      ++ ["org.springframework.http.HttpStatus", "org.springframework.stereotype.Service",
        "org.springframework.transaction.annotation.Transactional",
        "org.springframework.web.server.ResponseStatusException", "java.util.List"]
      ++ backend.importsOf key.javaType
      ++ stubs.flatMap MethodStub.imports
  let body :=
    [""]
      ++ (parts.map fun part => s!"private final {part.1} {part.2};")
      ++ "" :: block (s!"public {name}Service(" ++ String.intercalate ", " parameters ++ ")")
        (parts.map fun part => s!"this.{part.2} = {part.2};")
      ++ crudLines name (repositoryOf name).field mapper key
        ((backend.lookups entity).flatMap lookupLines)
      ++ stubs.flatMap MethodStub.lines
  sourceFile (backend.project.package "service") imports
    ("@Service" :: "@Transactional" :: block s!"public class {name}Service" body)

end ClassDiagram
