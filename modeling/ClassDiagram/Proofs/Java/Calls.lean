import ClassDiagram.Java.ServiceClass
import ClassDiagram.Proofs.Java.Accessors
import ClassDiagram.Proofs.Outcomes

/-!
# Calls of mappers and services

A mapper reads and writes the accessors of an entity, of its transfer object and of the targets of
its associations. A service sets the key and the associations that no mapper can make a stub for.
All these accessors are declared, with one type on both ends, and the repositories that a service
asks are fields of its own.
-/

namespace ClassDiagram

open Property

/-! ## The texts around the calls -/

/-- The text of a mapper around the lines that call accessors. -/
def mapperText (package : String) (imports : List String) (name : String)
    (reads writes : List String) : String :=
  let transfer := transferType name
  sourceFile package imports
    ("@Component" :: block ("public class " ++ mapperType name)
      ("" :: block s!"public {transfer} toDto({name} entity)"
          (block "if (entity == null)" ["return null;"]
            ++ [s!"{transfer} dto = new {transfer}();"] ++ reads ++ ["return dto;"])
        ++ "" :: block s!"public {name} toEntity({transfer} dto)"
          (block "if (dto == null)" ["return null;"]
            ++ [s!"{name} entity = new {name}();"] ++ writes ++ ["return entity;"])))

/-- The operations of a service around the lines that call accessors, which stand where an entity has
been made from a transfer object and is about to be saved. -/
def operationLines (name repository mapper keyType : String) (onCreate onUpdate : List String) :
    List String :=
  let transfer := transferType name
  let notFound :=
    s!"new ResponseStatusException(HttpStatus.NOT_FOUND, \"{name} not found: \" + id)"
  let refuseUnknown := block s!"if (!{repository}.existsById(id))" [s!"throw {notFound};"]
  let save (prepare : List String) :=
    s!"{name} entity = {mapper}.toEntity(dto);" :: prepare
      ++ [s!"return {mapper}.toDto({repository}.save(entity));"]
  ["", "@Transactional(readOnly = true)"]
    ++ block s!"public List<{transfer}> findAll()"
      [s!"return {repository}.findAll().stream().map({mapper}::toDto).toList();"]
    ++ ["", "@Transactional(readOnly = true)"]
    ++ block s!"public {transfer} findById({keyType} id)"
      [s!"return {repository}.findById(id)",
        s!"        .map({mapper}::toDto)",
        s!"        .orElseThrow(() -> {notFound});"]
    ++ "" :: block s!"public {transfer} create({transfer} dto)" (save onCreate)
    ++ "" :: block s!"public {transfer} update({keyType} id, {transfer} dto)"
      (refuseUnknown ++ save onUpdate)
    ++ "" :: block s!"public void delete({keyType} id)"
      (refuseUnknown ++ [s!"{repository}.deleteById(id);"])

/-- The text of a service around its operations and the stubs of the methods that a class
declares. -/
def serviceText (package : String) (imports : List String) (name : String)
    (parts : List (String × String)) (operations stubs : List String) : String :=
  let parameters := parts.map fun part => part.1 ++ " " ++ part.2
  sourceFile package imports
    ("@Service" :: "@Transactional" :: block s!"public class {name}Service"
      ([""] ++ (parts.map fun part => s!"private final {part.1} {part.2};")
        ++ "" :: block (s!"public {name}Service(" ++ String.intercalate ", " parameters ++ ")")
          (parts.map fun part => s!"this.{part.2} = {part.2};")
        ++ operations ++ stubs))

theorem crudLines_eq (name repository mapper : String) (key : ServiceKey)
    (lookups : List String) :
    crudLines name repository mapper key lookups =
      operationLines name repository mapper key.javaType
        (lookups ++ if key.generated then [s!"entity.{setter key.name}(null);"] else [])
        (lookups ++ [s!"entity.{setter key.name}(id);"]) := by
  simp only [crudLines, operationLines, List.append_assoc, List.cons_append, List.nil_append]

namespace Backend

/-- The repositories and the mapper that a service works with, by their types and fields. -/
def serviceParts (backend : Backend) (entity : Entity) : List (String × String) :=
  (backend.repositories entity).map (fun use => (use.typeName, use.field)) ++
    [(mapperType entity.typeName, fieldName entity.typeName ++ "Mapper")]

/-- The stubs of the methods that a class declares. -/
def stubLines (backend : Backend) (entity : Entity) : List String :=
  ((entity.table.methods.filter fun method => !method.isShadowing).map
    (backend.methodStub entity.typeName)).flatMap MethodStub.lines

theorem exists_mapperText (backend : Backend) (entity : Entity) :
    ∃ imports, backend.mapperClass entity =
      mapperText (backend.project.package "mapper") imports entity.typeName
        ((backend.transferFields entity).flatMap fun field => field.readStep.lines)
        (((backend.transferFields entity).filterMap TransferField.writeStep?).flatMap
          WriteStep.lines) :=
  ⟨_, rfl⟩

theorem exists_serviceText (backend : Backend) (entity : Entity) :
    ∃ imports, backend.serviceClass entity =
      serviceText (backend.project.package "service") imports entity.typeName
        (backend.serviceParts entity)
        (crudLines entity.typeName (repositoryOf entity.typeName).field
          (fieldName entity.typeName ++ "Mapper") (backend.serviceKey entity.table.name)
          ((backend.lookups entity).flatMap lookupLines))
        (backend.stubLines entity) :=
  ⟨_, rfl⟩

end Backend

/-! ## Repositories of a service -/

/-- The class holds an object of another class in a field. -/
def Holds (source typeName field : String) : Prop :=
  HasLines source [indent s!"private final {typeName} {field};"]

theorem repositoryType_injective : Function.Injective repositoryType := by
  intro name other heq
  rw [repositoryType, repositoryType, ← String.toList_inj, String.toList_append,
    String.toList_append, List.append_cancel_right_eq] at heq
  exact String.toList_inj.1 heq

/-- Repositories are added by their types, but a repository of the same type is the same one. -/
theorem mem_addRepository_iff {uses : List RepositoryUse}
    (huses : ∀ use ∈ uses, ∃ name, use = repositoryOf name) {name : String} {use : RepositoryUse} :
    use ∈ addRepository uses (repositoryOf name) ↔ use ∈ uses ∨ use = repositoryOf name := by
  rw [addRepository]
  split
  · rename_i hany
    obtain ⟨known, hknown, htype⟩ := List.any_eq_true.1 hany
    obtain ⟨other, rfl⟩ := huses known hknown
    obtain rfl : other = name := repositoryType_injective (eq_of_beq htype)
    exact ⟨.inl, fun h => h.elim id fun heq => heq ▸ hknown⟩
  · rw [List.mem_append, List.mem_singleton]

theorem mem_foldl_addRepository_iff (names : List String) (use : RepositoryUse) :
    ∀ uses : List RepositoryUse, (∀ use ∈ uses, ∃ name, use = repositoryOf name) →
      (use ∈ (names.map repositoryOf).foldl addRepository uses ↔
        use ∈ uses ∨ ∃ name ∈ names, use = repositoryOf name) := by
  induction names with
  | nil => simp
  | cons name rest ih =>
    intro uses huses
    have hadded : ∀ use ∈ addRepository uses (repositoryOf name),
        ∃ other, use = repositoryOf other := by
      intro use huse
      rcases (mem_addRepository_iff huses).1 huse with hold | hnew
      · exact huses use hold
      · exact ⟨name, hnew⟩
    rw [List.map_cons, List.foldl_cons, ih _ hadded, mem_addRepository_iff huses]
    simp only [List.mem_cons, exists_eq_or_imp, or_assoc]

namespace Backend

variable {backend : Backend} {entity : Entity}

/-- A service uses the repository of its own entity and those of the targets that it looks up. -/
theorem mem_repositories_iff {use : RepositoryUse} :
    use ∈ backend.repositories entity ↔ use = repositoryOf entity.typeName ∨
      ∃ reference ∈ (backend.lookups entity).filterMap TransferField.reference,
        use = repositoryOf reference.targetType := by
  have hstart : ∀ use ∈ [repositoryOf entity.typeName], ∃ name, use = repositoryOf name :=
    fun use huse => ⟨entity.typeName, List.mem_singleton.1 huse⟩
  have hfold := mem_foldl_addRepository_iff
    (((backend.lookups entity).filterMap TransferField.reference).map KeyReference.targetType)
    use _ hstart
  rw [List.map_map] at hfold
  rw [repositories, ← Function.comp_def repositoryOf KeyReference.targetType, hfold,
    List.mem_singleton]
  simp only [List.mem_map, exists_exists_and_eq_and]

theorem holds_serviceClass {typeName field : String}
    (hpart : (typeName, field) ∈ backend.serviceParts entity) :
    Holds (backend.serviceClass entity) typeName field := by
  obtain ⟨imports, htext⟩ := backend.exists_serviceText entity
  have hline : s!"private final {typeName} {field};" ∈
      (backend.serviceParts entity).map fun part => s!"private final {part.1} {part.2};" :=
    List.mem_map.2 ⟨_, hpart, rfl⟩
  rw [htext]
  apply hasLines_sourceFile
  apply List.IsInfix.trans _ (List.suffix_append ["@Service", "@Transactional"] _).isInfix
  apply indent_infix_block
  simp only [List.mem_append, hline, true_or, or_true]

theorem holds_repository {name : String}
    (hname : repositoryOf name ∈ backend.repositories entity) :
    Holds (backend.serviceClass entity) (repositoryType name) (repositoryOf name).field :=
  holds_serviceClass (List.mem_append_left _ (List.mem_map.2 ⟨_, hname, rfl⟩))

theorem holds_mapper (backend : Backend) (entity : Entity) :
    Holds (backend.serviceClass entity) (mapperType entity.typeName)
      (fieldName entity.typeName ++ "Mapper") :=
  holds_serviceClass (List.mem_append_right _ List.mem_cons_self)

/-! ## Lines with calls -/

/-- Lines that read an entity into one property of its transfer object. The lineage of the entity
declares what they get, its transfer object declares what they set, and both have one type. -/
inductive Reads (backend : Backend) (entity : Entity) : Property → List String → Prop where
  | copy (property : Property)
      (hentity : backend.LineageDeclares entity.table.name property)
      (htransfer : Declares (backend.transferClass entity) property) :
      Reads backend entity property
        [s!"dto.{setter property.name}(entity.{getter property.name}());"]
  | key (association name key target keyType : String)
      (hassociation : backend.LineageDeclares entity.table.name
        { name := association, javaType := typeName target })
      (hkey : backend.LineageDeclares target { name := key, javaType := keyType })
      (htransfer : Declares (backend.transferClass entity) { name, javaType := keyType }) :
      Reads backend entity { name, javaType := keyType }
        (block s!"if (entity.{getter association}() != null)"
          [s!"dto.{setter name}(entity.{getter association}().{getter key}());"])

/-- Lines that write one property of a transfer object into its entity. The target of an association
is a stub with nothing but its key. -/
inductive Writes (backend : Backend) (entity : Entity) : Property → List String → Prop where
  | copy (property : Property)
      (hentity : backend.LineageDeclares entity.table.name property)
      (htransfer : Declares (backend.transferClass entity) property) :
      Writes backend entity property
        [s!"entity.{setter property.name}(dto.{getter property.name}());"]
  | stub (association name key target keyType : String)
      (hassociation : backend.LineageDeclares entity.table.name
        { name := association, javaType := typeName target })
      (hkey : backend.LineageDeclares target { name := key, javaType := keyType })
      (htransfer : Declares (backend.transferClass entity) { name, javaType := keyType }) :
      Writes backend entity { name, javaType := keyType }
        (block s!"if (dto.{getter name}() != null)"
          [s!"{typeName target} {association} = new {typeName target}();",
            s!"{association}.{setter key}(dto.{getter name}());",
            s!"entity.{setter association}({association});"])

/-- The call that gets a field of a transfer object. -/
def transferCall (name : String) : String :=
  "dto." ++ getter name ++ "()"

/-- Lines that set an association to what a repository finds by one property of the transfer object.
The service holds this repository, which is that of the target and finds it by keys of this type. -/
inductive LooksUp (backend : Backend) (entity : Entity) : Property → List String → Prop where
  | reference (association name target keyType repository : String)
      (hassociation : backend.LineageDeclares entity.table.name
        { name := association, javaType := typeName target })
      (htransfer : Declares (backend.transferClass entity) { name, javaType := keyType })
      (hrepository : Holds (backend.serviceClass entity) (repositoryType (typeName target))
        repository)
      (hkeyType : backend.keyType target = keyType) :
      LooksUp backend entity { name, javaType := keyType }
        (block s!"if ({transferCall name} != null)"
          [s!"entity.{setter association}({repository}.getReferenceById({transferCall name}));"])

/-- The mapper and the service of an entity call nothing that is not declared. The mapper reads every
property of the transfer object, and writes those that the service does not look up. The service sets
the key that it is given, and it holds the repository and the mapper that it works with. -/
structure CallsDeclared (backend : Backend) (entity : Entity) : Prop where
  mapper : ∃ imports reads writes, backend.mapperClass entity =
      mapperText (backend.project.package "mapper") imports entity.typeName
        (List.flatten reads) (List.flatten writes) ∧
    List.Forall₂ (fun field lines => backend.Reads entity field.property lines)
      (backend.transferFields entity) reads ∧
    List.Forall₂ (fun field lines => backend.Writes entity field.property lines)
      ((backend.transferFields entity).filter fun field => field ∉ backend.lookups entity) writes
  service : ∃ imports repository mapper key idType lookups forget, backend.serviceClass entity =
      serviceText (backend.project.package "service") imports entity.typeName
        (backend.serviceParts entity)
        (operationLines entity.typeName repository mapper idType (List.flatten lookups ++ forget)
          (List.flatten lookups ++ [s!"entity.{setter key}(id);"]))
        (backend.stubLines entity) ∧
    Holds (backend.serviceClass entity) (repositoryType entity.typeName) repository ∧
    Holds (backend.serviceClass entity) (mapperType entity.typeName) mapper ∧
    backend.LineageDeclares entity.table.name { name := key, javaType := idType } ∧
    (forget = [] ∨ forget = [s!"entity.{setter key}(null);"]) ∧
    List.Forall₂ (fun field lines => backend.LooksUp entity field.property lines)
      (backend.lookups entity) lookups

variable {diagram : Diagram} {field : TransferField}

theorem Shows.reads (hshows : backend.Shows diagram)
    (hname : entity.table.name ∈ backend.schema.tables.names)
    (hmem : field ∈ backend.transferFields entity) :
    backend.Reads entity field.property field.readStep.lines := by
  have hexchanges := hshows.exchanges hname hmem
  have htransfer := backend.declares_transferClass hmem
  rcases field with ⟨name, javaType, _ | ⟨association, targetType, key, instantiable⟩⟩
  · exact .copy { name, javaType } hexchanges htransfer
  · obtain ⟨target, -, hassociation, hkey, -⟩ := hexchanges
    exact .key association name key target javaType hassociation hkey htransfer

theorem Shows.writes (hshows : backend.Shows diagram)
    (hname : entity.table.name ∈ backend.schema.tables.names)
    (hmem : field ∈ backend.transferFields entity) {step : WriteStep}
    (hstep : field.writeStep? = some step) :
    backend.Writes entity field.property step.lines := by
  have hexchanges := hshows.exchanges hname hmem
  have htransfer := backend.declares_transferClass hmem
  rcases field with ⟨name, javaType, _ | ⟨association, targetType, key, instantiable⟩⟩
  · cases hstep
    exact .copy { name, javaType } hexchanges htransfer
  · obtain ⟨target, rfl, hassociation, hkey, -⟩ := hexchanges
    cases instantiable with
    | true =>
      cases hstep
      exact .stub association name key target javaType hassociation hkey htransfer
    | false => cases hstep

theorem Shows.looksUp (hshows : backend.Shows diagram)
    (hname : entity.table.name ∈ backend.schema.tables.names)
    (hmem : field ∈ backend.lookups entity) :
    backend.LooksUp entity field.property (lookupLines field) := by
  obtain ⟨hfield, hlookup⟩ := List.mem_filter.1 hmem
  have hexchanges := hshows.exchanges hname hfield
  have htransfer := backend.declares_transferClass hfield
  rcases field with ⟨name, javaType, _ | ⟨association, targetType, key, instantiable⟩⟩
  · cases hlookup
  · obtain ⟨target, rfl, hassociation, -, hkeyType⟩ := hexchanges
    have hrepository : repositoryOf (typeName target) ∈ backend.repositories entity :=
      mem_repositories_iff.2 (.inr ⟨_, List.mem_filterMap.2 ⟨_, hmem, rfl⟩, rfl⟩)
    exact .reference association name target javaType _ hassociation htransfer
      (holds_repository hrepository) hkeyType

/-- A mapper writes exactly the fields that no service looks up. -/
theorem isSome_writeStep?_iff (hmem : field ∈ backend.transferFields entity) :
    field.writeStep?.isSome ↔ field ∉ backend.lookups entity := by
  rw [lookups, List.mem_filter, not_and, TransferField.writeStep?]
  rcases field with ⟨name, javaType, _ | ⟨association, targetType, key, instantiable⟩⟩
  · simp
  · cases instantiable <;> simp [hmem]

/-- The calls of the mapper and the service of an entity whose table has a key. -/
theorem Shows.callsDeclared (hshows : backend.Shows diagram)
    (hname : entity.table.name ∈ backend.schema.tables.names) {key : Field}
    (hkey : backend.keyField? entity.table.name = some key) : backend.CallsDeclared entity where
  mapper := by
    obtain ⟨imports, htext⟩ := backend.exists_mapperText entity
    rw [List.flatMap_def, List.flatMap_def] at htext
    refine ⟨imports, _, _, htext, ?_, ?_⟩
    · rw [List.forall₂_map_right_iff, List.forall₂_same]
      exact fun field hmem => hshows.reads hname hmem
    · rw [List.forall₂_map_right_iff]
      apply forall₂_filter_filterMap
      · intro field hmem
        rw [decide_eq_true_iff, isSome_writeStep?_iff hmem]
      · exact fun field hmem step hstep => hshows.writes hname hmem hstep
  service := by
    obtain ⟨imports, htext⟩ := backend.exists_serviceText entity
    have hserviceKey : backend.serviceKey entity.table.name = key.serviceKey := by
      rw [serviceKey, hkey]
      rfl
    have hrepository : repositoryOf entity.typeName ∈ backend.repositories entity :=
      mem_repositories_iff.2 (.inl rfl)
    rw [crudLines_eq, hserviceKey, List.flatMap_def] at htext
    refine ⟨imports, _, _, _, _, _, _, htext, holds_repository hrepository,
      backend.holds_mapper entity, hshows.lineageDeclares_key hname hkey, ?_, ?_⟩
    · cases key.serviceKey.generated
      · exact .inl rfl
      · exact .inr rfl
    · rw [List.forall₂_map_right_iff, List.forall₂_same]
      exact fun field hmem => hshows.looksUp hname hmem

theorem exists_mem_served_iff {schema : Schema} (hstored : schema.StoredByName)
    {project : JavaProject} {tables enums : List String} {table : Table} :
    (∃ entity ∈ (restricted schema project tables enums).served, entity.table = table) ↔
      schema.table? table.name = some table ∧ table.name ∈ tables ∧ table.isServed = true := by
  rw [← List.mem_map, map_table_served hstored, List.mem_filter, List.mem_filter,
    Schema.mem_values_iff_table? hstored, List.contains_iff_mem, and_assoc]

end Backend

namespace Diagram

variable {diagram : Diagram} {schema : Schema}

/-- What is served is a table of the schema, and its rows have a key. -/
theorem exists_keyField_of_served (haccepted : diagram.schema = .ok schema) {project : JavaProject}
    {tables enums : List String} {entity : Entity}
    (hserved : entity ∈ (Backend.restricted schema project tables enums).served) :
    schema.table? entity.table.name = some entity.table ∧
      ∃ key, (Backend.restricted schema project tables enums).keyField? entity.table.name =
        some key := by
  obtain ⟨hfind, -, hoffered⟩ :=
    (Backend.exists_mem_served_iff (schema_storedByName haccepted)).1 ⟨entity, hserved, rfl⟩
  have helement : entity.table.isJoin = false := by
    rw [Table.isServed, Bool.and_eq_true, Bool.not_eq_true'] at hoffered
    exact hoffered.1
  obtain ⟨primaryKey, hprimaryKey⟩ := (sound_of_schema haccepted).exists_primaryKey hfind
  obtain ⟨key, hkey, -⟩ :=
    exists_keyField haccepted hfind helement hprimaryKey project tables enums
  exact ⟨hfind, key, hkey⟩

end Diagram

end ClassDiagram
