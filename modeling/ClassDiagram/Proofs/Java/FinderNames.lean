import ClassDiagram.Proofs.Java.FieldNames
import ClassDiagram.Proofs.Text.CamelCase

/-!
# Names of finders

A repository has a finder for each foreign key that several entities may share, and for each part of
a composite key. The name of a finder puts the name of the field and that of the target's key side
by side. Two of them are the same exactly if one field has the name of the other with the beginning
of the other's key behind it.
-/

namespace ClassDiagram

open Text

/-- A field of this kind is a foreign key that several entities may share. -/
def FieldKind.isManyToOne : FieldKind → Bool
  | .manyToOne .. => true
  | _ => false

/-- The fields of an entity by which its repository finds entities. -/
def Entity.queriedFields (entity : Entity) : List Field :=
  if entity.table.isJoin then entity.keyFields
  else entity.fields.filter fun field => field.kind.isManyToOne

/-- What stands behind the name of a field in the name of its finder: for a foreign key that is the
key of the target. -/
def Backend.finderEnding (backend : Backend) (field : Field) : String :=
  match field.foreignKey?.bind fun reference => backend.keyField? reference.2 with
  | some key => capitalized key.name
  | none => ""

/-- The name of the finder by a field. -/
def Backend.finderName (backend : Backend) (field : Field) : String :=
  "findBy" ++ capitalized field.name ++ backend.finderEnding field

/-- Two texts put together in two ways: one of the first parts goes on as the second part begins. -/
theorem append_eq_append_iff {left right other ending : String} :
    left ++ right = other ++ ending ↔
      (∃ middle, other = left ++ middle ∧ right = middle ++ ending) ∨
        ∃ middle, left = other ++ middle ∧ ending = middle ++ right := by
  simp only [← String.toList_inj, String.toList_append, List.append_eq_append_iff]
  constructor
  · rintro (⟨middle, hmiddle⟩ | ⟨middle, hmiddle⟩)
    · exact .inl ⟨String.ofList middle, by rwa [String.toList_ofList]⟩
    · exact .inr ⟨String.ofList middle, by rwa [String.toList_ofList]⟩
  · rintro (⟨middle, hmiddle⟩ | ⟨middle, hmiddle⟩)
    · exact .inl ⟨middle.toList, hmiddle⟩
    · exact .inr ⟨middle.toList, hmiddle⟩

namespace Backend

variable (backend : Backend)

theorem finderEnding_of_isKey {field : Field} (hkey : field.isKey = true) :
    backend.finderEnding field = "" := by
  have hforeign : field.foreignKey? = none := by
    rw [Field.isKey] at hkey
    rw [Field.foreignKey?]
    split at hkey
    · rename_i hkind
      rw [hkind]
    · cases hkey
  rw [finderEnding, hforeign, Option.bind_none]

/-- The finder by a foreign key is there if the target has a key. Any other field has none. -/
theorem map_name_finder? {field : Field}
    (hkeys : ∀ column target, field.foreignKey? = some (column, target) →
      ∃ key, backend.keyField? target = some key) :
    (backend.finder? field).map Finder.name =
      if field.kind.isManyToOne then some (backend.finderName field) else none := by
  cases hkind : field.kind with
  | manyToOne column target nullable =>
    have hforeign : field.foreignKey? = some (column, target) := by
      rw [Field.foreignKey?, hkind]
    obtain ⟨key, hkey⟩ := hkeys column target hforeign
    simp only [finder?, hkind, hkey, Option.map_some, Finder.name, finderName, finderEnding,
      hforeign, Option.bind_some, capitalized_append_capitalized, String.append_assoc,
      FieldKind.isManyToOne, if_true]
  | _ => simp only [finder?, hkind, Option.map_none, FieldKind.isManyToOne, Bool.false_eq_true,
      if_false]

/-- Where all targets have keys, each field has the finder of its name. -/
theorem map_name_finders {entity : Entity}
    (hkeys : ∀ field ∈ entity.fields, ∀ column target,
      field.foreignKey? = some (column, target) → ∃ key, backend.keyField? target = some key) :
    (backend.finders entity).map Finder.name = entity.queriedFields.map backend.finderName := by
  rw [finders, Entity.queriedFields]
  cases entity.table.isJoin with
  | true =>
    rw [if_pos rfl, if_pos rfl, List.map_map]
    refine List.map_congr_left fun field hfield => ?_
    rw [finderName, finderEnding_of_isKey backend (List.mem_filter.1 hfield).2, String.append_empty]
    rfl
  | false =>
    rw [if_neg Bool.false_ne_true, if_neg Bool.false_ne_true, List.map_filterMap,
      ← List.filterMap_eq_map, List.filterMap_filter]
    exact List.filterMap_congr fun field hfield => backend.map_name_finder? (hkeys field hfield)

/-- The other field has the name of the field and the beginning of its key behind it, with only the
rest of that key left for its own. -/
def Spells (field other : Field) : Prop :=
  ∃ middle, capitalized other.name = capitalized field.name ++ middle ∧
    backend.finderEnding field = middle ++ backend.finderEnding other

/-- The finders by two fields have one name exactly if one of the fields spells the other. -/
theorem finderName_eq_iff {field other : Field} :
    backend.finderName field = backend.finderName other ↔
      backend.Spells field other ∨ backend.Spells other field := by
  rw [finderName, finderName, String.append_assoc, String.append_assoc, String.append_right_inj,
    append_eq_append_iff]
  rfl

end Backend

namespace Diagram

variable {diagram : Diagram} {schema : Schema}

/-- A foreign key of an entity leads to an entity with a key. -/
theorem exists_keyField_of_foreignKey? (haccepted : diagram.schema = .ok schema)
    (project : JavaProject) (tables enums : List String) {name : String} {entity : Entity}
    (hentity : (Backend.restricted schema project tables enums).entity? name = some entity)
    {field : Field} (hfield : field ∈ entity.fields) {column target : String}
    (hforeign : field.foreignKey? = some (column, target)) :
    ∃ key, (Backend.restricted schema project tables enums).keyField? target = some key := by
  have hsound := sound_of_schema haccepted
  obtain ⟨-, table, htable, key, hkey, reference, hreference, rfl⟩ :=
    Schema.exists_reference_of_foreignKey? (schema_storedByName haccepted) hentity hfield hforeign
  obtain ⟨other, primaryKey, hother, helement, hprimaryKey, -⟩ :=
    hsound.types name table htable key hkey reference hreference
  obtain ⟨keyField, hkeyField, -⟩ :=
    exists_keyField haccepted hother helement hprimaryKey project tables enums
  exact ⟨keyField, hkeyField⟩

/-- The source of a repository declares a finder by each key of a join table, and by each foreign
key that several entities may share, with the name of the target's key behind the field. Their names
are different unless one of the fields spells another. -/
theorem schema_finderNames (haccepted : diagram.schema = .ok schema) (project : JavaProject)
    (tables enums : List String) :
    let backend := Backend.restricted schema project tables enums
    ∀ table ∈ schema.tables.values, ∃ entity, backend.entity? table.name = some entity ∧
      entity.table = table ∧
      backend.WritesFinders entity (backend.finders entity) ∧
      (backend.finders entity).map Finder.name = entity.queriedFields.map backend.finderName ∧
      (((backend.finders entity).map Finder.name).Nodup ↔
        ∀ field ∈ entity.queriedFields, ∀ other ∈ entity.queriedFields, field ≠ other →
          ¬ backend.Spells field other) := by
  intro backend table htable
  have hstored := schema_storedByName haccepted
  have hfind := (Schema.mem_values_iff_table? hstored).1 htable
  obtain ⟨entity, hentity, rfl, -⟩ := schema.exists_entity hstored hfind backend.written
  have hnodup := (Schema.nodup_fieldNames_of_find? hstored hentity).1
  have hfinders := backend.map_name_finders fun field hfield column target =>
    exists_keyField_of_foreignKey? haccepted project tables enums hentity hfield
  have hfields : entity.fields.Nodup := hnodup.of_map _
  have hqueried : entity.queriedFields.Nodup := by
    rw [Entity.queriedFields]
    split <;> exact hfields.filter _
  refine ⟨entity, hentity, rfl, backend.writesFinders_finders entity, hfinders, ?_⟩
  rw [hfinders, List.nodup_map_iff_inj_on hqueried]
  constructor
  · intro hdifferent field hfield other hother hne hspells
    exact hne (hdifferent field hfield other hother (backend.finderName_eq_iff.2 (.inl hspells)))
  · intro hnone field hfield other hother hname
    by_contra hne
    rcases backend.finderName_eq_iff.1 hname with hspells | hspells
    · exact hnone field hfield other hother hne hspells
    · exact hnone other hother field hfield (Ne.symm hne) hspells

/-- Invoices for orders, which are lines, and for the lines of orders. Lines have this key. -/
def invoicesWith (key : String) : Diagram where
  elements :=
    [{ id := "1"
       className := "Line"
       attributes := [key]
       methods := []
       kind := .classKind },
      { id := "2"
        className := "OrderLine"
        attributes := []
        methods := []
        kind := .classKind },
      { id := "3"
        className := "Invoice"
        attributes := []
        methods := []
        kind := .classKind },
      { id := "4"
        className := "Order"
        attributes := []
        methods := []
        kind := .classKind }]
  relationships :=
    [{ id := "r1"
       sourceId := "4"
       targetId := "1"
       kind := .inheritance
       sourceCardinality := ""
       targetCardinality := "" },
      { id := "r2"
        sourceId := "3"
        targetId := "4"
        kind := .association
        sourceCardinality := "*"
        targetCardinality := "1" },
      { id := "r3"
        sourceId := "3"
        targetId := "2"
        kind := .association
        sourceCardinality := "*"
        targetCardinality := "1" }]

/-- When lines have the usual key, the invoices of an order and those of an order's line are found
by different names. -/
theorem schema_finderNames_invoices :
    let diagram := invoicesWith "id: Long"
    let backend :=
      Backend.full diagram.draft.schema { basePackage := "com.example.demo", name := "demo" }
    diagram.schema = .ok diagram.draft.schema ∧
      ∃ entity, backend.entity? "invoice" = some entity ∧
        (backend.finders entity).map Finder.name = ["findByOrderId", "findByOrderLineId"] ∧
        ∀ field ∈ entity.queriedFields, ∀ other ∈ entity.queriedFields, field ≠ other →
          ¬ backend.Spells field other := by
  intro diagram backend
  obtain ⟨hfaults, ⟨table, htable, hname⟩, hlists⟩ : diagram.draft.faults = [] ∧
      (∃ table ∈ diagram.draft.schema.tables.values, table.name = "invoice") ∧
      diagram.draft.schema.ListsRootsFirst := by
    decide +kernel
  have haccepted : diagram.schema = .ok diagram.draft.schema := schema_eq_ok_iff.2 ⟨hfaults, rfl⟩
  have hinvoice : (backend.entity? "invoice").map
      (fun entity => (backend.finders entity).map Finder.name) =
        some ["findByOrderId", "findByOrderLineId"] := by
    simp only [backend, Backend.entity?, Backend.full, Backend.restricted, Schema.entities,
      Schema.ownFields_eq_foldl hlists]
    decide +kernel
  obtain ⟨entity, hentity, -, -, -, hdifferent⟩ := schema_finderNames haccepted
    { basePackage := "com.example.demo", name := "demo" } diagram.draft.schema.tables.names
    diagram.draft.schema.enums.names table htable
  rw [hname] at hentity
  have hnames : (backend.finders entity).map Finder.name =
      ["findByOrderId", "findByOrderLineId"] := by
    rw [show backend.entity? "invoice" = some entity from hentity] at hinvoice
    exact Option.some.inj hinvoice
  refine ⟨haccepted, entity, hentity, hnames, hdifferent.1 ?_⟩
  rw [show (Backend.restricted diagram.draft.schema
    { basePackage := "com.example.demo", name := "demo" } diagram.draft.schema.tables.names
    diagram.draft.schema.enums.names).finders entity = backend.finders entity from rfl, hnames]
  decide

/-- When the key of a line names the line, the two names are the same, and so are the lines that
declare them. -/
theorem exists_finder_twice :
    let diagram := invoicesWith "lineId: Long"
    let backend :=
      Backend.full diagram.draft.schema { basePackage := "com.example.demo", name := "demo" }
    let line := "    List<Invoice> findByOrderLineId(Long orderLineId);"
    diagram.schema = .ok diagram.draft.schema ∧
      ∃ entity, backend.entity? "invoice" = some entity ∧
        (backend.finders entity).map Finder.name = ["findByOrderLineId", "findByOrderLineId"] ∧
        ¬ ((backend.finders entity).map Finder.name).Nodup ∧
        backend.repositoryInterface entity = unlines (backend.repositoryLines entity) ∧
        (backend.repositoryLines entity).filter (opensWith "    ") = [line, line] := by
  intro diagram backend line
  obtain ⟨hfaults, hlists⟩ : diagram.draft.faults = [] ∧
      diagram.draft.schema.ListsRootsFirst := by
    decide +kernel
  have hinvoice : ∃ entity ∈ backend.entity? "invoice",
      (backend.finders entity).map Finder.name = ["findByOrderLineId", "findByOrderLineId"] ∧
        ((backend.finders entity).map fun finder => finder.sourceLine entity.typeName) =
          [line, line] := by
    simp only [backend, Backend.entity?, Backend.full, Backend.restricted, Schema.entities,
      Schema.ownFields_eq_foldl hlists]
    decide +kernel
  obtain ⟨entity, hentity, hnames, hlines⟩ := hinvoice
  have hwrites := backend.writesFinders_finders entity
  refine ⟨schema_eq_ok_iff.2 ⟨hfaults, rfl⟩, entity, hentity, hnames, ?_, hwrites.source,
    hwrites.declared.trans hlines⟩
  rw [hnames]
  decide

end Diagram

end ClassDiagram
