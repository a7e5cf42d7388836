import ClassDiagram.Proofs.Java.Associations
import ClassDiagram.Proofs.Java.KeyFields

/-!
# Fields of foreign keys

The field that stands for a foreign key outside of the primary key has the type of the entity that
the key leads to. The inverse sides and the collections that an entity gains afterwards stand for no
foreign keys of its own, so this holds in the end as well.
-/

namespace ClassDiagram

theorem Field.foreignKey?_eq_some_iff {field : Field} {column target : String} :
    field.foreignKey? = some (column, target) ↔
      ∃ nullable, field.kind = .manyToOne column target nullable ∨
        field.kind = .oneToOne column target nullable := by
  rw [foreignKey?]
  cases field.kind <;> simp

theorem Field.isForeignKey_of_foreignKey? {field : Field} {reference : String × String}
    (hforeign : field.foreignKey? = some reference) : field.kind.isForeignKey = true := by
  rw [FieldKind.isForeignKey, ← field.map_fst_foreignKey?, hforeign]
  rfl

theorem Field.isOwn_of_foreignKey? {field : Field} {column target : String}
    (hforeign : field.foreignKey? = some (column, target)) : field.kind.isOwn = true := by
  obtain ⟨nullable, hkind | hkind⟩ := Field.foreignKey?_eq_some_iff.1 hforeign <;>
    rw [hkind] <;>
    rfl

/-- A foreign key has the type of the entity that it leads to. -/
def Field.HasTargetType (field : Field) : Prop :=
  ∀ column target, field.foreignKey? = some (column, target) → field.javaType = typeName target

theorem Field.hasTargetType_of_foreignKey?_eq_none {field : Field}
    (hnone : field.foreignKey? = none) : field.HasTargetType := by
  intro column target hforeign
  cases hnone.symm.trans hforeign

/-! ## Fields of the own columns -/

namespace FieldDraft

variable {draft : FieldDraft}

theorem hasTargetType_add (htypes : ∀ field ∈ draft.fields, field.HasTargetType)
    (candidates : List String) {javaType : String} {kind : FieldKind}
    (hnew : ∀ name, Field.HasTargetType { name, javaType, kind }) :
    ∀ field ∈ (draft.add candidates javaType kind).fields, field.HasTargetType := by
  intro field hfield
  rcases List.mem_append.1 hfield with hold | hlast
  · exact htypes field hold
  · exact List.mem_singleton.1 hlast ▸ hnew _

theorem AddsColumn.hasTargetType {later : FieldDraft} {column : Column}
    (hadds : draft.AddsColumn column later)
    (htypes : ∀ field ∈ draft.fields, field.HasTargetType) :
    ∀ field ∈ later.fields, field.HasTargetType := by
  have hother : ∀ {field : Field}, field.foreignKey? = none → field.HasTargetType :=
    Field.hasTargetType_of_foreignKey?_eq_none
  cases hadds with
  | key => exact hasTargetType_add htypes _ fun _ => hother rfl
  | joinKey =>
    exact hasTargetType_add (hasTargetType_add htypes _ fun _ => hother rfl) _ fun _ => hother rfl
  | @association reference kind hreference hkind =>
    obtain ⟨-, other, hother, rfl⟩ := Column.associationKind?_eq_some_iff.1 hkind
    obtain rfl := Option.some.inj (hreference.symm.trans hother)
    apply hasTargetType_add htypes
    intro name column target hforeign
    split at hforeign <;> cases hforeign <;> rfl
  | scalar => exact hasTargetType_add htypes _ fun _ => hother rfl

end FieldDraft

theorem hasTargetType_columnFields (schema : Schema) (drafts : Catalog FieldDraft) (table : Table) :
    ∀ field ∈ (columnFields schema drafts table).fields, field.HasTargetType := by
  have hfold : ∀ (columns : List Column) (draft : FieldDraft),
      (∀ field ∈ draft.fields, field.HasTargetType) →
      ∀ field ∈ (columns.foldl (FieldDraft.addColumn schema table) draft).fields,
        field.HasTargetType := by
    intro columns
    induction columns with
    | nil => exact fun _ htypes => htypes
    | cons column rest ih =>
      exact fun draft htypes => ih _ ((draft.addsColumn schema table column).hasTargetType htypes)
  exact hfold table.columns _ (List.forall_mem_nil _)

/-- A foreign key among the fields of a table's columns leads where one of the columns refers to. -/
theorem exists_reference_of_mem_columnFields {schema : Schema} {drafts : Catalog FieldDraft}
    {table : Table} {field : Field} (hfield : field ∈ (columnFields schema drafts table).fields)
    {column target : String} (hforeign : field.foreignKey? = some (column, target)) :
    ∃ key ∈ table.columns, ∃ reference, key.references = some reference ∧
      reference.table = target := by
  have hkind : field.kind ∈ table.columns.filterMap Column.associationKind? := by
    rw [← (columnFields_isMadeOf schema drafts table).foreignKeys]
    have hmem : field ∈ foreignKeyFields (columnFields schema drafts table).fields :=
      List.mem_filter.2 ⟨hfield, Field.isForeignKey_of_foreignKey? hforeign⟩
    exact List.mem_map_of_mem hmem
  obtain ⟨key, hkey, hassociation⟩ := List.mem_filterMap.1 hkind
  obtain ⟨-, reference, hreference, hkind⟩ := Column.associationKind?_eq_some_iff.1 hassociation
  refine ⟨key, hkey, reference, hreference, ?_⟩
  obtain ⟨nullable, hcase | hcase⟩ := Field.foreignKey?_eq_some_iff.1 hforeign <;>
    rw [hcase] at hkind <;>
    split at hkind <;>
    cases hkind <;>
    rfl

/-! ## Fields of the own columns are not gained -/

theorem GainsAssociations.hasField {before after : Catalog EntityDraft}
    (hgains : GainsAssociations before after) {table : String} {field : Field}
    (hfield : HasField after table field) (hown : field.kind.isOwn = true) :
    HasField before table field := by
  induction hgains with
  | none => exact hfield
  | @add between _ gaining candidates javaType kind hkind ih =>
    rcases hasField_or_eq_of_gain hfield with hold | ⟨-, rfl⟩
    · exact ih hold
    · cases hkind.symm.trans hown

/-- A foreign key among the fields of an entity leads where a column of its table refers to, and has
the type of the entity there. -/
theorem Schema.exists_reference_of_foreignKey? {schema : Schema} (hstored : schema.StoredByName)
    {written : List String} {name : String} {entity : Entity}
    (hfind : (schema.entities written).find? name = some entity) {field : Field}
    (hfield : field ∈ entity.fields) {column target : String}
    (hforeign : field.foreignKey? = some (column, target)) :
    field.javaType = typeName target ∧ ∃ table, schema.table? name = some table ∧
      ∃ key ∈ table.columns, ∃ reference, key.references = some reference ∧
        reference.table = target := by
  obtain ⟨drafts, hgains, hentities⟩ := schema.exists_gainsAssociations written
  rw [hentities, Catalog.find?_map, Option.map_eq_some_iff] at hfind
  obtain ⟨later, hlater, rfl⟩ := hfind
  obtain ⟨draft, hdraft, hmem⟩ : HasField (schema.ownEntities schema.ownFields.drafts) name field :=
    hgains.hasField ⟨later, hlater, hfield⟩ (Field.isOwn_of_foreignKey? hforeign)
  obtain ⟨table, drafts, htable, hfields⟩ := exists_columnFields_of_find? hstored hdraft
  rw [hfields] at hmem
  exact ⟨hasTargetType_columnFields schema drafts table field hmem column target hforeign,
    table, htable, exists_reference_of_mem_columnFields hmem hforeign⟩

theorem Schema.KeepsRules.foreignKey? {schema : Schema} (hrules : schema.KeepsRules)
    {written : List String} {name : String} {entity : Entity}
    (hfind : (schema.entities written).find? name = some entity) {field : Field}
    (hfield : field ∈ entity.fields) {column target : String}
    (hforeign : field.foreignKey? = some (column, target)) :
    field.javaType = typeName target ∧ target ∈ schema.tables.names := by
  obtain ⟨htype, table, htable, key, hkey, reference, hreference, rfl⟩ :=
    exists_reference_of_foreignKey? hrules.storedByName hfind hfield hforeign
  obtain ⟨other, hother, -⟩ := (hrules.tables name table htable).references key hkey _ hreference
  exact ⟨htype, Catalog.mem_names_of_find? hother⟩

end ClassDiagram
