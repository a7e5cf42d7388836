import ClassDiagram.Proofs.Java.FieldNames
import ClassDiagram.Proofs.Java.NamedTables
import ClassDiagram.Proofs.Java.WrittenSides

/-!
# Legal names

The names of types and fields are legal in Java if those of the classes and attributes open with a
letter, stay letters in another case, and are no reserved words in camel case. The candidates for a
field are then names of fields in every step in which entities get fields, and numbers do no harm.
Nobody checks the names of a diagram for reserved words, however, so these go through.
-/

namespace ClassDiagram

variable {origin : String → Prop}

/-! ## Fields of the own columns -/

namespace FieldDraft

variable {draft : FieldDraft}

/-- All fields have legal names. -/
def Legal (origin : String → Prop) (draft : FieldDraft) : Prop :=
  ∀ field ∈ draft.fields, IsFieldName origin field.name

theorem Legal.add (hlegal : draft.Legal origin) {candidates : List String}
    (hcandidates : ∀ candidate ∈ candidates, IsFieldName origin candidate) (javaType : String)
    (kind : FieldKind) : (draft.add candidates javaType kind).Legal origin := by
  rw [Legal, fields_add, List.forall_mem_append, List.forall_mem_singleton]
  exact ⟨hlegal, isFieldName_freshAmong hcandidates draft.taken⟩

theorem Legal.addColumn (hlegal : draft.Legal origin) (schema : Schema) {table : Table}
    (hnames : table.NamesFields origin) {column : Column} (hcolumn : column ∈ table.columns) :
    (draft.addColumn schema table column).Legal origin := by
  have hname := List.forall_mem_singleton.2 (hnames.columns column hcolumn).isFieldName
  have hstem : ∀ reference, column.references = some reference →
      column.primaryKey = false ∨ table.isJoin = true →
        ∀ name ∈ [fieldName (associationStem column.name reference.column)],
          IsFieldName origin name :=
    fun reference hreference hplain => List.forall_mem_singleton.2
      (hnames.associations column hcolumn hplain reference hreference).isFieldName
  cases hreferences : column.references with
  | none =>
    cases hkey : column.primaryKey <;> simp only [FieldDraft.addColumn, hreferences, hkey]
    · exact hlegal.add hname _ _
    · exact hlegal.add hname _ _
  | some reference =>
    cases hkey : column.primaryKey <;> simp only [FieldDraft.addColumn, hreferences, hkey]
    · exact hlegal.add (hstem reference hreferences (.inl hkey)) _ _
    · split
      · rename_i hjoin
        exact (hlegal.add hname _ _).add (hstem reference hreferences (.inr hjoin)) _ _
      · exact hlegal.add hname _ _

end FieldDraft

theorem legal_columnFields (schema : Schema) (drafts : Catalog FieldDraft) {table : Table}
    (hnames : table.NamesFields origin) : (columnFields schema drafts table).Legal origin :=
  List.foldlRecOn table.columns _ (List.forall_mem_nil _) fun _ hlegal _ hcolumn =>
    hlegal.addColumn schema hnames hcolumn

/-! ## Associations of others -/

/-- All entities have fields with legal names. -/
def LegalFields (origin : String → Prop) (entities : Catalog EntityDraft) : Prop :=
  ∀ table draft, entities.find? table = some draft → draft.fields.Legal origin

namespace LegalFields

variable {entities : Catalog EntityDraft}

theorem gain (hlegal : LegalFields origin entities) {candidates : List String}
    (hcandidates : ∀ candidate ∈ candidates, IsFieldName origin candidate)
    (gaining javaType : String) (kind : FieldKind) :
    LegalFields origin
      (entities.modify gaining fun draft => draft.add candidates javaType kind) := by
  intro table draft hfind
  rw [Catalog.find?_modify] at hfind
  split at hfind
  · obtain ⟨known, hknown, rfl⟩ := Option.map_eq_some_iff.1 hfind
    exact (hlegal table known hknown).add hcandidates javaType kind
  · exact hlegal table draft hfind

/-- An inverse side is named by the table that owns the association, and by the association if that
is not enough. -/
theorem gainInverse (hlegal : LegalFields origin entities) {table : Table}
    (htable : IsFieldName origin (fieldName table.name)) {mappedBy : String}
    (hmappedBy : IsFieldName origin mappedBy) (column : Column) (gaining : String) :
    LegalFields origin (entities.modify gaining (inverseField table column mappedBy)) := by
  have hqualified := htable.append_by hmappedBy
  unfold inverseField
  cases column.unique with
  | true =>
    refine hlegal.gain ?_ _ _ _
    rw [List.forall_mem_cons, List.forall_mem_singleton]
    exact ⟨htable, hqualified⟩
  | false =>
    refine hlegal.gain ?_ _ _ _
    rw [List.forall_mem_cons, List.forall_mem_singleton]
    exact ⟨htable.append_list, hqualified.append_list⟩

/-- The sides of a join table are named by each other's tables. -/
theorem addJoin (hlegal : LegalFields origin entities) (schema : Schema) (written : List String)
    {link : Link} (howner : IsFieldName origin (fieldName link.owner))
    (hreferenced : IsFieldName origin (fieldName link.referenced)) :
    LegalFields origin (addJoin schema written entities link) := by
  rcases hsides : joinSides written link with ⟨owner, target⟩
  obtain ⟨howner, htarget⟩ :
      IsFieldName origin (fieldName owner) ∧ IsFieldName origin (fieldName target) := by
    rcases joinSides_cases hsides with ⟨rfl, rfl⟩ | ⟨rfl, rfl⟩
    · exact ⟨howner, hreferenced⟩
    · exact ⟨hreferenced, howner⟩
  have hcollection := List.forall_mem_singleton.2 htarget.append_list
  simp only [ClassDiagram.addJoin, hsides]
  split
  · exact hlegal
  · split
    · refine (hlegal.gain hcollection _ _ _).gain ?_ _ _ _
      rw [List.forall_mem_cons, List.forall_mem_singleton]
      exact ⟨howner.append_list,
        (howner.append_by (isFieldName_freshAmong hcollection _)).append_list⟩
    · exact hlegal

end LegalFields

namespace Schema

variable {schema : Schema}

theorem legalFields_ownEntities (hstored : schema.StoredByName)
    (hnames : schema.AllTables (Table.NamesFields origin)) :
    LegalFields origin (schema.ownEntities schema.ownFields.drafts) := by
  intro name draft hfind
  obtain ⟨table, drafts, htable, hfields⟩ := exists_columnFields_of_find? hstored hfind
  exact hfields ▸ legal_columnFields schema drafts (hnames name table htable)

/-- All fields have legal names if the tables have names that a field can be named after. -/
theorem isFieldName_of_mem_fields (hrules : schema.KeepsRules)
    (hnames : schema.AllTables (Table.NamesFields origin)) {written : List String} {name : String}
    {entity : Entity} (hfind : (schema.entities written).find? name = some entity) :
    ∀ field ∈ entity.fields, IsFieldName origin field.name := by
  have hstored := hrules.storedByName
  have hown := legalFields_ownEntities hstored hnames
  have hside : ∀ name ∈ schema.tables.names, IsFieldName origin (fieldName name) := by
    intro name hname
    obtain ⟨table, hfind⟩ := Catalog.mem_names_iff.1 hname
    exact hstored name table hfind ▸ (hnames name table hfind).name.isFieldName
  have hinverses : LegalFields origin
      (schema.tables.values.foldl (addInverses schema.ownFields.owned)
        (schema.ownEntities schema.ownFields.drafts)) := by
    refine List.foldlRecOn _ _ hown fun entities hlegal table htable => ?_
    have hfind := (mem_values_iff_table? hstored).1 htable
    refine List.foldlRecOn _ _ hlegal fun entities hlegal column hcolumn => ?_
    obtain ⟨hmem, hplain⟩ := List.mem_filter.1 hcolumn
    rw [addInverse]
    split
    · rename_i reference mappedBy hreference hlookup
      obtain ⟨owning, ⟨draft, hdraft, howning⟩, -, hnoted⟩ := hrules.exists_owning hfind hmem
        (Column.associationKind?_eq_some_iff.2
          ⟨by simpa using hplain, reference, hreference, rfl⟩)
      obtain rfl := Option.some.inj (hnoted.symm.trans hlookup)
      exact hlegal.gainInverse (hside _ (Catalog.mem_names_of_find? hfind))
        (hown _ draft hdraft owning howning) column reference.table
    · exact hlegal
  have hjoins : LegalFields origin (schema.joinLinks.foldl (addJoin schema written)
      (schema.tables.values.foldl (addInverses schema.ownFields.owned)
        (schema.ownEntities schema.ownFields.drafts))) := by
    refine List.foldlRecOn _ _ hinverses fun entities hlegal link hlink => ?_
    have hkeeps := hrules.links link (List.mem_of_mem_filter hlink)
    exact hlegal.addJoin schema written (hside _ hkeeps.owner) (hside _ hkeeps.referenced)
  rw [entities, Catalog.find?_map, Option.map_eq_some_iff] at hfind
  obtain ⟨draft, hdraft, rfl⟩ := hfind
  exact hjoins name draft hdraft

end Schema

/-! ## Fields of transfer objects -/

theorem isFieldName_renameReferences {fields : List TransferField}
    (hfields : ∀ field ∈ fields, IsFieldName origin field.name) (taken : List String) :
    ∀ field ∈ renameReferences taken fields, IsFieldName origin field.name := by
  induction fields generalizing taken with
  | nil => exact List.forall_mem_nil _
  | cons field rest ih =>
    rw [List.forall_mem_cons] at hfields
    cases hreference : field.reference with
    | none =>
      rw [renameReferences, hreference, List.forall_mem_cons]
      exact ⟨hfields.1, ih hfields.2 taken⟩
    | some reference =>
      rw [renameReferences, hreference, List.forall_mem_cons]
      exact ⟨isFieldName_freshAmong (List.forall_mem_singleton.2 hfields.1) taken,
        ih hfields.2 _⟩

namespace Backend

variable {backend : Backend}

theorem isFieldName_transferField? {field : Field} (hfield : IsFieldName origin field.name)
    {transfer : TransferField} (htransfer : backend.transferField? field = some transfer) :
    IsFieldName origin transfer.name := by
  have hflattened : ∀ target, backend.flattened? field target = some transfer →
      IsFieldName origin transfer.name := by
    intro target hflat
    obtain ⟨key, -, rfl⟩ := Option.map_eq_some_iff.1 hflat
    exact hfield.append_word (by decide)
  rw [transferField?] at htransfer
  split at htransfer
  · cases htransfer
    exact hfield
  · exact hflattened _ htransfer
  · exact hflattened _ htransfer
  · cases htransfer

theorem isFieldName_transferFields
    (hentities : ∀ name entity, backend.entity? name = some entity →
      ∀ field ∈ entity.fields, IsFieldName origin field.name) (entity : Entity) :
    ∀ field ∈ backend.transferFields entity, IsFieldName origin field.name := by
  apply isFieldName_renameReferences
  rw [List.forall_mem_append]
  constructor
  · rw [List.forall_mem_map]
    intro key hkey
    obtain ⟨root, hroot, hown⟩ := Option.bind_eq_some_iff.1 (Option.mem_toList.1 hkey)
    rw [Entity.ownKey?] at hown
    split at hown
    · cases hown
    · exact hentities _ root hroot key (List.mem_of_find?_eq_some hown)
  · intro transfer htransfer
    obtain ⟨member, hmember, hmem⟩ := List.mem_flatMap.1 htransfer
    obtain ⟨field, hfield, htransfer⟩ := List.mem_filterMap.1 hmem
    obtain ⟨name, hname⟩ : ∃ name, backend.entity? name = some member := by
      rcases List.mem_append.1 hmember with habove | hown
      · obtain ⟨ancestor, -, hancestor⟩ := List.mem_filterMap.1 habove
        exact ⟨_, hancestor⟩
      · exact ⟨_, Option.mem_toList.1 hown⟩
    exact isFieldName_transferField? (hentities name member hname field hfield) htransfer

end Backend

/-! ## Backends of a diagram -/

namespace Diagram

variable {diagram : Diagram} {schema : Schema}

/-- The name is legal, or a reserved word that a class or an attribute has in camel case. -/
def LegalUnlessGiven (diagram : Diagram) (name : String) : Prop :=
  isJavaName name.toList = true ∨ name ∈ javaReservedWords ∧ diagram.GivesName name

/-- If fields can be named after the classes and their attributes, then the types are legal in Java,
and so are the fields of entities and of transfer objects, but for the reserved words that a class
or an attribute has in camel case. -/
theorem schema_javaNames (haccepted : diagram.schema = .ok schema) (hnames : diagram.NamesFields)
    (project : JavaProject) (tables enums : List String) :
    let backend := Backend.restricted schema project tables enums
    ∀ table ∈ schema.tables.values, ∃ entity, backend.entity? table.name = some entity ∧
      entity.table = table ∧ isJavaName entity.typeName.toList = true ∧
      (∀ field ∈ entity.fields, diagram.LegalUnlessGiven field.name) ∧
      ∀ field ∈ backend.transferFields entity, diagram.LegalUnlessGiven field.name := by
  intro backend table htable
  have hrules := (sound_of_schema haccepted).rules
  have hfind := (Schema.mem_values_iff_table? hrules.storedByName).1 htable
  have hnamed := namesFields_of_schema haccepted hnames
  obtain ⟨entity, hentity, rfl, -⟩ := schema.exists_entity hrules.storedByName hfind backend.written
  have hfields : ∀ name entity, backend.entity? name = some entity →
      ∀ field ∈ entity.fields, IsFieldName diagram.GivesName field.name :=
    fun _ _ => Schema.isFieldName_of_mem_fields hrules hnamed
  refine ⟨entity, hentity, rfl, (hnamed _ _ hfind).name.isJavaName_typeName, ?_, ?_⟩
  · exact fun field hfield => (hfields _ entity hentity field hfield).isJavaName_or_reserved
  · exact fun field hfield =>
      (backend.isFieldName_transferFields hfields entity field hfield).isJavaName_or_reserved

/-- No name in the shop is a reserved word, so all names are legal. -/
theorem schema_javaNames_shop :
    let backend :=
      Backend.full shop.draft.schema { basePackage := "com.example.demo", name := "demo" }
    shop.schema = .ok shop.draft.schema ∧ shop.NamesFields ∧
      ∀ table ∈ shop.draft.schema.tables.values, ∃ entity,
        backend.entity? table.name = some entity ∧ isJavaName entity.typeName.toList = true ∧
        (∀ field ∈ entity.fields, isJavaName field.name.toList = true) ∧
        ∀ field ∈ backend.transferFields entity, isJavaName field.name.toList = true := by
  intro backend
  have hwords : ∀ element ∈ shop.storedElements,
      ∀ name ∈ element.storedName :: (shop.attributesOf element).map TypedAttribute.column,
        ((name.toList.all fun c => c.toNat < 128) = true ∧
          (name.toList.filter Text.isAlphanumeric).head?.any Text.isAlphabetic = true) ∧
          fieldName name ∉ javaReservedWords := by
    decide +kernel
  simp only [List.forall_mem_cons, List.forall_mem_map] at hwords
  have hnames : shop.NamesFields :=
    { classes := fun element helement => namesField_of_ascii (hwords element helement).1.1
      attributes := fun element helement typed htyped =>
        namesField_of_ascii ((hwords element helement).2 typed htyped).1 }
  have hfree : ∀ name, shop.LegalUnlessGiven name → isJavaName name.toList = true := by
    rintro name (hlegal | ⟨hword, element, helement, rfl | ⟨typed, htyped, rfl⟩⟩)
    · exact hlegal
    · exact absurd hword (hwords element helement).1.2
    · exact absurd hword ((hwords element helement).2 typed htyped).2
  refine ⟨shop_schema, hnames, fun table htable => ?_⟩
  obtain ⟨entity, hentity, -, htype, hfields, htransfer⟩ := schema_javaNames shop_schema hnames
    { basePackage := "com.example.demo", name := "demo" } shop.draft.schema.tables.names
    shop.draft.schema.enums.names table htable
  exact ⟨entity, hentity, htype, fun field hfield => hfree _ (hfields field hfield),
    fun field hfield => hfree _ (htransfer field hfield)⟩

/-- A class with an attribute whose name is a reserved word. -/
def novelty : Diagram where
  elements :=
    [{ id := "1"
       className := "Novelty"
       attributes := ["new: Boolean"]
       methods := []
       kind := .classKind }]
  relationships := []

/-- The attribute becomes a field whose name is not legal, in the entity and in the transfer
object. -/
theorem exists_reserved_field :
    let backend :=
      Backend.full novelty.draft.schema { basePackage := "com.example.demo", name := "demo" }
    novelty.schema = .ok novelty.draft.schema ∧ ∃ entity ∈ backend.served,
      (∃ field ∈ entity.fields, isJavaName field.name.toList = false) ∧
      ∃ field ∈ backend.transferFields entity, isJavaName field.name.toList = false := by
  intro backend
  obtain ⟨hfaults, hlists⟩ : novelty.draft.faults = [] ∧
      novelty.draft.schema.ListsRootsFirst := by
    decide +kernel
  refine ⟨schema_eq_ok_iff.2 ⟨hfaults, rfl⟩, ?_⟩
  simp only [backend, Backend.full, Backend.restricted, Schema.entities,
    Schema.ownFields_eq_foldl hlists]
  decide +kernel

end Diagram

end ClassDiagram
