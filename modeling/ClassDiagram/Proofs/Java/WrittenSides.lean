import ClassDiagram.Proofs.Java.ForeignKeyFields
import ClassDiagram.Proofs.Java.Files

/-!
# Inverse sides that are written

Classes are written for some tables only. An inverse side on one of them names a field of another
class, which must then be written too: a class that was written before does not gain the field. This
is so if every table that refers to a written one is written, as it is for the tables that are new
in a later schema. An association through a join table is owned by a written side if it has one.
-/

namespace ClassDiagram

/-! ## Owners of inverse sides -/

/-- If a field of this kind is an inverse side on a table, then its owning side is there, on a
written table if this one is written. -/
def HasOwner (written : List String) (entities : Catalog EntityDraft) (table : String)
    (kind : FieldKind) : Prop :=
  ∀ owner mappedBy, kind.mapped? = some (owner, mappedBy) →
    (table ∈ written → owner ∈ written) ∧ ∃ owning, HasField entities owner owning ∧
      owning.name = mappedBy ∧ owning.inverse? owner = some (table, kind)

/-- The fields of the tables' own columns are there, and every inverse side has its owner. -/
structure Owned (written : List String) (own entities : Catalog EntityDraft) : Prop where
  kept : ∀ table field, HasField own table field → HasField entities table field
  owners : ∀ table field, HasField entities table field →
    HasOwner written entities table field.kind

namespace Owned

variable {written : List String} {own entities : Catalog EntityDraft}

/-- A field may be gained if its owner is there, should it be an inverse side. -/
theorem gain (howned : Owned written own entities) {gaining : String} {kind : FieldKind}
    (howner : HasOwner written entities gaining kind) (candidates : EntityDraft → List String)
    (javaType : String) :
    Owned written own
      (entities.modify gaining fun draft => draft.add (candidates draft) javaType kind) := by
  have hstill : ∀ table kind', HasOwner written entities table kind' →
      HasOwner written (entities.modify gaining fun draft =>
        draft.add (candidates draft) javaType kind) table kind' := by
    intro table kind' hhas owner mappedBy hmapped
    obtain ⟨hwritten, owning, hfield, hsides⟩ := hhas owner mappedBy hmapped
    exact ⟨hwritten, owning, hfield.gain, hsides⟩
  refine ⟨fun table field hfield => (howned.kept table field hfield).gain, ?_⟩
  intro table field hfield
  rcases hasField_or_eq_of_gain hfield with hold | ⟨rfl, hkind⟩
  · exact hstill table field.kind (howned.owners table field hold)
  · exact hkind ▸ hstill table kind howner

end Owned

/-- A written side of a join table owns the association. -/
theorem mem_written_of_joinSides {written : List String} {link : Link} {owner target : String}
    (hsides : joinSides written link = (owner, target)) (htarget : target ∈ written) :
    owner ∈ written := by
  rw [joinSides] at hsides
  split at hsides <;> rename_i hswaps <;> obtain ⟨rfl, rfl⟩ := Prod.mk.inj hsides
  · simp only [Bool.and_eq_true, List.contains_iff_mem] at hswaps
    exact hswaps.2
  · by_contra howner
    simp [howner, htarget] at hswaps

theorem Owned.addJoin {written : List String} {own entities : Catalog EntityDraft}
    (howned : Owned written own entities) (schema : Schema) (link : Link) :
    Owned written own (addJoin schema written entities link) := by
  rcases hsides : joinSides written link with ⟨owner, target⟩
  simp only [ClassDiagram.addJoin, hsides]
  split
  · exact howned
  · split
    · rename_i join _ _ _ joinColumn inverse draft _ hdraft
      let candidates := [fieldName target ++ "List"]
      let kind := FieldKind.manyToMany target join.name joinColumn.name inverse.name
      have howning : HasOwner written entities owner kind := fun _ _ hmapped => by cases hmapped
      apply (howned.gain howning (fun _ => candidates) (listOf (typeName target))).gain
      intro owner' mappedBy hmapped
      cases hmapped
      refine ⟨mem_written_of_joinSides hsides,
        draft.nextField candidates (listOf (typeName target)) kind, ?_, rfl, rfl⟩
      exact (hasField_modify_add hdraft _ _ _ _ _).2 (.inr ⟨rfl, rfl⟩)
    · exact howned

namespace Schema

variable {schema : Schema} {written : List String}

/-- Every table that refers to a written table is written. -/
def ReferrersWritten (schema : Schema) (written : List String) : Prop :=
  ∀ table ∈ schema.tables.values, ∀ column ∈ table.columns, ∀ reference,
    column.references = some reference → reference.table ∈ written → table.name ∈ written

/-- The field of a foreign key is noted under the column. -/
theorem KeepsRules.exists_owning (hrules : schema.KeepsRules) {table : Table}
    (hfind : schema.table? table.name = some table) {column : Column}
    (hcolumn : column ∈ table.columns) {kind : FieldKind}
    (hkind : column.associationKind? = some kind) :
    ∃ owning, HasField (schema.ownEntities schema.ownFields.drafts) table.name owning ∧
      owning.kind = kind ∧
      schema.ownFields.owned.lookup (table.name, column.name) = some owning.name := by
  obtain ⟨drafts, hown, hnoted⟩ := exists_ownEntity hrules.storedByName hfind
  have hmem : kind ∈ (foreignKeyFields (columnFields schema drafts table).fields).map
      Field.kind := by
    rw [(columnFields_isMadeOf schema drafts table).foreignKeys]
    exact List.mem_filterMap.2 ⟨column, hcolumn, hkind⟩
  obtain ⟨owning, howning, rfl⟩ := List.mem_map.1 hmem
  have hfield := List.mem_of_mem_filter howning
  exact ⟨owning, ⟨_, hown, hfield⟩, rfl, hnoted (hrules.tables _ _ hfind).distinct owning hfield
    column.name (Column.foreignColumn?_of_associationKind? hkind)⟩

/-- The fields of the own columns are no inverse sides. -/
theorem owned_ownEntities (hstored : schema.StoredByName) (written : List String) :
    Owned written (schema.ownEntities schema.ownFields.drafts)
      (schema.ownEntities schema.ownFields.drafts) := by
  refine ⟨fun _ _ hfield => hfield, fun table field hfield owner mappedBy hmapped => ?_⟩
  rw [FieldKind.mapped?_eq_none_of_isOwn (isOwn_of_hasField hstored hfield)] at hmapped
  cases hmapped

theorem owned_addInverse (hrules : schema.KeepsRules)
    (hreferrers : schema.ReferrersWritten written) {table : Table}
    (hfind : schema.table? table.name = some table) {column : Column}
    (hcolumn : column ∈ table.columns) (hplain : column.primaryKey = false)
    {entities : Catalog EntityDraft}
    (howned : Owned written (schema.ownEntities schema.ownFields.drafts) entities) :
    Owned written (schema.ownEntities schema.ownFields.drafts)
      (addInverse schema.ownFields.owned table entities column) := by
  rw [addInverse]
  split
  · rename_i reference mappedBy hreference hlookup
    have hwritten := hreferrers table (Catalog.mem_values_iff.2 ⟨_, hfind⟩) column hcolumn
      reference hreference
    have hassociation := Column.associationKind?_eq_some_iff.2 ⟨hplain, reference, hreference, rfl⟩
    obtain ⟨owning, hfield, hkind, hnoted⟩ := hrules.exists_owning hfind hcolumn hassociation
    rw [← hkind] at hassociation
    obtain rfl := Option.some.inj (hnoted.symm.trans hlookup)
    obtain ⟨candidates, javaType, heq⟩ := exists_inverseField_eq table column owning.name
    rw [heq]
    apply howned.gain
    intro owner mappedBy hmapped
    rw [Column.mapped?_inverseKind] at hmapped
    cases hmapped
    exact ⟨hwritten, owning, howned.kept _ _ hfield, rfl,
      Field.inverse?_of_associationKind? hassociation hreference table.name⟩
  · exact howned

/-- Every inverse side among the entities has its owner. -/
theorem exists_owned_entities (hrules : schema.KeepsRules)
    (hreferrers : schema.ReferrersWritten written) :
    ∃ drafts, schema.entities written = drafts.map EntityDraft.entity ∧
      Owned written (schema.ownEntities schema.ownFields.drafts) drafts := by
  refine ⟨_, rfl, List.foldlRecOn schema.joinLinks (addJoin schema written) ?_
    fun entities howned link _ => howned.addJoin schema link⟩
  apply List.foldlRecOn schema.tables.values (addInverses schema.ownFields.owned)
    (owned_ownEntities hrules.storedByName written)
  intro entities howned table htable
  have hfind := (mem_values_iff_table? hrules.storedByName).1 htable
  apply List.foldlRecOn _ (addInverse schema.ownFields.owned table) howned
  intro entities howned column hcolumn
  obtain ⟨hmem, hplain⟩ := List.mem_filter.1 hcolumn
  exact owned_addInverse hrules hreferrers hfind hmem (by simpa using hplain) howned

/-- The owning side of an inverse side is written with it. -/
theorem exists_written_owner (hrules : schema.KeepsRules)
    (hreferrers : schema.ReferrersWritten written) {table : String} {entity : Entity}
    (hfind : (schema.entities written).find? table = some entity) (htable : table ∈ written)
    {field : Field} (hfield : field ∈ entity.fields) {owner mappedBy : String}
    (hmapped : field.kind.mapped? = some (owner, mappedBy)) :
    owner ∈ written ∧ ∃ ownerEntity, (schema.entities written).find? owner = some ownerEntity ∧
      ∃ owning ∈ ownerEntity.fields, owning.name = mappedBy ∧
        owning.inverse? owner = some (table, field.kind) := by
  obtain ⟨drafts, hentities, howned⟩ := exists_owned_entities hrules hreferrers
  rw [hentities, Catalog.find?_map, Option.map_eq_some_iff] at hfind
  obtain ⟨draft, hdraft, rfl⟩ := hfind
  obtain ⟨hwritten, owning, ⟨ownerDraft, howner, hmem⟩, hname, hinverse⟩ :=
    howned.owners table field ⟨draft, hdraft, hfield⟩ owner mappedBy hmapped
  refine ⟨hwritten htable, ownerDraft.entity, ?_, owning, hmem, hname, hinverse⟩
  rw [hentities, Catalog.find?_map, howner, Option.map_some]

/-! ## The new tables of a later schema -/

section Increment

variable {base candidate : Schema}

theorem mem_written_increment_iff {project : JavaProject} {name : String} :
    name ∈ (Backend.increment base candidate project).written ↔
      ∃ new ∈ base.newTables candidate, new.name = name := by
  rw [Backend.increment, Backend.restricted, List.mem_filter, List.contains_iff_mem,
    mem_names_merge_iff, List.mem_map]
  exact and_iff_right_of_imp .inr

theorem table?_merge_of_not_new {name : String}
    (hold : ∀ new ∈ base.newTables candidate, new.name ≠ name) :
    (base.merge candidate).table? name = base.table? name := by
  have hfind := Catalog.find?_foldl_insert Table.name id (base.newTables candidate) base.tables name
  rwa [List.find?_eq_none.2 fun new hnew => by
    simpa using hold new (List.mem_reverse.1 hnew), Option.map_none, Option.none_or] at hfind

/-- Old tables refer to old tables only. -/
theorem referrersWritten_increment (hbase : base.KeepsRules)
    (hmerged : (base.merge candidate).KeepsRules) (project : JavaProject) :
    (base.merge candidate).ReferrersWritten
      (Backend.increment base candidate project).written := by
  intro table htable column hcolumn reference hreference hnew
  by_contra hold
  have hfind := (mem_values_iff_table? hmerged.storedByName).1 htable
  rw [table?_merge_of_not_new fun new hmem heq =>
    hold (mem_written_increment_iff.2 ⟨new, hmem, heq⟩)] at hfind
  obtain ⟨target, htarget, -⟩ :=
    (hbase.tables table.name table hfind).references column hcolumn reference hreference
  obtain ⟨new, hmem, heq⟩ := mem_written_increment_iff.1 hnew
  exact (mem_newTables_iff.1 hmem).2 (heq ▸ Catalog.mem_names_of_find? htarget)

/-- An inverse side that is written for a new table names a field that owns the association, in the
class of another new table, which is written too. -/
theorem increment_ownsWritten (hbase : base.faults = [])
    (hmerged : (base.merge candidate).faults = []) (project : JavaProject) :
    let backend := Backend.increment base candidate project
    ∀ entity ∈ backend.writtenEntities, ∀ field ∈ entity.fields, ∀ owner mappedBy,
      field.kind.mapped? = some (owner, mappedBy) →
        (∃ new ∈ base.newTables candidate, new.name = owner) ∧
        ∃ ownerEntity ∈ backend.writtenEntities, backend.entity? owner = some ownerEntity ∧
          ∃ owning ∈ ownerEntity.fields, owning.name = mappedBy ∧
            owning.inverse? owner = some (entity.table.name, field.kind) := by
  intro backend entity hwritten field hfield owner mappedBy hmapped
  rw [faults_eq_nil_iff] at hbase hmerged
  obtain ⟨name, hname, hfind⟩ := List.mem_filterMap.1 hwritten
  obtain rfl : entity.table.name = name :=
    Backend.table_name_of_entity? hmerged.storedByName (List.mem_filter.1 hname).1 hfind
  obtain ⟨howner, ownerEntity, hownerEntity, howning⟩ := exists_written_owner hmerged
    (referrersWritten_increment hbase hmerged project) hfind hname hfield hmapped
  exact ⟨mem_written_increment_iff.1 howner, ownerEntity,
    List.mem_filterMap.2 ⟨owner, howner, hownerEntity⟩, hownerEntity, howning⟩

end Increment

end Schema

namespace Diagram

/-- Groups of users and their posts, each of which is in one group and may be seen in others. -/
def groups : Diagram where
  elements := (ofClassNames ["User", "Group", "Post"]).elements
  relationships :=
    [{ id := "r1"
       sourceId := "User"
       targetId := "Group"
       kind := .association
       sourceCardinality := "*"
       targetCardinality := "*" },
      { id := "r2"
        sourceId := "Post"
        targetId := "Group"
        kind := .association
        sourceCardinality := "*"
        targetCardinality := "1" },
      { id := "r3"
        sourceId := "Group"
        targetId := "Post"
        kind := .association
        sourceCardinality := "*"
        targetCardinality := "*" }]

/-- The groups take over the association that the users had owned, and both sides of the one between
groups and posts are written. -/
theorem increment_ownsWritten_groups :
    let base := (ofClassNames ["User"]).draft.schema
    let candidate := groups.draft.schema
    let backend :=
      Backend.increment base candidate { basePackage := "com.example.demo", name := "demo" }
    base.faults = [] ∧ (base.merge candidate).faults = [] ∧
      (backend.entity? "user").map (fun entity =>
        entity.fields.filterMap fun field => field.kind.mapped?) = some [("group", "userList")] ∧
      ∃ entity ∈ backend.writtenEntities, ∃ field ∈ entity.fields,
        field.kind.mapped? = some ("group", "postList2") ∧
        (∃ new ∈ base.newTables candidate, new.name = "group") ∧
        ∃ ownerEntity ∈ backend.writtenEntities, backend.entity? "group" = some ownerEntity ∧
          ∃ owning ∈ ownerEntity.fields, owning.name = "postList2" ∧
            owning.inverse? "group" = some ("post", field.kind) := by
  intro base candidate backend
  obtain ⟨hbase, hmerged, hnew, hlists⟩ : base.faults = [] ∧ (base.merge candidate).faults = [] ∧
      (∃ new ∈ base.newTables candidate, new.name = "post") ∧
      (base.merge candidate).ListsRootsFirst := by
    decide +kernel
  obtain ⟨huser, hpost⟩ :
      (backend.entity? "user").map (fun entity =>
        entity.fields.filterMap fun field => field.kind.mapped?) = some [("group", "userList")] ∧
      (backend.entity? "post").map (fun entity => (entity.table.name,
        entity.fields.filterMap fun field => field.kind.mapped?)) =
          some ("post", [("group", "postList2")]) := by
    simp only [backend, Backend.entity?, Backend.increment, Backend.restricted, Schema.entities,
      Schema.ownFields_eq_foldl hlists]
    decide +kernel
  obtain ⟨entity, hfind, hsides⟩ := Option.map_eq_some_iff.1 hpost
  obtain ⟨hname, hsides⟩ := Prod.mk.inj hsides
  obtain ⟨field, hfield, hmapped⟩ :=
    List.mem_filterMap.1 (hsides ▸ List.mem_singleton_self ("group", "postList2"))
  have hwritten : entity ∈ backend.writtenEntities :=
    List.mem_filterMap.2 ⟨"post", Schema.mem_written_increment_iff.2 hnew, hfind⟩
  have howner := Schema.increment_ownsWritten hbase hmerged
    { basePackage := "com.example.demo", name := "demo" } entity hwritten field hfield "group"
    "postList2" hmapped
  rw [hname] at howner
  exact ⟨hbase, hmerged, huser, entity, hwritten, field, hfield, hmapped, howner⟩

end Diagram

end ClassDiagram
