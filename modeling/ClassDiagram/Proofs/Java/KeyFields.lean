import ClassDiagram.Proofs.Java.OwnFields

/-!
# Key fields of entities

The key fields of an entity are those of the key columns of its table, in their order and with
their Java types. The inverse sides and the collections that an entity gets afterwards are no keys.
-/

namespace ClassDiagram

/-- The Java types of the keys among fields. -/
def keyTypes (fields : List Field) : List String :=
  (fields.filter Field.isKey).map Field.javaType

theorem Field.isOwn_of_isKey {field : Field} (hkey : field.isKey = true) :
    field.kind.isOwn = true := by
  rw [isKey] at hkey
  split at hkey
  · rename_i hkind
    rw [hkind]
    rfl
  · cases hkey

/-! ## Fields of the own columns -/

namespace FieldDraft

theorem keyTypes_add_key (draft : FieldDraft) (candidates : List String) (javaType column : String)
    (generated : Bool) :
    keyTypes (draft.add candidates javaType (.key column generated)).fields =
      keyTypes draft.fields ++ [javaType] := by
  rw [add, keyTypes, List.filter_append, List.filter_cons_of_pos rfl, List.map_append]
  rfl

theorem keyTypes_add_plain (draft : FieldDraft) (candidates : List String) (javaType : String)
    {kind : FieldKind} (hkind : ∀ name javaType, Field.isKey { name, javaType, kind } = false) :
    keyTypes (draft.add candidates javaType kind).fields = keyTypes draft.fields := by
  rw [add, keyTypes, List.filter_append, List.filter_cons_of_neg (by simp [hkind]),
    List.filter_nil, List.append_nil, keyTypes]

/-- A column gives one key field if it is a key column, and none otherwise. -/
theorem AddsColumn.keyTypes_eq {draft later : FieldDraft} {column : Column}
    (hadds : draft.AddsColumn column later) :
    keyTypes later.fields =
      keyTypes draft.fields ++ if column.primaryKey then [column.javaType] else [] := by
  cases hadds with
  | key hkey =>
    rw [hkey, if_pos rfl]
    exact keyTypes_add_key ..
  | joinKey hkey =>
    rw [hkey, if_pos rfl, keyTypes_add_plain _ _ _ fun _ _ => rfl]
    exact keyTypes_add_key ..
  | @association reference kind _ hkind =>
    obtain ⟨hkey, -, -, rfl⟩ := Column.associationKind?_eq_some_iff.1 hkind
    rw [hkey, if_neg Bool.false_ne_true, List.append_nil]
    cases column.unique <;> exact keyTypes_add_plain _ _ _ fun _ _ => rfl
  | scalar hkey =>
    rw [hkey, if_neg Bool.false_ne_true, List.append_nil]
    exact keyTypes_add_plain _ _ _ fun _ _ => rfl

theorem keyTypes_foldl_addColumn (schema : Schema) (table : Table) (columns : List Column)
    (draft : FieldDraft) :
    keyTypes (columns.foldl (addColumn schema table) draft).fields =
      keyTypes draft.fields ++ (columns.filter Column.primaryKey).map Column.javaType := by
  induction columns generalizing draft with
  | nil => simp
  | cons column rest ih =>
    rw [List.foldl_cons, ih, (draft.addsColumn schema table column).keyTypes_eq, List.append_assoc]
    cases hkey : column.primaryKey <;> simp [hkey]

end FieldDraft

theorem keyTypes_columnFields (schema : Schema) (drafts : Catalog FieldDraft) (table : Table) :
    keyTypes (columnFields schema drafts table).fields = table.keyColumns.map Column.javaType := by
  rw [columnFields, FieldDraft.keyTypes_foldl_addColumn]
  rfl

/-! ## Associations that are gained -/

/-- Entities have gained inverse sides of foreign keys and collections through join tables. -/
inductive GainsAssociations (before : Catalog EntityDraft) : Catalog EntityDraft → Prop where
  | none : GainsAssociations before before
  | add {after : Catalog EntityDraft} (hgains : GainsAssociations before after) (name : String)
      (candidates : EntityDraft → List String) (javaType : String) {kind : FieldKind}
      (hkind : kind.isOwn = false) : GainsAssociations before
        (after.modify name fun draft => draft.add (candidates draft) javaType kind)

namespace GainsAssociations

variable {before entities : Catalog EntityDraft}

theorem addInverse (hgains : GainsAssociations before entities)
    (owned : List ((String × String) × String)) (table : Table) (column : Column) :
    GainsAssociations before (addInverse owned table entities column) := by
  rw [ClassDiagram.addInverse]
  split
  · rename_i reference mappedBy _ _
    obtain ⟨candidates, javaType, heq⟩ := exists_inverseField_eq table column mappedBy
    rw [heq]
    exact hgains.add _ (fun _ => candidates) javaType (column.isOwn_inverseKind _ _)
  · exact hgains

theorem addJoin (hgains : GainsAssociations before entities) (schema : Schema)
    (written : List String) (link : Link) :
    GainsAssociations before (addJoin schema written entities link) := by
  rcases hsides : joinSides written link with ⟨owner, target⟩
  simp only [ClassDiagram.addJoin, hsides]
  split
  · exact hgains
  · split
    · exact (hgains.add owner _ _ rfl).add target _ _ rfl
    · exact hgains

theorem foldl {α : Type} {step : Catalog EntityDraft → α → Catalog EntityDraft}
    (hstep : ∀ entities item, GainsAssociations before entities →
      GainsAssociations before (step entities item))
    (items : List α) (hgains : GainsAssociations before entities) :
    GainsAssociations before (items.foldl step entities) := by
  induction items generalizing entities with
  | nil => exact hgains
  | cons item rest ih => exact ih (hstep entities item hgains)

end GainsAssociations

/-- Every entity is still there, with its table, and what it has gained stands behind the fields of
its own columns. -/
theorem GainsAssociations.exists_gained {before after : Catalog EntityDraft}
    (hgains : GainsAssociations before after) {name : String} {draft : EntityDraft}
    (hfind : before.find? name = some draft) :
    ∃ later gained, after.find? name = some later ∧ later.table = draft.table ∧
      later.fields.fields = draft.fields.fields ++ gained ∧
      ∀ field ∈ gained, field.kind.isOwn = false := by
  induction hgains with
  | none => exact ⟨draft, [], hfind, rfl, (List.append_nil _).symm, List.forall_mem_nil _⟩
  | @add after _ gaining candidates javaType kind hkind ih =>
    obtain ⟨later, gained, hlater, htable, hfields, hgained⟩ := ih
    rw [Catalog.find?_modify, hlater]
    split
    · let further : Field :=
        { name := freshAmong (candidates later) later.fields.taken, javaType, kind }
      refine ⟨later.add (candidates later) javaType kind, gained ++ [further], rfl, htable, ?_, ?_⟩
      · rw [EntityDraft.add, FieldDraft.fields_add, hfields, List.append_assoc]
      · rw [List.forall_mem_append, List.forall_mem_singleton]
        exact ⟨hgained, hkind⟩
    · exact ⟨later, gained, rfl, htable, hfields, hgained⟩

/-- What the entities of a schema have besides the fields of their own columns is gained. -/
theorem Schema.exists_gainsAssociations (schema : Schema) (written : List String) :
    ∃ drafts, GainsAssociations (schema.ownEntities schema.ownFields.drafts) drafts ∧
      schema.entities written = drafts.map EntityDraft.entity := by
  refine ⟨_, ?_, rfl⟩
  apply GainsAssociations.foldl fun entities link hgains => hgains.addJoin schema written link
  apply GainsAssociations.foldl _ _ .none
  intro entities table hgains
  exact hgains.foldl (fun _ column hgains => hgains.addInverse _ table column) _

/-! ## Associations are no keys -/

/-- Every entity is still there, with its table and the types of its keys. -/
def KeepsKeys (before after : Catalog EntityDraft) : Prop :=
  ∀ name draft, before.find? name = some draft → ∃ later, after.find? name = some later ∧
    later.table = draft.table ∧ keyTypes later.fields.fields = keyTypes draft.fields.fields

theorem GainsAssociations.keepsKeys {before after : Catalog EntityDraft}
    (hgains : GainsAssociations before after) : KeepsKeys before after := by
  intro name draft hfind
  obtain ⟨later, gained, hlater, htable, hfields, hgained⟩ := hgains.exists_gained hfind
  have hplain : gained.filter Field.isKey = [] := by
    rw [List.filter_eq_nil_iff]
    intro field hfield hkey
    cases (Field.isOwn_of_isKey hkey).symm.trans (hgained field hfield)
  refine ⟨later, hlater, htable, ?_⟩
  rw [keyTypes, hfields, List.filter_append, hplain, List.append_nil, keyTypes]

namespace Schema

variable {schema : Schema} {name : String} {table : Table}

/-- A table has an entity, whose keys have the Java types of the key columns. -/
theorem exists_entity (hstored : schema.StoredByName) (hfind : schema.table? name = some table)
    (written : List String) :
    ∃ entity, (schema.entities written).find? name = some entity ∧ entity.table = table ∧
      keyTypes entity.fields = table.keyColumns.map Column.javaType := by
  obtain ⟨drafts, hown, -⟩ := exists_ownEntity hstored hfind
  obtain ⟨final, hgains, hentities⟩ := schema.exists_gainsAssociations written
  obtain ⟨later, hlater, htable, hkeys⟩ := hgains.keepsKeys name _ hown
  refine ⟨later.entity, ?_, htable, hkeys.trans (keyTypes_columnFields schema drafts table)⟩
  rw [hentities, Catalog.find?_map, hlater, Option.map_some]

end Schema

theorem Entity.ownKey?_eq {entity : Entity} {key : Column}
    (helement : entity.table.isJoin = false)
    (htypes : keyTypes entity.fields = entity.table.keyColumns.map Column.javaType)
    (hkey : entity.table.primaryKey? = some key) :
    ∃ field, entity.ownKey? = some field ∧ field.javaType = key.javaType := by
  have hhead : (keyTypes entity.fields).head? = some key.javaType := by
    rw [htypes, List.head?_map, Table.keyColumns, List.head?_filter, ← Table.primaryKey?, hkey,
      Option.map_some]
  rw [keyTypes, List.head?_map, List.head?_filter, Option.map_eq_some_iff] at hhead
  obtain ⟨field, hfield, htype⟩ := hhead
  exact ⟨field, by rw [ownKey?, helement, if_neg Bool.false_ne_true, hfield], htype⟩

end ClassDiagram
