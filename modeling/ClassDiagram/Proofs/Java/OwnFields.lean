import ClassDiagram.Java.Backend
import ClassDiagram.Proofs.Fresh
import ClassDiagram.Proofs.Hierarchy.Fitting

/-!
# Fields of the own columns

The fields that an entity gets from the columns of its own table. Their names are all different, and
the associations among them are those of the foreign keys outside of the primary key, in the order
of the columns. Which field stands for which column is noted for the inverse sides.
-/

namespace ClassDiagram

/-! ## Kinds of fields -/

/-- The column of the foreign key that a field of this kind stands for. -/
def FieldKind.foreignColumn? : FieldKind → Option String
  | .manyToOne column .. | .oneToOne column .. => some column
  | _ => none

/-- A field of this kind stands for a foreign key of the table. -/
def FieldKind.isForeignKey (kind : FieldKind) : Bool :=
  kind.foreignColumn?.isSome

/-- A field of this kind is made from a column of the table. -/
def FieldKind.isOwn : FieldKind → Bool
  | .key .. | .scalar .. | .manyToOne .. | .oneToOne .. | .joinReference .. => true
  | _ => false

/-- The foreign keys among fields. -/
def foreignKeyFields (fields : List Field) : List Field :=
  fields.filter fun field => field.kind.isForeignKey

/-- The kind of the association that a foreign key outside of the primary key stands for. -/
def Column.associationKind? (column : Column) : Option FieldKind :=
  if column.primaryKey then none
  else column.references.map fun reference =>
    if column.unique then .oneToOne column.name reference.table column.nullable
    else .manyToOne column.name reference.table column.nullable

theorem Column.associationKind?_eq_some_iff {column : Column} {kind : FieldKind} :
    column.associationKind? = some kind ↔ column.primaryKey = false ∧
      ∃ reference, column.references = some reference ∧
        (if column.unique then .oneToOne column.name reference.table column.nullable
          else .manyToOne column.name reference.table column.nullable) = kind := by
  rw [associationKind?]
  cases column.primaryKey <;> simp

theorem Column.foreignColumn?_of_associationKind? {column : Column} {kind : FieldKind}
    (hkind : column.associationKind? = some kind) : kind.foreignColumn? = some column.name := by
  obtain ⟨-, reference, -, rfl⟩ := Column.associationKind?_eq_some_iff.1 hkind
  cases column.unique <;> rfl

/-- The kind of the inverse side of a foreign key, which the field `mappedBy` of the table owns. -/
def Column.inverseKind (column : Column) (table mappedBy : String) : FieldKind :=
  if column.unique then .oneToOneInverse table mappedBy else .oneToMany table mappedBy

theorem Column.isOwn_inverseKind (column : Column) (table mappedBy : String) :
    (column.inverseKind table mappedBy).isOwn = false := by
  rw [inverseKind]
  split <;> rfl

/-- An entity gains an inverse side as it gains any other field. -/
theorem exists_inverseField_eq (table : Table) (column : Column) (mappedBy : String) :
    ∃ candidates javaType, inverseField table column mappedBy = fun draft =>
      draft.add candidates javaType (column.inverseKind table.name mappedBy) := by
  unfold inverseField Column.inverseKind
  split
  · exact ⟨_, _, rfl⟩
  · exact ⟨_, _, rfl⟩

theorem Field.map_fst_foreignKey? (field : Field) :
    field.foreignKey?.map Prod.fst = field.kind.foreignColumn? := by
  rw [foreignKey?]
  cases field.kind <;> rfl

/-! ## The fields of a draft -/

namespace FieldDraft

/-- All names are different and no longer free. -/
structure Named (draft : FieldDraft) : Prop where
  nodup : (draft.fields.map Field.name).Nodup
  taken : ∀ field ∈ draft.fields, field.name ∈ draft.taken

theorem fields_add (draft : FieldDraft) (candidates : List String) (javaType : String)
    (kind : FieldKind) :
    (draft.add candidates javaType kind).fields =
      draft.fields ++ [{ name := freshAmong candidates draft.taken, javaType, kind }] := rfl

theorem Named.add {draft : FieldDraft} (hnamed : draft.Named) (candidates : List String)
    (javaType : String) (kind : FieldKind) : (draft.add candidates javaType kind).Named where
  nodup := by
    have hnew : freshAmong candidates draft.taken ∉ draft.fields.map Field.name := by
      intro hmem
      obtain ⟨field, hfield, hname⟩ := List.mem_map.1 hmem
      exact freshAmong_not_mem candidates draft.taken (hname ▸ hnamed.taken field hfield)
    rw [fields_add, List.map_append, List.map_singleton, ← List.concat_eq_append]
    exact hnamed.nodup.concat hnew
  taken := by
    intro field hfield
    rcases List.mem_append.1 hfield with hold | hlast
    · exact List.mem_cons_of_mem _ (hnamed.taken field hold)
    · rw [List.mem_singleton.1 hlast]
      exact List.mem_cons_self

/-- What one column adds: a key, to which the association of a join table is added, an association,
or a scalar field. -/
inductive AddsColumn (draft : FieldDraft) (column : Column) : FieldDraft → Prop where
  | key (hkey : column.primaryKey = true) (candidates : List String) (generated : Bool) :
      AddsColumn draft column
        (draft.add candidates column.javaType (.key column.name generated))
  | joinKey (hkey : column.primaryKey = true) (candidates others : List String) (generated : Bool)
      (javaType target : String) :
      AddsColumn draft column
        ((draft.add candidates column.javaType (.key column.name generated)).add others javaType
          (.joinReference column.name target))
  | association {reference : ColumnReference} {kind : FieldKind}
      (hreference : column.references = some reference)
      (hkind : column.associationKind? = some kind) (candidates : List String) :
      AddsColumn draft column (draft.add candidates (typeName reference.table) kind)
  | scalar (hkey : column.primaryKey = false) (hkind : column.associationKind? = none)
      (candidates : List String) (enumerated : Bool) :
      AddsColumn draft column (draft.add candidates column.javaType
        (.scalar column.name column.nullable column.unique enumerated))

theorem addsColumn (schema : Schema) (table : Table) (draft : FieldDraft) (column : Column) :
    draft.AddsColumn column (draft.addColumn schema table column) := by
  cases hreferences : column.references with
  | none =>
    cases hkey : column.primaryKey with
    | true =>
      simp only [addColumn, hreferences, hkey]
      exact .key hkey _ _
    | false =>
      simp only [addColumn, hreferences, hkey]
      exact .scalar hkey (by simp [Column.associationKind?, hreferences]) _ _
  | some reference =>
    cases hkey : column.primaryKey with
    | true =>
      simp only [addColumn, hreferences, hkey]
      split
      · exact .joinKey hkey _ _ _ _ _
      · exact .key hkey _ _
    | false =>
      simp only [addColumn, hreferences, hkey]
      exact .association hreferences
        (Column.associationKind?_eq_some_iff.2 ⟨hkey, reference, hreferences, rfl⟩) _

/-- The draft has been made from these columns. -/
structure IsMadeOf (draft : FieldDraft) (columns : List Column) : Prop where
  named : draft.Named
  own : ∀ field ∈ draft.fields, field.kind.isOwn = true
  foreignKeys : (foreignKeyFields draft.fields).map Field.kind =
    columns.filterMap Column.associationKind?

theorem IsMadeOf.add {draft : FieldDraft} {columns further : List Column}
    (hmade : draft.IsMadeOf columns) {kind : FieldKind} (hown : kind.isOwn = true)
    (hkinds : further.filterMap Column.associationKind? =
      if kind.isForeignKey then [kind] else [])
    (candidates : List String) (javaType : String) :
    (draft.add candidates javaType kind).IsMadeOf (columns ++ further) where
  named := hmade.named.add candidates javaType kind
  own := by
    intro field hfield
    rcases List.mem_append.1 hfield with hold | hlast
    · exact hmade.own field hold
    · exact List.mem_singleton.1 hlast ▸ hown
  foreignKeys := by
    have hold := hmade.foreignKeys
    rw [foreignKeyFields] at hold ⊢
    rw [fields_add, List.filter_append, List.map_append, hold, List.filterMap_append, hkinds]
    cases hforeign : kind.isForeignKey <;> simp [hforeign]

theorem IsMadeOf.addColumn {draft later : FieldDraft} {columns : List Column}
    (hmade : draft.IsMadeOf columns) {column : Column} (hadds : draft.AddsColumn column later) :
    later.IsMadeOf (columns ++ [column]) := by
  have hplain : column.primaryKey = true → [column].filterMap Column.associationKind? = [] := by
    intro hkey
    simp [Column.associationKind?, hkey]
  cases hadds with
  | key hkey => exact hmade.add rfl (hplain hkey) _ _
  | joinKey hkey =>
    rw [← List.append_nil (columns ++ [column])]
    exact (hmade.add rfl (hplain hkey) _ _).add rfl rfl _ _
  | @association reference kind _ hkind =>
    have hforeign : kind.isForeignKey = true := by
      rw [FieldKind.isForeignKey, Column.foreignColumn?_of_associationKind? hkind]
      rfl
    refine hmade.add ?_ ?_ _ _
    · cases kind <;> first | rfl | cases hforeign
    · rw [List.filterMap_cons_some hkind, hforeign]
      rfl
  | scalar _ hkind => exact hmade.add rfl (List.filterMap_cons_none hkind) _ _

theorem IsMadeOf.foldl_addColumn (schema : Schema) (table : Table) (columns : List Column) :
    ∀ (draft : FieldDraft) (before : List Column), draft.IsMadeOf before →
      (columns.foldl (FieldDraft.addColumn schema table) draft).IsMadeOf (before ++ columns) := by
  induction columns with
  | nil => exact fun draft before hmade => (List.append_nil before).symm ▸ hmade
  | cons column rest ih =>
    intro draft before hmade
    have hrest := ih _ _ (hmade.addColumn (draft.addsColumn schema table column))
    rwa [List.append_assoc] at hrest

/-- Each foreign key outside of the primary key has its own column. -/
theorem IsMadeOf.pairwise_foreignKey? {draft : FieldDraft} {columns : List Column}
    (hmade : draft.IsMadeOf columns) (hcolumns : (columns.map Column.name).Nodup) :
    draft.fields.Pairwise fun field other =>
      ∀ reference, field.foreignKey? = some reference →
        ∀ reference', other.foreignKey? = some reference' → reference.1 ≠ reference'.1 := by
  have hkinds : (columns.filterMap Column.associationKind?).Pairwise fun kind other =>
      kind.foreignColumn? ≠ other.foreignColumn? := by
    rw [List.Nodup, List.pairwise_map] at hcolumns
    rw [List.pairwise_filterMap]
    refine hcolumns.imp fun hne kind hkind other hother heq => hne ?_
    rw [Column.foreignColumn?_of_associationKind? hkind,
      Column.foreignColumn?_of_associationKind? hother] at heq
    exact Option.some.inj heq
  rw [← hmade.foreignKeys, List.pairwise_map, foreignKeyFields, List.pairwise_filter] at hkinds
  refine hkinds.imp fun hne reference hforeign reference' hforeign' heq => ?_
  refine hne ?_ ?_ ?_
  · rw [FieldKind.isForeignKey, ← Field.map_fst_foreignKey?, hforeign]
    rfl
  · rw [FieldKind.isForeignKey, ← Field.map_fst_foreignKey?, hforeign']
    rfl
  · rw [← Field.map_fst_foreignKey?, ← Field.map_fst_foreignKey?, hforeign, hforeign',
      Option.map_some, Option.map_some, heq]

end FieldDraft

theorem columnFields_isMadeOf (schema : Schema) (drafts : Catalog FieldDraft) (table : Table) :
    (columnFields schema drafts table).IsMadeOf table.columns :=
  FieldDraft.IsMadeOf.foldl_addColumn schema table table.columns
    { fields := [], taken := inheritedFieldNames schema drafts table } []
    ⟨⟨List.nodup_nil, by simp⟩, by simp, rfl⟩

/-! ## Tables in order -/

namespace Schema

/-- No table is listed behind one with more ancestors. -/
def ListsRootsFirst (schema : Schema) : Prop :=
  schema.tables.values.Pairwise fun left right =>
    (schema.ancestors left.name).length ≤ (schema.ancestors right.name).length

instance (schema : Schema) : Decidable schema.ListsRootsFirst :=
  inferInstanceAs (Decidable (List.Pairwise _ _))

/-- Tables that are listed in order need not be sorted. -/
theorem ownFields_eq_foldl {schema : Schema} (hlists : schema.ListsRootsFirst) :
    schema.ownFields = schema.tables.values.foldl (OwnFields.addTable schema)
      { drafts := Catalog.empty, owned := [] } := by
  rw [ownFields, rootsFirst, List.mergeSort_of_pairwise (hlists.imp fun hle => decide_eq_true hle)]

end Schema

/-! ## Tables in any order -/

section Tables

variable (schema : Schema) {tables : List Table} {name : String}

theorem find?_foldl_addTable_of_not_mem (known : OwnFields)
    (hnew : name ∉ tables.map Table.name) :
    (tables.foldl (OwnFields.addTable schema) known).drafts.find? name =
      known.drafts.find? name := by
  induction tables generalizing known with
  | nil => rfl
  | cons table rest ih =>
    rw [List.map_cons, List.mem_cons, not_or] at hnew
    rw [List.foldl_cons, ih _ hnew.2, OwnFields.addTable, Catalog.find?_insert_of_ne _ hnew.1]

theorem lookup_owned_addTable_of_ne (known : OwnFields) {table : Table} {key : String × String}
    (hne : key.1 ≠ table.name) :
    (known.addTable schema table).owned.lookup key = known.owned.lookup key := by
  rw [OwnFields.addTable, List.lookup_append, List.lookup_eq_none_iff.2, Option.none_or]
  intro entry hentry
  obtain ⟨field, -, heq⟩ := List.mem_filterMap.1 (List.mem_reverse.1 hentry)
  obtain ⟨reference, -, rfl⟩ := Option.map_eq_some_iff.1 heq
  simpa using fun hkey => hne (congrArg Prod.fst hkey)

theorem lookup_owned_foldl_addTable_of_not_mem (known : OwnFields) {key : String × String}
    (hnew : key.1 ∉ tables.map Table.name) :
    (tables.foldl (OwnFields.addTable schema) known).owned.lookup key =
      known.owned.lookup key := by
  induction tables generalizing known with
  | nil => rfl
  | cons table rest ih =>
    rw [List.map_cons, List.mem_cons, not_or] at hnew
    rw [List.foldl_cons, ih _ hnew.2, lookup_owned_addTable_of_ne schema known hnew.1]

theorem lookup_owned_addTable_self (known : OwnFields) {table : Table}
    (hcolumns : table.columnNames.Nodup) {field : Field}
    (hfield : field ∈ (columnFields schema known.drafts table).fields) {column : String}
    (hforeign : field.kind.foreignColumn? = some column) :
    (known.addTable schema table).owned.lookup (table.name, column) = some field.name := by
  have hdistinct := (columnFields_isMadeOf schema known.drafts table).pairwise_foreignKey? hcolumns
  rw [← Field.map_fst_foreignKey?, Option.map_eq_some_iff] at hforeign
  obtain ⟨reference, hforeign, rfl⟩ := hforeign
  rw [OwnFields.addTable, List.lookup_append, (Catalog.lookup_eq_some_iff_mem ?_).2, Option.some_or]
  · rw [List.mem_reverse, List.mem_filterMap]
    exact ⟨field, hfield, by rw [hforeign, Option.map_some]⟩
  · rw [((List.reverse_perm _).map _).nodup_iff, List.Nodup, List.pairwise_map,
      List.pairwise_filterMap]
    refine hdistinct.imp fun hne entry hentry other hother heq => ?_
    obtain ⟨reference, hreference, rfl⟩ := Option.map_eq_some_iff.1 hentry
    obtain ⟨reference', hreference', rfl⟩ := Option.map_eq_some_iff.1 hother
    exact hne reference hreference reference' hreference' (congrArg Prod.snd heq)

/-- The fields of a table are made when its turn comes, and its foreign keys are noted. -/
theorem exists_columnFields_foldl_addTable (known : OwnFields)
    (hdistinct : (tables.map Table.name).Nodup) {table : Table} (hmem : table ∈ tables) :
    ∃ drafts, (tables.foldl (OwnFields.addTable schema) known).drafts.find? table.name =
        some (columnFields schema drafts table) ∧
      (table.columnNames.Nodup → ∀ field ∈ (columnFields schema drafts table).fields,
        ∀ column, field.kind.foreignColumn? = some column →
          (tables.foldl (OwnFields.addTable schema) known).owned.lookup (table.name, column) =
            some field.name) := by
  induction tables generalizing known with
  | nil => cases hmem
  | cons first rest ih =>
    rw [List.map_cons, List.nodup_cons] at hdistinct
    rw [List.foldl_cons]
    rcases List.mem_cons.1 hmem with rfl | hrest
    · refine ⟨known.drafts, ?_, fun hcolumns field hfield column hforeign => ?_⟩
      · rw [find?_foldl_addTable_of_not_mem schema _ hdistinct.1, OwnFields.addTable]
        exact Catalog.find?_insert_self ..
      · rw [lookup_owned_foldl_addTable_of_not_mem schema _ hdistinct.1]
        exact lookup_owned_addTable_self schema known hcolumns hfield hforeign
    · exact ih _ hdistinct.2 hrest

/-- The entity of a table with the fields of its own columns only. -/
def ownEntity (drafts : Catalog FieldDraft) (table : Table) : EntityDraft :=
  { table, fields := (drafts.find? table.name).getD { fields := [], taken := [] } }

/-- Adds the entity of a table; the fields go to the first table of a name. -/
def addOwnEntity (drafts : Catalog FieldDraft) (entities : Catalog EntityDraft) (table : Table) :
    Catalog EntityDraft :=
  let known := (drafts.find? table.name).getD { fields := [], taken := [] }
  let fields := if entities.contains table.name then { known with fields := [] } else known
  entities.insert table.name { table, fields }

theorem ownEntities_eq (schema : Schema) (drafts : Catalog FieldDraft) :
    schema.ownEntities drafts =
      schema.tables.values.foldl (addOwnEntity drafts) Catalog.empty := rfl

theorem find?_foldl_addOwnEntity_of_not_mem (drafts : Catalog FieldDraft)
    (entities : Catalog EntityDraft) (hnew : name ∉ tables.map Table.name) :
    (tables.foldl (addOwnEntity drafts) entities).find? name = entities.find? name := by
  induction tables generalizing entities with
  | nil => rfl
  | cons table rest ih =>
    rw [List.map_cons, List.mem_cons, not_or] at hnew
    rw [List.foldl_cons, ih _ hnew.2, addOwnEntity, Catalog.find?_insert_of_ne _ hnew.1]

theorem find?_foldl_addOwnEntity (drafts : Catalog FieldDraft) (entities : Catalog EntityDraft)
    (hdistinct : (tables.map Table.name).Nodup)
    (hnew : ∀ table ∈ tables, table.name ∉ entities.names) {table : Table}
    (hmem : table ∈ tables) :
    (tables.foldl (addOwnEntity drafts) entities).find? table.name =
      some (ownEntity drafts table) := by
  induction tables generalizing entities with
  | nil => cases hmem
  | cons first rest ih =>
    rw [List.map_cons, List.nodup_cons] at hdistinct
    rw [List.forall_mem_cons] at hnew
    rw [List.foldl_cons]
    rcases List.mem_cons.1 hmem with rfl | hrest
    · have hcontains : entities.contains table.name = false :=
        Bool.eq_false_iff.2 fun h => hnew.1 (Catalog.contains_iff.1 h)
      rw [find?_foldl_addOwnEntity_of_not_mem drafts _ hdistinct.1, addOwnEntity,
        Catalog.find?_insert_self, hcontains, ownEntity]
      rfl
    · refine ih _ hdistinct.2 (fun other hother => ?_) hrest
      rw [addOwnEntity, Catalog.mem_names_insert, not_or]
      exact ⟨fun heq => hdistinct.1 (heq ▸ List.mem_map_of_mem hother), hnew.2 other hother⟩

end Tables

/-- The entity of a table starts with the fields of its own columns. -/
theorem Schema.exists_ownEntity {schema : Schema} (hstored : schema.StoredByName) {name : String}
    {table : Table} (hfind : schema.table? name = some table) :
    ∃ drafts, (schema.ownEntities schema.ownFields.drafts).find? name =
        some { table, fields := columnFields schema drafts table } ∧
      (table.columnNames.Nodup → ∀ field ∈ (columnFields schema drafts table).fields,
        ∀ column, field.kind.foreignColumn? = some column →
          schema.ownFields.owned.lookup (table.name, column) = some field.name) := by
  obtain rfl : table.name = name := hstored name table hfind
  have hmem : table ∈ schema.tables.values := Catalog.mem_values_iff.2 ⟨_, hfind⟩
  have hdistinct : (schema.tables.values.map Table.name).Nodup :=
    names_eq_map_values hstored ▸ schema.tables.nodup_names
  have hsorted : schema.rootsFirst.Perm schema.tables.values := List.mergeSort_perm _ _
  obtain ⟨drafts, hdraft, howned⟩ := exists_columnFields_foldl_addTable schema
    { drafts := Catalog.empty, owned := [] } ((hsorted.map Table.name).nodup_iff.2 hdistinct)
    (hsorted.mem_iff.2 hmem)
  refine ⟨drafts, ?_, howned⟩
  rw [ownEntities_eq, find?_foldl_addOwnEntity _ _ hdistinct (by simp) hmem, ownEntity, ownFields,
    hdraft]
  rfl

end ClassDiagram
