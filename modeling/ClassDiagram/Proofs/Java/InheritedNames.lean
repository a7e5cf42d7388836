import ClassDiagram.Proofs.Java.KeyFields
import ClassDiagram.Proofs.Ranks

/-!
# Inherited names

The fields of a table's own columns are made when those of its ancestors are there, and their names
give way to all names that are inherited. Keys are not inherited in this sense: every table has its
own key field, whose name the fields of the tables below do not give way to.
-/

namespace ClassDiagram

/-! ## Ancestors come first -/

namespace Schema

variable {schema : Schema} (hacyclic : schema.Acyclic) (hstored : schema.StoredByName)

include hacyclic hstored

/-- Of the ancestors of a table the farther ones are ancestors of the nearer ones. -/
theorem Ascent.pairwise_mem_ancestors {current : Option String} {above : List Table}
    (hascent : schema.Ascent current above) :
    above.Pairwise fun lower upper => upper ∈ schema.ancestors lower.name := by
  induction hascent with
  | root => exact .nil
  | missing => exact .nil
  | step hfind habove ih =>
    refine .cons (fun upper hupper => ?_) ih
    rwa [(Ascent.step hfind habove).ancestors_eq hacyclic hstored]

theorem Ascent.length_ancestors_lt {current : Option String} {above : List Table}
    (hascent : schema.Ascent current above) {table : Table} (hmem : table ∈ above) :
    (schema.ancestors table.name).length < above.length := by
  induction hascent with
  | root => cases hmem
  | missing => cases hmem
  | step hfind habove ih =>
    rcases List.mem_cons.1 hmem with rfl | hrest
    · rw [(Ascent.step hfind habove).ancestors_eq hacyclic hstored]
      exact Nat.lt_succ_self _
    · exact Nat.lt_succ_of_lt (ih hrest)

theorem table?_of_mem_ancestors {name : String} {ancestor : Table}
    (hancestor : ancestor ∈ schema.ancestors name) :
    schema.table? ancestor.name = some ancestor := by
  obtain ⟨above, -, hfind⟩ := (mem_ancestors_iff hacyclic hstored).1 hancestor
  rwa [hstored above ancestor hfind]

/-- When the turn of a table comes, its ancestors have had theirs. -/
theorem mem_before_of_rootsFirst {before after : List Table} {table ancestor : Table}
    (hroots : schema.rootsFirst = before ++ table :: after)
    (hancestor : ancestor ∈ schema.ancestors table.name) : ancestor ∈ before := by
  have hfewer := (ascent_ancestors hacyclic hstored table.name).length_ancestors_lt hacyclic
    hstored hancestor
  have hranks := pairwise_rank_le (fun table => (schema.ancestors table.name).length)
    schema.tables.values
  rw [← rootsFirst, hroots] at hranks
  have hlater := (List.pairwise_cons.1 (List.pairwise_append.1 hranks).2.1).1
  have hmem : ancestor ∈ schema.rootsFirst := (List.mergeSort_perm _ _).mem_iff.2
    ((mem_values_iff_table? hstored).2 (table?_of_mem_ancestors hacyclic hstored hancestor))
  rw [hroots, List.mem_append, List.mem_cons] at hmem
  obtain hbefore | rfl | hafter := hmem
  · exact hbefore
  · exact absurd hfewer (Nat.lt_irrefl _)
  · exact absurd hfewer (Nat.not_lt.2 (hlater ancestor hafter))

end Schema

/-! ## The fields of a table and of its ancestors -/

theorem columnFields_congr {schema : Schema} {left right : Catalog FieldDraft} {table : Table}
    (hsame : ∀ ancestor ∈ schema.ancestors table.name,
      left.find? ancestor.name = right.find? ancestor.name) :
    columnFields schema left table = columnFields schema right table := by
  have hnames : inheritedFieldNames schema left table = inheritedFieldNames schema right table := by
    unfold inheritedFieldNames
    apply List.flatMap_congr
    intro ancestor hancestor
    rw [hsame ancestor hancestor]
  rw [columnFields, hnames, columnFields]

namespace Schema

/-- The fields of a table's own columns, as they are in the end. -/
def ownDraft (schema : Schema) (table : Table) : FieldDraft :=
  columnFields schema schema.ownFields.drafts table

variable {schema : Schema}

theorem ownDraft_isMadeOf (schema : Schema) (table : Table) :
    (schema.ownDraft table).IsMadeOf table.columns :=
  columnFields_isMadeOf schema schema.ownFields.drafts table

section Hierarchy

variable (hacyclic : schema.Acyclic) (hstored : schema.StoredByName)

include hacyclic hstored

theorem find?_ownFields {table : Table} (hfind : schema.table? table.name = some table) :
    schema.ownFields.drafts.find? table.name = some (schema.ownDraft table) := by
  have hperm : schema.rootsFirst.Perm schema.tables.values := List.mergeSort_perm _ _
  have hdistinct : (schema.rootsFirst.map Table.name).Nodup := by
    rw [(hperm.map Table.name).nodup_iff, ← names_eq_map_values hstored]
    exact schema.tables.nodup_names
  obtain ⟨before, after, hroots⟩ := List.append_of_mem
    (hperm.mem_iff.2 ((mem_values_iff_table? hstored).2 hfind))
  rw [hroots, List.map_append, List.map_cons, List.nodup_append, List.nodup_cons] at hdistinct
  obtain ⟨-, ⟨hafter, -⟩, hdisjoint⟩ := hdistinct
  let known := before.foldl (OwnFields.addTable schema) { drafts := Catalog.empty, owned := [] }
  have hown : schema.ownFields = (table :: after).foldl (OwnFields.addTable schema) known := by
    rw [ownFields, hroots, List.foldl_append]
  have hmade : schema.ownFields.drafts.find? table.name =
      some (columnFields schema known.drafts table) := by
    rw [hown, List.foldl_cons, find?_foldl_addTable_of_not_mem schema _ hafter, OwnFields.addTable]
    exact Catalog.find?_insert_self ..
  -- the fields of the ancestors are known by then, and stay as they are
  rw [hmade, ownDraft, columnFields_congr]
  intro ancestor hancestor
  have hbefore := mem_before_of_rootsFirst hacyclic hstored hroots hancestor
  have hnever : ancestor.name ∉ (table :: after).map Table.name := fun hmem =>
    hdisjoint ancestor.name (List.mem_map_of_mem hbefore) ancestor.name hmem rfl
  rw [hown, find?_foldl_addTable_of_not_mem schema known hnever]

/-- The entity of a table starts with the fields of its own columns. -/
theorem find?_ownEntities {table : Table} (hfind : schema.table? table.name = some table) :
    (schema.ownEntities schema.ownFields.drafts).find? table.name =
      some { table, fields := schema.ownDraft table } := by
  have hdistinct : (schema.tables.values.map Table.name).Nodup :=
    names_eq_map_values hstored ▸ schema.tables.nodup_names
  rw [ownEntities_eq, find?_foldl_addOwnEntity _ _ hdistinct (by simp)
    ((mem_values_iff_table? hstored).2 hfind), ownEntity, find?_ownFields hacyclic hstored hfind]
  rfl

/-- The entity of a table has the fields of its own columns in front of what it has gained. -/
theorem exists_entity_fields {table : Table} (hfind : schema.table? table.name = some table)
    (written : List String) :
    ∃ entity gained, (schema.entities written).find? table.name = some entity ∧
      entity.table = table ∧ entity.fields = (schema.ownDraft table).fields ++ gained ∧
      ∀ field ∈ gained, field.kind.isOwn = false := by
  obtain ⟨drafts, hgains, hentities⟩ := schema.exists_gainsAssociations written
  obtain ⟨later, gained, hlater, htable, hfields, hgained⟩ :=
    hgains.exists_gained (find?_ownEntities hacyclic hstored hfind)
  refine ⟨later.entity, gained, ?_, htable, hfields, hgained⟩
  rw [hentities, Catalog.find?_map, hlater, Option.map_some]

end Hierarchy

end Schema

/-! ## Names give way -/

theorem FieldDraft.AddsColumn.keeps {motive : FieldDraft → Prop}
    (hadd : ∀ draft candidates javaType kind, motive draft →
      motive (draft.add candidates javaType kind))
    {draft later : FieldDraft} {column : Column} (hadds : draft.AddsColumn column later)
    (hdraft : motive draft) : motive later := by
  cases hadds with
  | key => exact hadd _ _ _ _ hdraft
  | joinKey => exact hadd _ _ _ _ (hadd _ _ _ _ hdraft)
  | association => exact hadd _ _ _ _ hdraft
  | scalar => exact hadd _ _ _ _ hdraft

/-- These names are taken, and no field has one of them. -/
structure FieldDraft.Avoids (names : List String) (draft : FieldDraft) : Prop where
  taken : names ⊆ draft.taken
  free : ∀ field ∈ draft.fields, field.name ∉ names

theorem FieldDraft.Avoids.add {names : List String} {draft : FieldDraft}
    (havoids : draft.Avoids names) (candidates : List String) (javaType : String)
    (kind : FieldKind) : (draft.add candidates javaType kind).Avoids names where
  taken := fun _ hname => List.mem_cons_of_mem _ (havoids.taken hname)
  free := by
    rw [fields_add, List.forall_mem_append, List.forall_mem_singleton]
    exact ⟨havoids.free, fun hname =>
      freshAmong_not_mem candidates draft.taken (havoids.taken hname)⟩

/-- Inherited names stay taken, so that no field of a table's own columns gets one. -/
theorem columnFields_avoids (schema : Schema) (drafts : Catalog FieldDraft) (table : Table) :
    (columnFields schema drafts table).Avoids (inheritedFieldNames schema drafts table) :=
  List.foldlRecOn table.columns _ ⟨List.Subset.refl _, List.forall_mem_nil _⟩
    fun draft hdraft column _ => (draft.addsColumn schema table column).keeps
      (fun _ candidates javaType kind havoids => havoids.add candidates javaType kind) hdraft

/-- The names that a table inherits are those of its ancestors' columns, but for the keys. -/
theorem Schema.mem_inheritedFieldNames {schema : Schema} (hacyclic : schema.Acyclic)
    (hstored : schema.StoredByName) {table ancestor : Table}
    (hancestor : ancestor ∈ schema.ancestors table.name) {inherited : Field}
    (hinherited : inherited ∈ (schema.ownDraft ancestor).fields)
    (hplain : inherited.isKey = false) :
    inherited.name ∈ inheritedFieldNames schema schema.ownFields.drafts table := by
  have hfind := table?_of_mem_ancestors hacyclic hstored hancestor
  refine List.mem_flatMap.2 ⟨ancestor, hancestor, ?_⟩
  rw [find?_ownFields hacyclic hstored hfind]
  exact List.mem_map_of_mem (List.mem_filter.2 ⟨hinherited, by simp [hplain]⟩)

/-- No field of a table's own columns has the name of a field of an ancestor's columns, unless that
is a key. -/
theorem Schema.name_ne_of_mem_ancestors {schema : Schema} (hacyclic : schema.Acyclic)
    (hstored : schema.StoredByName) {table ancestor : Table}
    (hancestor : ancestor ∈ schema.ancestors table.name) {inherited field : Field}
    (hinherited : inherited ∈ (schema.ownDraft ancestor).fields) (hplain : inherited.isKey = false)
    (hfield : field ∈ (schema.ownDraft table).fields) : inherited.name ≠ field.name := by
  have hname := mem_inheritedFieldNames hacyclic hstored hancestor hinherited hplain
  exact fun heq => (columnFields_avoids schema _ table).free field hfield (heq ▸ hname)

end ClassDiagram
