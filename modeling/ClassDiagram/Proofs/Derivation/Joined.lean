import ClassDiagram.Proofs.Derivation.Placement
import ClassDiagram.Proofs.Hierarchy.Fitted

/-!
# The schema of the elements and their hierarchy

The schema that a well-formed diagram has before its structural relationships are added: one table
for every stored element, fitted to its ancestors. It keeps the rules, and its references are of the
right types.
-/

namespace ClassDiagram

theorem namesKey_id (table : String) : namesKey table "id" = true := rfl

section WithKey

variable {table : String} {attributes : List TypedAttribute}

theorem withKey_attributeColumns_of_key
    (hkey : attributes.any (fun typed => namesKey table typed.column) = true) :
    withKey (attributeColumns table attributes) = attributeColumns table attributes := by
  rw [withKey, any_primaryKey_attributeColumns, hkey, if_pos rfl]

theorem withKey_attributeColumns_of_plain
    (hplain : attributes.any (fun typed => namesKey table typed.column) = false) :
    withKey (attributeColumns table attributes) =
      surrogateKey :: attributeColumns table attributes := by
  rw [withKey, any_primaryKey_attributeColumns, hplain, if_neg Bool.false_ne_true]

/-- The name of the key that is put in front is not taken: an attribute with it would be the key. -/
theorem nodup_names_withKey (hdistinct : (attributes.map TypedAttribute.column).Nodup) :
    ((withKey (attributeColumns table attributes)).map Column.name).Nodup := by
  cases hkey : attributes.any fun typed => namesKey table typed.column with
  | true => rwa [withKey_attributeColumns_of_key hkey, map_name_attributeColumns]
  | false =>
    rw [withKey_attributeColumns_of_plain hkey, List.map_cons, map_name_attributeColumns,
      List.nodup_cons]
    refine ⟨fun hmem => ?_, hdistinct⟩
    obtain ⟨typed, htyped, hname⟩ := List.mem_map.1 hmem
    have hid : TypedAttribute.column typed = "id" := hname
    exact List.any_eq_false.1 hkey typed htyped (hid ▸ namesKey_id table)

theorem length_keys_withKey (table : String) (attributes : List TypedAttribute) :
    ((withKey (attributeColumns table attributes)).filter Column.primaryKey).length = 1 := by
  cases hkey : attributes.any fun typed => namesKey table typed.column with
  | true =>
    rw [withKey_attributeColumns_of_key hkey, length_keys_attributeColumns, hkey, if_pos rfl]
  | false =>
    rw [withKey_attributeColumns_of_plain hkey, List.filter_cons_of_pos rfl, List.length_cons,
      length_keys_attributeColumns, hkey, if_neg Bool.false_ne_true]

theorem references_of_mem_withKey {column : Column}
    (hmem : column ∈ withKey (attributeColumns table attributes)) : column.references = none := by
  rw [withKey] at hmem
  split at hmem
  · exact references_of_mem_attributeColumns hmem
  · rcases List.mem_cons.1 hmem with rfl | hrest
    · rfl
    · exact references_of_mem_attributeColumns hrest

end WithKey

namespace Diagram

variable {diagram : Diagram}

/-- The table of a stored element, with its parent but not yet fitted. -/
def linkedTable (diagram : Diagram) (element : Element) : Table :=
  { diagram.declaredTable element with parent := parentIn diagram.edges element.storedName }

theorem table?_linkedSchema (hwell : diagram.ElementsWellFormed) {element : Element}
    (hmem : element ∈ diagram.storedElements) :
    diagram.linkedSchema.table? element.storedName = some (diagram.linkedTable element) := by
  rw [linkedSchema, (Schema.followEdges_frame _ _).2.2.2, table?_elementDraft hwell hmem]
  rfl

theorem table?_linkedSchema_eq_some (hwell : diagram.ElementsWellFormed) {name : String}
    {table : Table} (hfind : diagram.linkedSchema.table? name = some table) :
    ∃ element ∈ diagram.storedElements, element.storedName = name ∧
      diagram.linkedTable element = table := by
  rw [linkedSchema, (Schema.followEdges_frame _ _).2.2.2, Option.map_eq_some_iff] at hfind
  obtain ⟨declared, hdeclared, rfl⟩ := hfind
  obtain ⟨element, hmem, rfl, rfl⟩ := table?_elementDraft_eq_some hwell hdeclared
  exact ⟨element, hmem, rfl, rfl⟩

theorem names_linkedSchema (hwell : diagram.ElementsWellFormed) :
    diagram.linkedSchema.tables.names = diagram.storedElements.map Element.storedName := by
  rw [linkedSchema, (Schema.followEdges_frame _ _).1, Catalog.names, (elementDraft_frame hwell).1,
    List.map_map]
  rfl

theorem links_linkedSchema (hwell : diagram.ElementsWellFormed) :
    diagram.linkedSchema.links = [] := by
  rw [linkedSchema, (Schema.followEdges_frame _ _).2.1, (elementDraft_frame hwell).2.1]

theorem linkedSchema_flat (hwell : diagram.ElementsWellFormed)
    (hhierarchy : diagram.HierarchyWellFormed) : diagram.linkedSchema.Flat where
  stored name table hfind := by
    obtain ⟨element, -, rfl, rfl⟩ := table?_linkedSchema_eq_some hwell hfind
    rfl
  acyclic := Schema.parentCycles_eq_nil_iff.1
    ((hierarchy_faults_eq_nil_iff hwell).2 hhierarchy).2
  element name table hfind := by
    obtain ⟨element, -, rfl, rfl⟩ := table?_linkedSchema_eq_some hwell hfind
    rfl
  distinct name table hfind := by
    obtain ⟨element, hmem, rfl, rfl⟩ := table?_linkedSchema_eq_some hwell hfind
    exact nodup_names_withKey (hwell.columns element hmem)
  key name table hfind := by
    obtain ⟨element, hmem, rfl, rfl⟩ := table?_linkedSchema_eq_some hwell hfind
    exact length_keys_withKey _ _
  bare name table hfind column hcolumn := by
    obtain ⟨element, hmem, rfl, rfl⟩ := table?_linkedSchema_eq_some hwell hfind
    exact references_of_mem_withKey hcolumn
  parents name table hfind parent hparent := by
    have hextends := extends_of_hasParent hwell (Schema.hasParent_iff.2 ⟨table, hfind, hparent⟩)
    obtain ⟨_, -, -, -, element, hmem, -, rfl⟩ := hextends
    exact Catalog.mem_names_of_find? (table?_linkedSchema hwell hmem)

namespace JoinedWellFormed

theorem flat (hwell : diagram.JoinedWellFormed) : diagram.linkedSchema.Flat :=
  linkedSchema_flat hwell.elements hwell.hierarchy

theorem schema_eq (hwell : diagram.JoinedWellFormed) :
    diagram.joinedDraft.schema = diagram.linkedSchema.fitted := by
  rw [joinedDraft_schema, Schema.withoutCycles_of_acyclic hwell.flat.acyclic,
    Schema.fitChildren_eq hwell.flat.acyclic hwell.flat.stored]
  rfl

theorem table?_eq (hwell : diagram.JoinedWellFormed) {element : Element}
    (hmem : element ∈ diagram.storedElements) :
    diagram.joinedDraft.schema.table? element.storedName =
      some (diagram.linkedSchema.fit (diagram.linkedTable element)) := by
  rw [hwell.schema_eq, Schema.table?_fitted, table?_linkedSchema hwell.elements hmem,
    Option.map_some]

theorem entries_eq (hwell : diagram.JoinedWellFormed) :
    diagram.joinedDraft.schema.tables.entries = diagram.storedElements.map fun element =>
      (element.storedName, diagram.linkedSchema.fit (diagram.linkedTable element)) := by
  refine Catalog.entries_eq_map ?_ fun element hmem => hwell.table?_eq hmem
  rw [hwell.schema_eq, Schema.names_fitted, names_linkedSchema hwell.elements]

theorem links_eq_nil (hwell : diagram.JoinedWellFormed) :
    diagram.joinedDraft.schema.links = [] := by
  rw [hwell.schema_eq]
  exact links_linkedSchema hwell.elements

theorem keepsRules (hwell : diagram.JoinedWellFormed) :
    diagram.joinedDraft.schema.KeepsRules :=
  hwell.schema_eq ▸ hwell.flat.fitted_keepsRules (links_linkedSchema hwell.elements)

theorem keysAgree (hwell : diagram.JoinedWellFormed) : diagram.joinedDraft.schema.KeysAgree :=
  hwell.schema_eq ▸ hwell.flat.fitted_keysAgree

end JoinedWellFormed

end Diagram

end ClassDiagram
