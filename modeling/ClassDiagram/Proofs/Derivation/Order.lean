import ClassDiagram.Proofs.Derivation.Columns
import ClassDiagram.Proofs.Derivation.Enumerations
import ClassDiagram.Proofs.Derivation.FurtherElements

/-!
# The order of the elements

The tables of a diagram stand in the order of its elements, and the hierarchy is walked and the
children are fitted in that order. What the tables hold does not depend on it: a schema with the
same tables in another order gives every step of the derivation the same tables to work on, and
fresh names depend only on which names are taken.
-/

namespace ClassDiagram

open Text

/-! ## Schemas that differ in the order of the tables -/

theorem Relationship.addition_congr (relationship : Relationship) (source target : Table)
    {taken other : List String} (hsame : ∀ name, name ∈ taken ↔ name ∈ other) :
    relationship.addition source target taken = relationship.addition source target other := by
  simp only [addition, joinTableAddition, freshName_congr hsame]

namespace Schema

variable {left right : Schema}

/-- The same tables, perhaps in another order, and the same links. -/
structure Reordered (left right : Schema) : Prop where
  tables : ∀ name, right.table? name = left.table? name
  links : right.links = left.links

theorem Reordered.mem_names_iff (hreordered : left.Reordered right) (name : String) :
    name ∈ right.tables.names ↔ name ∈ left.tables.names := by
  have hfind : right.tables.find? name = left.tables.find? name := hreordered.tables name
  rw [Catalog.mem_names_iff, Catalog.mem_names_iff, hfind]

theorem Reordered.add (hreordered : left.Reordered right) (addition : Addition) :
    (left.add addition).Reordered (right.add addition) := by
  cases addition with
  | foreignKey link column =>
    refine ⟨fun name => ?_, congrArg (· ++ [link]) hreordered.links⟩
    rw [table?_add_foreignKey, table?_add_foreignKey, hreordered.tables]
  | joinTable link table =>
    refine ⟨fun name => ?_, congrArg (· ++ [link]) hreordered.links⟩
    rw [table?_add_joinTable, table?_add_joinTable, hreordered.tables]

end Schema

namespace Draft

variable {left right : Draft}

theorem reordered_addPlaced (hreordered : left.schema.Reordered right.schema)
    (placed : PlacedRelationship) :
    (left.addPlaced placed).schema.Reordered (right.addPlaced placed).schema := by
  rw [addPlaced, addPlaced]
  split
  · rename_i sourceName targetName _
    rw [hreordered.tables, hreordered.tables]
    split
    · rename_i source target _ _
      rw [addRelationship, addRelationship, placed.relationship.addition_congr source target
        hreordered.mem_names_iff]
      split
      · exact hreordered.add _
      · exact hreordered
    · exact hreordered
  · exact hreordered

theorem reordered_foldl_addPlaced (placed : List PlacedRelationship) :
    ∀ left right : Draft, left.schema.Reordered right.schema →
      (placed.foldl addPlaced left).schema.Reordered (placed.foldl addPlaced right).schema := by
  induction placed with
  | nil => exact fun _ _ hreordered => hreordered
  | cons first rest ih =>
    exact fun left right hreordered => ih _ _ (reordered_addPlaced hreordered first)

end Draft

namespace Diagram

variable {diagram other : Diagram} {schema : Schema}

section Elements

variable (helements : other.elements.Perm diagram.elements)

include helements

theorem mem_storedElements_perm {element : Element} :
    element ∈ other.storedElements ↔ element ∈ diagram.storedElements :=
  (helements.filter _).mem_iff

theorem mem_enumElements_perm {element : Element} :
    element ∈ other.enumElements ↔ element ∈ diagram.enumElements :=
  (helements.filter _).mem_iff

theorem mem_elementIds_perm {id : String} : id ∈ other.elementIds ↔ id ∈ diagram.elementIds :=
  (helements.map Element.id).mem_iff

theorem stores_perm {id table : String} : other.Stores id table ↔ diagram.Stores id table := by
  simp only [Stores, mem_storedElements_perm helements]

theorem declaredTable_perm (element : Element) :
    other.declaredTable element = diagram.declaredTable element := by
  rw [declaredTable, declaredTable, attributesOf_perm helements]

/-- Of enumerations with different names each is found, whatever the order. -/
theorem find?_enums_perm {later : Schema} (haccepted : diagram.schema = .ok schema)
    (hlater : other.schema = .ok later)
    (hdistinct : (diagram.enumElements.map fun element => trimmed element.className).Nodup)
    (name : String) : later.enums.find? name = schema.enums.find? name := by
  have hnames : (other.enumElements.map fun element => trimmed element.className).Perm
      (diagram.enumElements.map fun element => trimmed element.className) :=
    (helements.filter _).map _
  apply Option.ext
  intro enumType
  rw [find?_enums_eq_some_iff haccepted hdistinct,
    find?_enums_eq_some_iff hlater (hnames.nodup_iff.2 hdistinct)]
  simp only [mem_enumElements_perm helements]

variable (hrelationships : other.relationships = diagram.relationships)

include hrelationships

theorem extends_perm : other.Extends = diagram.Extends := by
  funext child parent
  simp only [Extends, hrelationships, stores_perm helements]

theorem WellFormed.perm (hwell : diagram.WellFormed) : other.WellFormed where
  ids := (helements.map Element.id).nodup_iff.2 hwell.ids
  constants element hmem := hwell.constants element ((mem_enumElements_perm helements).1 hmem)
  tables := ((helements.filter _).map _).nodup_iff.2 hwell.tables
  attributes element hmem declaration hdeclaration := by
    simp only [mem_enumElements_perm helements]
    exact hwell.attributes element ((mem_storedElements_perm helements).1 hmem) declaration
      hdeclaration
  columns element hmem := hwell.columns element ((mem_storedElements_perm helements).1 hmem)
  methods element hmem := hwell.methods element ((mem_storedElements_perm helements).1 hmem)
  ends := by
    simp only [hrelationships, mem_elementIds_perm helements]
    exact hwell.ends
  ownParent := extends_perm helements hrelationships ▸ hwell.ownParent
  oneParent := extends_perm helements hrelationships ▸ hwell.oneParent
  acyclic := extends_perm helements hrelationships ▸ hwell.acyclic
  cardinalities := by
    simp only [hrelationships, IsStored, mem_storedElements_perm helements]
    exact hwell.cardinalities

variable (hwell : diagram.JoinedWellFormed) (hother : other.JoinedWellFormed)

include hwell hother

theorem placements_perm : other.placements = diagram.placements :=
  placements_congr hother hwell hrelationships fun _ _ _ => stores_perm helements

theorem linkedTable_perm (element : Element) :
    other.linkedTable element = diagram.linkedTable element := by
  rw [linkedTable, linkedTable, declaredTable_perm helements, edges, edges,
    placements_perm helements hrelationships hwell hother]

theorem table?_linkedSchema_perm (name : String) :
    other.linkedSchema.table? name = diagram.linkedSchema.table? name := by
  apply Option.ext
  intro table
  constructor
  · intro hfind
    obtain ⟨element, hmem, rfl, rfl⟩ := table?_linkedSchema_eq_some hother.elements hfind
    rw [linkedTable_perm helements hrelationships hwell hother]
    exact table?_linkedSchema hwell.elements ((mem_storedElements_perm helements).1 hmem)
  · intro hfind
    obtain ⟨element, hmem, rfl, rfl⟩ := table?_linkedSchema_eq_some hwell.elements hfind
    rw [← linkedTable_perm helements hrelationships hwell hother]
    exact table?_linkedSchema hother.elements ((mem_storedElements_perm helements).2 hmem)

/-- Every table is fitted to the same ancestors. -/
theorem reordered_joinedDraft :
    diagram.joinedDraft.schema.Reordered other.joinedDraft.schema := by
  have hlinked := table?_linkedSchema_perm helements hrelationships hwell hother
  refine ⟨fun name => ?_, by rw [hwell.links_eq_nil, hother.links_eq_nil]⟩
  rw [hwell.schema_eq, hother.schema_eq, Schema.table?_fitted, Schema.table?_fitted, hlinked]
  cases hfind : diagram.linkedSchema.table? name with
  | none => rw [Option.map_none, Option.map_none]
  | some table =>
    have hkept : ∀ name table, diagram.linkedSchema.table? name = some table →
        other.linkedSchema.table? name = some table :=
      fun name table hfind => (hlinked name).trans hfind
    rw [Option.map_some, Option.map_some, hwell.flat.fit_eq_fit hother.flat hkept hfind]

end Elements

/-- In whatever order the elements of an accepted diagram stand, it is accepted, and its tables are
the same but for their order. So are the enumerations unless two of them share a name. The links are
the same, in the order of the relationships. -/
theorem schema_perm (haccepted : diagram.schema = .ok schema)
    (hdistinct : (diagram.enumElements.map fun element => trimmed element.className).Nodup)
    (helements : other.elements.Perm diagram.elements)
    (hrelationships : other.relationships = diagram.relationships) :
    ∃ later, other.schema = .ok later ∧ later.tables.entries.Perm schema.tables.entries ∧
      later.enums.entries.Perm schema.enums.entries ∧ later.links = schema.links := by
  obtain ⟨later, hlater⟩ :=
    ((wellFormed_of_schema haccepted).perm helements hrelationships).exists_schema
  have hwell := joinedWellFormed_of_schema haccepted
  have hother := joinedWellFormed_of_schema hlater
  have hreordered : schema.Reordered later := by
    rw [← (schema_eq_ok_iff.1 haccepted).2, ← (schema_eq_ok_iff.1 hlater).2, draft_eq_foldl,
      draft_eq_foldl, placements_perm helements hrelationships hwell hother]
    exact Draft.reordered_foldl_addPlaced _ _ _
      (reordered_joinedDraft helements hrelationships hwell hother)
  refine ⟨later, hlater, Catalog.perm_of_find?_eq hreordered.tables, ?_, hreordered.links⟩
  exact Catalog.perm_of_find?_eq (find?_enums_perm helements haccepted hlater hdistinct)

/-- The shop with its elements in the opposite order: the products, which refer to the staff, and the
users, which the staff extend, stand before them. -/
theorem schema_perm_shop :
    ∃ later, ({ shop with elements := shop.elements.reverse } : Diagram).schema = .ok later ∧
      later.tables.entries.Perm shop.draft.schema.tables.entries ∧
      later.enums.entries.Perm shop.draft.schema.enums.entries ∧
      later.links = shop.draft.schema.links := by
  have helements : ({ shop with elements := shop.elements.reverse } : Diagram).elements.Perm
      shop.elements := List.reverse_perm shop.elements
  have hdistinct :
      (shop.enumElements.map fun element => trimmed element.className).Nodup := by
    rw [show shop.enumElements = shop.elements.drop 3 from rfl]
    exact List.nodup_singleton _
  exact schema_perm shop_schema hdistinct helements rfl

end Diagram

end ClassDiagram
