import ClassDiagram.Proofs.Derivation.Direction

/-!
# Further relationships

A diagram with more relationships behind those that it had. If none of them is an inheritance, the
tables of the elements stay as they are, and the run over the relationships goes on from where it
had ended. It only adds: names that were found before are never found anew.
-/

namespace ClassDiagram

open Relation

theorem Relationship.edge?_placement {relationship : Relationship}
    (hfamily : relationship.kind.family ≠ .inheritance) (ids : List String)
    (tableOf : List (String × String)) : (relationship.placement ids tableOf).edge? = none := by
  rw [placement]
  split
  · rfl
  · split <;> first | rfl | exact absurd (by assumption) hfamily

namespace Draft

/-- A step changes the schema in a way that depends on the schema only. -/
theorem schema_addPlaced_congr {left right : Draft} (hschema : left.schema = right.schema)
    (placed : PlacedRelationship) :
    (left.addPlaced placed).schema = (right.addPlaced placed).schema := by
  have hadd : ∀ relationship source target,
      (left.addRelationship relationship source target).schema =
        (right.addRelationship relationship source target).schema := by
    intro relationship source target
    rw [addRelationship, addRelationship, hschema]
    split
    · rfl
    · exact hschema
  rw [addPlaced, addPlaced, hschema]
  split
  · split
    · exact hadd _ _ _
    · exact hschema
  · exact hschema

theorem schema_foldl_addPlaced_congr (placed : List PlacedRelationship) :
    ∀ left right : Draft, left.schema = right.schema →
      (placed.foldl addPlaced left).schema = (placed.foldl addPlaced right).schema := by
  induction placed with
  | nil => exact fun _ _ hschema => hschema
  | cons first rest ih =>
    exact fun left right hschema => ih _ _ (schema_addPlaced_congr hschema first)

/-- Links are added behind those that are there. -/
theorem links_prefix_addPlaced (draft : Draft) (placed : PlacedRelationship) :
    draft.schema.links <+: (draft.addPlaced placed).schema.links := by
  rw [addPlaced]
  split
  · split
    · rw [addRelationship]
      split
      · rename_i addition _
        cases addition <;> exact List.prefix_append _ _
      · exact List.prefix_rfl
    · exact List.prefix_rfl
  · exact List.prefix_rfl

theorem links_prefix_foldl_addPlaced (placed : List PlacedRelationship) (draft : Draft) :
    draft.schema.links <+: (placed.foldl addPlaced draft).schema.links := by
  induction placed generalizing draft with
  | nil => exact List.prefix_rfl
  | cons first rest ih => exact (draft.links_prefix_addPlaced first).trans (ih _)

end Draft

namespace Diagram

variable {diagram : Diagram} {schema later : Schema} {added : List Relationship}

/-- The diagram with further relationships behind its own. -/
def withFurther (diagram : Diagram) (added : List Relationship) : Diagram :=
  diagram.withRelationships (diagram.relationships ++ added)

/-- The places of further relationships. -/
def furtherPlacements (diagram : Diagram) (added : List Relationship) : List PlacedRelationship :=
  added.map fun relationship =>
    { relationship
      placement := relationship.placement diagram.elementIds diagram.elementDraft.tableOf }

theorem placements_withFurther (diagram : Diagram) (added : List Relationship) :
    (diagram.withFurther added).placements =
      diagram.placements ++ diagram.furtherPlacements added :=
  List.map_append

/-- What a diagram must keep to, it keeps to with fewer relationships. -/
theorem WellFormed.of_withFurther (hwell : (diagram.withFurther added).WellFormed) :
    diagram.WellFormed := by
  have hmem : ∀ relationship ∈ diagram.relationships,
      relationship ∈ (diagram.withFurther added).relationships := fun _ hmem =>
    List.mem_append_left added hmem
  have hextends : ∀ child parent, diagram.Extends child parent →
      (diagram.withFurther added).Extends child parent := by
    rintro child parent ⟨relationship, hrelationship, hends⟩
    exact ⟨relationship, hmem relationship hrelationship, hends⟩
  exact
    { ids := hwell.ids
      constants := hwell.constants
      tables := hwell.tables
      attributes := hwell.attributes
      columns := hwell.columns
      methods := hwell.methods
      ends := fun relationship hrelationship => hwell.ends relationship (hmem _ hrelationship)
      ownParent := fun child parent hparent => hwell.ownParent child parent (hextends _ _ hparent)
      oneParent := fun child left right hleft hright =>
        hwell.oneParent child left right (hextends _ _ hleft) (hextends _ _ hright)
      acyclic := fun name hcycle => hwell.acyclic name (TransGen.mono hextends _ _ hcycle)
      cardinalities := fun relationship hrelationship =>
        hwell.cardinalities relationship (hmem _ hrelationship) }

section Additions

variable (hadded : ∀ relationship ∈ added, relationship.kind.family ≠ .inheritance)

include hadded

theorem edges_withFurther : (diagram.withFurther added).edges = diagram.edges := by
  have hnone : (diagram.furtherPlacements added).filterMap
      (fun placed => placed.placement.edge?) = [] := by
    rw [List.filterMap_eq_nil_iff, furtherPlacements, List.forall_mem_map]
    exact fun relationship hmem => Relationship.edge?_placement (hadded relationship hmem) _ _
  rw [edges, edges, List.filterMap_map, List.filterMap_map, placements_withFurther,
    List.filterMap_append]
  exact (congrArg _ hnone).trans (List.append_nil _)

theorem joinedDraft_withFurther_schema :
    (diagram.withFurther added).joinedDraft.schema = diagram.joinedDraft.schema := by
  rw [joinedDraft_schema, joinedDraft_schema, linkedSchema, linkedSchema,
    edges_withFurther hadded]
  rfl

/-- The run over further relationships starts from the schema of the diagram. -/
theorem draft_withFurther_schema : (diagram.withFurther added).draft.schema =
    ((diagram.furtherPlacements added).foldl Draft.addPlaced diagram.draft).schema := by
  rw [draft_eq_foldl, draft_eq_foldl, placements_withFurther, List.foldl_append]
  apply Draft.schema_foldl_addPlaced_congr
  apply Draft.schema_foldl_addPlaced_congr
  exact joinedDraft_withFurther_schema hadded

/-- With further associations, aggregations, compositions or dependencies a diagram is accepted only
if it is accepted without them. All links, tables, columns and enumerations that it had stay as
they are and keep their names. A table may get further columns behind its own, and every further
table is a join table. -/
theorem schema_withFurther (hlater : (diagram.withFurther added).schema = .ok later) :
    ∃ schema, diagram.schema = .ok schema ∧ schema.links <+: later.links ∧
      later.enums = schema.enums ∧
      (∀ name table, schema.table? name = some table → ∃ further,
        later.table? name = some { table with columns := table.columns ++ further }) ∧
      ∀ name table, later.table? name = some table → name ∉ schema.tables.names →
        table.isJoin = true := by
  obtain ⟨schema, haccepted⟩ := (wellFormed_of_schema hlater).of_withFurther.exists_schema
  have hwell := joinedWellFormed_of_schema haccepted
  have hwell' := joinedWellFormed_of_schema hlater
  obtain ⟨-, rfl⟩ := schema_eq_ok_iff.1 haccepted
  obtain ⟨-, rfl⟩ := schema_eq_ok_iff.1 hlater
  have hlies : ∀ step ∈ diagram.furtherPlacements added, step.LiesIn diagram.draft.schema := by
    intro step hstep
    have hjoined := placements_lieIn hwell' step
      (placements_withFurther diagram added ▸ List.mem_append_right _ hstep)
    rw [joinedDraft_withFurther_schema hadded] at hjoined
    exact hjoined.grow hwell.adds.grows.grows
  have hgrows := (Draft.adds_foldl_addPlaced _ diagram.draft hwell.adds.sound hlies).grows.grows
  refine ⟨diagram.draft.schema, haccepted, ?_, ?_, ?_, ?_⟩ <;>
    rw [draft_withFurther_schema hadded]
  · exact Draft.links_prefix_foldl_addPlaced _ diagram.draft
  · exact Draft.enums_foldl_addPlaced _ diagram.draft
  · intro name table hfind
    obtain ⟨further, hfurther, -⟩ := hgrows.kept name table hfind
    exact ⟨further, hfurther⟩
  · exact fun name table hfind hnew => (hgrows.joins name table hfind hnew).1

end Additions

/-- The products of the shop get a second seller and a second kind of parts, and depend on the
roles. -/
def shopFurther : List Relationship :=
  [{ id := "r4"
     sourceId := "3"
     targetId := "1"
     kind := .association
     sourceCardinality := "*"
     targetCardinality := "1" },
    { id := "r5"
      sourceId := "3"
      targetId := "3"
      kind := .composition
      sourceCardinality := "*"
      targetCardinality := "*" },
    { id := "r6"
      sourceId := "3"
      targetId := "4"
      kind := .dependency
      sourceCardinality := ""
      targetCardinality := "" }]

/-- The new column and the new join table give way to those that have the names already. -/
theorem schema_withFurther_shop :
    let later := (shop.withFurther shopFurther).draft.schema
    (∀ relationship ∈ shopFurther, relationship.kind.family ≠ .inheritance) ∧
      (shop.withFurther shopFurther).schema = .ok later ∧
      shop.draft.schema.links <+: later.links ∧
      (later.table? "product").map Table.columnNames =
        some ["id", "price", "staff_id", "staff_id_2"] ∧
      later.tables.names =
        ["staff", "user", "product", "product_product", "product_product_2"] := by
  intro later
  have hadded : ∀ relationship ∈ shopFurther, relationship.kind.family ≠ .inheritance := by decide
  obtain ⟨hfaults, hcolumns, hnames⟩ : (shop.withFurther shopFurther).draft.faults = [] ∧
      (later.table? "product").map Table.columnNames =
        some ["id", "price", "staff_id", "staff_id_2"] ∧
      later.tables.names =
        ["staff", "user", "product", "product_product", "product_product_2"] := by
    decide +kernel
  have hlater : (shop.withFurther shopFurther).schema = .ok later :=
    schema_eq_ok_iff.2 ⟨hfaults, rfl⟩
  obtain ⟨schema, haccepted, hlinks, -⟩ := schema_withFurther hadded hlater
  obtain rfl := Except.ok.inj (shop_schema.symm.trans haccepted)
  exact ⟨hadded, hlater, hlinks, hcolumns, hnames⟩

end Diagram

end ClassDiagram
