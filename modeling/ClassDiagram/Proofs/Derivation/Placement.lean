import Mathlib.Data.List.Nodup
import ClassDiagram.Proofs.Derivation.Elements
import ClassDiagram.Proofs.Hierarchy.Edges
import ClassDiagram.Proofs.Hierarchy.Fitting

/-!
# Places of the relationships

Where the relationships of a diagram go once its elements have tables, and the hierarchy that the
inheritance among them makes. The tables of elements that are well formed get parents without a
fault exactly if no table extends itself, none extends two others and there is no cycle.
-/

namespace ClassDiagram

open Relation

namespace Diagram

variable {diagram : Diagram}

/-- The element with this id is stored in the table of this name. -/
def Stores (diagram : Diagram) (id table : String) : Prop :=
  ∃ element ∈ diagram.storedElements, element.id = id ∧ element.storedName = table

/-- An inheritance or realization leads from one table to another. -/
def Extends (diagram : Diagram) (child parent : String) : Prop :=
  ∃ relationship ∈ diagram.relationships, relationship.kind.family = .inheritance ∧
    diagram.Stores relationship.sourceId child ∧ diagram.Stores relationship.targetId parent

/-- All relationships with their places. -/
def placements (diagram : Diagram) : List PlacedRelationship :=
  diagram.placedRelationships diagram.elementDraft.tableOf

def edges (diagram : Diagram) : List HierarchyEdge :=
  (diagram.placements.map PlacedRelationship.placement).filterMap Placement.edge?

/-- The tables of the elements with the parents that the edges give them. -/
def linkedSchema (diagram : Diagram) : Schema :=
  (diagram.elementDraft.schema.followEdges diagram.edges).1

/-- The draft with the hierarchy, before structural relationships are added. -/
def joinedDraft (diagram : Diagram) : Draft :=
  let placements := diagram.placements.map PlacedRelationship.placement
  ((diagram.elementDraft.toDraft.blame (placements.flatMap Placement.faults)).note
    (placements.flatMap Placement.notes)).applyHierarchy diagram.edges

theorem joinedDraft_schema (diagram : Diagram) :
    diagram.joinedDraft.schema = diagram.linkedSchema.withoutCycles.fitChildren := by
  simp only [joinedDraft, Draft.applyHierarchy, Draft.note, Draft.blame, linkedSchema]

theorem joinedDraft_faults (diagram : Diagram) :
    diagram.joinedDraft.faults = diagram.elementDraft.faults ++
      (diagram.placements.map PlacedRelationship.placement).flatMap Placement.faults ++
      (diagram.elementDraft.schema.followEdges diagram.edges).2 ++
      diagram.linkedSchema.parentCycles.map ParentCycle.fault := rfl

theorem draft_eq_foldl (diagram : Diagram) :
    diagram.draft = diagram.placements.foldl Draft.addPlaced diagram.joinedDraft := rfl

theorem mem_storedElements_iff {element : Element} :
    element ∈ diagram.storedElements ↔
      element ∈ diagram.elements ∧ element.kind.isStored = true := by
  rw [storedElements, List.mem_filter]

theorem Stores.mem_elementIds {id table : String} (hstores : diagram.Stores id table) :
    id ∈ diagram.elementIds := by
  obtain ⟨element, hmem, hid, -⟩ := hstores
  exact hid ▸ List.mem_map_of_mem (mem_storedElements_iff.1 hmem).1

/-! ## Places -/

theorem lookup_tableOf_iff (hwell : diagram.ElementsWellFormed) {id table : String} :
    diagram.elementDraft.tableOf.lookup id = some table ↔ diagram.Stores id table := by
  have hdistinct : (diagram.elementDraft.tableOf.map Prod.fst).Nodup := by
    rw [(elementDraft_frame hwell).2.2, List.map_reverse, List.nodup_reverse, List.map_map]
    exact hwell.ids.sublist (List.filter_sublist.map Element.id)
  rw [Catalog.lookup_eq_some_iff_mem hdistinct, (elementDraft_frame hwell).2.2]
  simp [Stores]

theorem danglingFaults_eq_nil_iff {relationship : Relationship} {ids : List String} :
    relationship.danglingFaults ids = [] ↔
      relationship.sourceId ∈ ids ∧ relationship.targetId ∈ ids := by
  simp [Relationship.danglingFaults]

theorem placement_faults_eq_nil_iff {relationship : Relationship} {ids : List String}
    {tableOf : List (String × String)} :
    (relationship.placement ids tableOf).faults = [] ↔
      relationship.sourceId ∈ ids ∧ relationship.targetId ∈ ids := by
  rw [← danglingFaults_eq_nil_iff, Relationship.placement]
  cases relationship.danglingFaults ids with
  | cons fault faults => simp [Placement.faults]
  | nil =>
    simp only [iff_true]
    split <;> rfl

theorem placement_eq_hierarchy_iff (hwell : diagram.ElementsWellFormed)
    {relationship : Relationship} (edge : HierarchyEdge) :
    relationship.placement diagram.elementIds diagram.elementDraft.tableOf = .hierarchy edge ↔
      relationship.kind.family = .inheritance ∧ edge.relationship = relationship.id ∧
        diagram.Stores relationship.sourceId edge.child ∧
        diagram.Stores relationship.targetId edge.parent := by
  rw [← lookup_tableOf_iff hwell, ← lookup_tableOf_iff hwell]
  constructor
  · intro heq
    rw [Relationship.placement] at heq
    split at heq
    · cases heq
    · split at heq <;> cases heq
      exact ⟨by assumption, rfl, by assumption, by assumption⟩
  · rintro ⟨hfamily, hid, hchild, hparent⟩
    have hends : relationship.danglingFaults diagram.elementIds = [] :=
      danglingFaults_eq_nil_iff.2 ⟨((lookup_tableOf_iff hwell).1 hchild).mem_elementIds,
        ((lookup_tableOf_iff hwell).1 hparent).mem_elementIds⟩
    simp only [Relationship.placement, hends, hfamily, hchild, hparent, ← hid]

theorem placement_eq_structural_iff (hwell : diagram.ElementsWellFormed)
    {relationship : Relationship} {source target : String} :
    relationship.placement diagram.elementIds diagram.elementDraft.tableOf =
        .structural source target ↔
      relationship.kind.family = .structural ∧ diagram.Stores relationship.sourceId source ∧
        diagram.Stores relationship.targetId target := by
  rw [← lookup_tableOf_iff hwell, ← lookup_tableOf_iff hwell]
  constructor
  · intro heq
    rw [Relationship.placement] at heq
    split at heq
    · cases heq
    · split at heq <;> cases heq
      exact ⟨by assumption, by assumption, by assumption⟩
  · rintro ⟨hfamily, hsource, htarget⟩
    have hends : relationship.danglingFaults diagram.elementIds = [] :=
      danglingFaults_eq_nil_iff.2 ⟨((lookup_tableOf_iff hwell).1 hsource).mem_elementIds,
        ((lookup_tableOf_iff hwell).1 htarget).mem_elementIds⟩
    simp only [Relationship.placement, hends, hfamily, hsource, htarget]

theorem mem_placements_iff {placed : PlacedRelationship} :
    placed ∈ diagram.placements ↔ placed.relationship ∈ diagram.relationships ∧
      placed.placement =
        placed.relationship.placement diagram.elementIds diagram.elementDraft.tableOf := by
  rw [placements, placedRelationships, List.mem_map]
  constructor
  · rintro ⟨relationship, hmem, rfl⟩
    exact ⟨hmem, rfl⟩
  · rintro ⟨hmem, heq⟩
    exact ⟨placed.relationship, hmem, by rw [← heq]⟩

theorem placements_faults_eq_nil_iff :
    (diagram.placements.map PlacedRelationship.placement).flatMap Placement.faults = [] ↔
      ∀ relationship ∈ diagram.relationships, relationship.sourceId ∈ diagram.elementIds ∧
        relationship.targetId ∈ diagram.elementIds := by
  rw [List.flatMap_eq_nil_iff, List.forall_mem_map, placements, placedRelationships,
    List.forall_mem_map]
  exact forall₂_congr fun relationship _ => placement_faults_eq_nil_iff

/-! ## The hierarchy -/

theorem extends_iff (hwell : diagram.ElementsWellFormed) {child parent : String} :
    diagram.Extends child parent ↔
      ∃ edge ∈ diagram.edges, edge.child = child ∧ edge.parent = parent := by
  constructor
  · rintro ⟨relationship, hmem, hfamily, hchild, hparent⟩
    let edge : HierarchyEdge := { relationship := relationship.id, child, parent }
    have hplacement := (placement_eq_hierarchy_iff hwell edge).2
      ⟨hfamily, rfl, hchild, hparent⟩
    refine ⟨edge, ?_, rfl, rfl⟩
    rw [edges, List.mem_filterMap]
    refine ⟨.hierarchy edge, List.mem_map.2 ⟨⟨relationship, .hierarchy edge⟩, ?_, rfl⟩, rfl⟩
    exact mem_placements_iff.2 ⟨hmem, hplacement.symm⟩
  · rintro ⟨edge, hedge, rfl, rfl⟩
    obtain ⟨placement, hplacement, hisEdge⟩ := List.mem_filterMap.1 hedge
    obtain ⟨placed, hplaced, rfl⟩ := List.mem_map.1 hplacement
    obtain ⟨hmem, heq⟩ := mem_placements_iff.1 hplaced
    have hhierarchy : placed.placement = .hierarchy edge := by
      cases hcase : placed.placement with
      | hierarchy other =>
        rw [hcase, Placement.edge?, Option.some.injEq] at hisEdge
        rw [hisEdge]
      | _ => simp [hcase, Placement.edge?] at hisEdge
    obtain ⟨hfamily, -, hchild, hparent⟩ :=
      (placement_eq_hierarchy_iff hwell edge).1 (heq.symm.trans hhierarchy)
    exact ⟨placed.relationship, hmem, hfamily, hchild, hparent⟩

theorem mem_names_elementDraft_iff (hwell : diagram.ElementsWellFormed) {name : String} :
    name ∈ diagram.elementDraft.schema.tables.names ↔
      ∃ element ∈ diagram.storedElements, element.storedName = name := by
  rw [Catalog.names, (elementDraft_frame hwell).1, List.map_map, List.mem_map]
  rfl

theorem table?_elementDraft (hwell : diagram.ElementsWellFormed) {element : Element}
    (hmem : element ∈ diagram.storedElements) :
    diagram.elementDraft.schema.table? element.storedName =
      some (diagram.declaredTable element) := by
  apply Catalog.find?_eq_some_iff.2
  rw [(elementDraft_frame hwell).1]
  exact List.mem_map_of_mem hmem

theorem table?_elementDraft_eq_some (hwell : diagram.ElementsWellFormed) {name : String}
    {table : Table} (hfind : diagram.elementDraft.schema.table? name = some table) :
    ∃ element ∈ diagram.storedElements, element.storedName = name ∧
      diagram.declaredTable element = table := by
  have hmem := Catalog.find?_eq_some_iff.1 hfind
  rw [(elementDraft_frame hwell).1, List.mem_map] at hmem
  obtain ⟨element, helement, heq⟩ := hmem
  rw [Prod.mk.injEq] at heq
  exact ⟨element, helement, heq.1, heq.2⟩

theorem Stores.mem_names (hwell : diagram.ElementsWellFormed) {id table : String}
    (hstores : diagram.Stores id table) :
    table ∈ diagram.elementDraft.schema.tables.names := by
  obtain ⟨element, hmem, -, hname⟩ := hstores
  exact (mem_names_elementDraft_iff hwell).2 ⟨element, hmem, hname⟩

theorem parent?_linkedSchema (hwell : diagram.ElementsWellFormed) {name : String}
    (hname : name ∈ diagram.elementDraft.schema.tables.names) :
    diagram.linkedSchema.parent? name = parentIn diagram.edges name := by
  obtain ⟨element, hmem, rfl⟩ := (mem_names_elementDraft_iff hwell).1 hname
  rw [linkedSchema, Schema.parent?_followEdges _ hname, Schema.parent?,
    table?_elementDraft hwell hmem]
  rfl

/-- Every parent that a table gets is one that its element extends. -/
theorem extends_of_hasParent (hwell : diagram.ElementsWellFormed) {child parent : String}
    (hparent : diagram.linkedSchema.HasParent child parent) : diagram.Extends child parent := by
  have hname : child ∈ diagram.elementDraft.schema.tables.names := by
    rw [← (Schema.followEdges_frame diagram.edges _).1]
    exact hparent.mem_names
  rw [Schema.HasParent, parent?_linkedSchema hwell hname] at hparent
  exact (extends_iff hwell).2 (exists_edge_of_parentIn hparent)

/-- What the inheritance of a diagram must keep to. -/
structure HierarchyWellFormed (diagram : Diagram) : Prop where
  ownParent : ∀ child parent, diagram.Extends child parent → child ≠ parent
  oneParent : ∀ child left right, diagram.Extends child left → diagram.Extends child right →
    left = right
  acyclic : ∀ name, ¬ TransGen diagram.Extends name name

theorem followEdges_conflicts_eq_nil_iff (hwell : diagram.ElementsWellFormed) :
    (diagram.elementDraft.schema.followEdges diagram.edges).2 = [] ↔
      ∀ child parent, diagram.Extends child parent →
        child ≠ parent ∧ diagram.linkedSchema.HasParent child parent := by
  rw [Schema.followEdges_faults_eq_nil_iff]
  · constructor
    · intro hedges child parent hextends
      obtain ⟨edge, hmem, rfl, rfl⟩ := (extends_iff hwell).1 hextends
      exact hedges edge hmem
    · exact fun hall edge hmem => hall _ _ ((extends_iff hwell).2 ⟨edge, hmem, rfl, rfl⟩)
  · intro edge hmem
    obtain ⟨_, -, -, hchild, -⟩ := (extends_iff hwell).2 ⟨edge, hmem, rfl, rfl⟩
    exact hchild.mem_names hwell

theorem linkedSchema_hasParent_iff (hwell : diagram.ElementsWellFormed)
    (hhierarchy : diagram.HierarchyWellFormed) {child parent : String} :
    diagram.linkedSchema.HasParent child parent ↔ diagram.Extends child parent := by
  refine ⟨extends_of_hasParent hwell, fun hextends => ?_⟩
  have hne := hhierarchy.ownParent _ _ hextends
  obtain ⟨edge, hmem, rfl, rfl⟩ := (extends_iff hwell).1 hextends
  obtain ⟨parent, hparent⟩ := exists_parentIn_of_mem hmem hne
  have hhas : diagram.linkedSchema.HasParent edge.child parent := by
    obtain ⟨_, -, -, hchild, -⟩ := hextends
    rw [Schema.HasParent, parent?_linkedSchema hwell (hchild.mem_names hwell), hparent]
  rwa [hhierarchy.oneParent _ _ _ hextends (extends_of_hasParent hwell hhas)]

/-- Edges and cycles are without fault exactly if the inheritance of the diagram is well formed. -/
theorem hierarchy_faults_eq_nil_iff (hwell : diagram.ElementsWellFormed) :
    (diagram.elementDraft.schema.followEdges diagram.edges).2 = [] ∧
        diagram.linkedSchema.parentCycles = [] ↔ diagram.HierarchyWellFormed := by
  rw [Schema.parentCycles_eq_nil_iff]
  constructor
  · rintro ⟨hconflicts, hacyclic⟩
    rw [followEdges_conflicts_eq_nil_iff hwell] at hconflicts
    refine ⟨fun child parent hextends => (hconflicts child parent hextends).1, ?_, ?_⟩
    · intro child left right hleft hright
      exact Option.some.inj
        ((hconflicts child left hleft).2.symm.trans (hconflicts child right hright).2)
    · exact fun name hcycle => hacyclic name (TransGen.mono
        (fun child parent hextends => (hconflicts child parent hextends).2) _ _ hcycle)
  · intro hhierarchy
    rw [followEdges_conflicts_eq_nil_iff hwell]
    refine ⟨fun child parent hextends => ⟨hhierarchy.ownParent child parent hextends,
      (linkedSchema_hasParent_iff hwell hhierarchy).2 hextends⟩, fun name hcycle => ?_⟩
    exact hhierarchy.acyclic name
      (TransGen.mono (fun _ _ hparent => extends_of_hasParent hwell hparent) _ _ hcycle)

/-- What a diagram must keep to before its structural relationships are looked at. -/
structure JoinedWellFormed (diagram : Diagram) : Prop where
  elements : diagram.ElementsWellFormed
  ends : ∀ relationship ∈ diagram.relationships, relationship.sourceId ∈ diagram.elementIds ∧
    relationship.targetId ∈ diagram.elementIds
  hierarchy : diagram.HierarchyWellFormed

theorem joinedDraft_faults_eq_nil_iff :
    diagram.joinedDraft.faults = [] ↔ diagram.JoinedWellFormed := by
  rw [joinedDraft_faults, List.append_eq_nil_iff, List.append_eq_nil_iff, List.append_eq_nil_iff,
    List.map_eq_nil_iff, elementDraft_faults_eq_nil_iff, placements_faults_eq_nil_iff]
  constructor
  · rintro ⟨⟨⟨hwell, hends⟩, hconflicts⟩, hcycles⟩
    exact ⟨hwell, hends, (hierarchy_faults_eq_nil_iff hwell).1 ⟨hconflicts, hcycles⟩⟩
  · rintro ⟨hwell, hends, hhierarchy⟩
    obtain ⟨hconflicts, hcycles⟩ := (hierarchy_faults_eq_nil_iff hwell).2 hhierarchy
    exact ⟨⟨⟨hwell, hends⟩, hconflicts⟩, hcycles⟩

end Diagram

end ClassDiagram
