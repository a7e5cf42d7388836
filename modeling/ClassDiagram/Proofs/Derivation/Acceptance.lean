import ClassDiagram.Proofs.Derivation.Additions
import ClassDiagram.Proofs.Derivation.Joined

/-!
# Which diagrams have a schema

A diagram has a schema exactly if it is well formed, and well-formedness speaks of the diagram
alone: of ids, declarations, names, ends, inheritance and cardinalities. The passes of the
derivation do not hide faults from one another, for none of them takes a fault back.
-/

namespace ClassDiagram

open Text Relation

/-! ## Faults stay -/

namespace Draft

theorem exists_faults_addPlaced (draft : Draft) (placed : PlacedRelationship) :
    ∃ faults, (draft.addPlaced placed).faults = draft.faults ++ faults := by
  rw [addPlaced]
  split
  · split
    · rw [addRelationship]
      split
      · exact ⟨[], (List.append_nil _).symm⟩
      · exact ⟨_, rfl⟩
    · exact ⟨[], (List.append_nil _).symm⟩
  · exact ⟨[], (List.append_nil _).symm⟩

theorem faults_eq_nil_of_foldl_addPlaced (placed : List PlacedRelationship) (draft : Draft)
    (hfaults : (placed.foldl addPlaced draft).faults = []) : draft.faults = [] := by
  induction placed generalizing draft with
  | nil => exact hfaults
  | cons first rest ih =>
    obtain ⟨faults, heq⟩ := draft.exists_faults_addPlaced first
    have hfirst := ih _ hfaults
    rw [heq, List.append_eq_nil_iff] at hfirst
    exact hfirst.1

end Draft

namespace Diagram

variable {diagram : Diagram} {schema : Schema}

theorem schema_eq_ok_iff :
    diagram.schema = .ok schema ↔ diagram.draft.faults = [] ∧ diagram.draft.schema = schema := by
  rw [Diagram.schema, derive, Draft.finish]
  cases diagram.draft.faults <;> simp

/-! ## The run over the relationships -/

theorem JoinedWellFormed.sound (hwell : diagram.JoinedWellFormed) :
    diagram.joinedDraft.schema.Sound :=
  ⟨hwell.keepsRules, hwell.keysAgree⟩

theorem Stores.hasElementTable (hwell : diagram.JoinedWellFormed) {id table : String}
    (hstores : diagram.Stores id table) :
    diagram.joinedDraft.schema.HasElementTable table := by
  obtain ⟨element, hmem, -, rfl⟩ := hstores
  exact ⟨_, hwell.table?_eq hmem,
    hwell.flat.isJoin_fit (table?_linkedSchema hwell.elements hmem)⟩

theorem placements_lieIn (hwell : diagram.JoinedWellFormed) :
    ∀ placed ∈ diagram.placements, placed.LiesIn diagram.joinedDraft.schema := by
  intro placed hplaced source target hplacement
  obtain ⟨-, heq⟩ := mem_placements_iff.1 hplaced
  obtain ⟨-, hsource, htarget⟩ :=
    (placement_eq_structural_iff hwell.elements).1 (heq.symm.trans hplacement)
  exact ⟨hsource.hasElementTable hwell, htarget.hasElementTable hwell⟩

theorem JoinedWellFormed.adds (hwell : diagram.JoinedWellFormed) :
    diagram.joinedDraft.Adds (diagram.placements.filterMap PlacedRelationship.keyPlace?)
      (diagram.placements.flatMap PlacedRelationship.faults) diagram.draft :=
  Draft.adds_foldl_addPlaced diagram.placements diagram.joinedDraft hwell.sound
    (placements_lieIn hwell)

theorem cardinalities_eq_error_iff (relationship : Relationship) :
    (∃ fault, relationship.cardinalities = .error fault) ↔
      ¬ ((Cardinality.ofText? relationship.sourceCardinality).isSome ∧
        (Cardinality.ofText? relationship.targetCardinality).isSome) := by
  rw [Relationship.cardinalities]
  cases Cardinality.ofText? relationship.sourceCardinality <;>
    cases Cardinality.ofText? relationship.targetCardinality <;> simp

theorem faults_eq_nil_iff_of_placed {placed : PlacedRelationship} :
    placed.faults = [] ↔ ∀ source target, placed.placement = .structural source target →
      (Cardinality.ofText? placed.relationship.sourceCardinality).isSome ∧
        (Cardinality.ofText? placed.relationship.targetCardinality).isSome := by
  have hreadable := cardinalities_eq_error_iff placed.relationship
  rw [PlacedRelationship.faults]
  cases placed.placement with
  | structural source target =>
    cases hends : placed.relationship.cardinalities with
    | error fault =>
      have hnot := hreadable.1 ⟨fault, hends⟩
      simpa using hnot
    | ok ends =>
      have hnot : ¬ ∃ fault, placed.relationship.cardinalities = .error fault := by simp [hends]
      rw [hreadable, Classical.not_not] at hnot
      simpa using hnot
  | _ => simp

/-! ## Well-formed diagrams -/

/-- An element with this id is stored in a table. -/
def IsStored (diagram : Diagram) (id : String) : Prop :=
  ∃ element ∈ diagram.storedElements, element.id = id

theorem isStored_iff {id : String} : diagram.IsStored id ↔ ∃ table, diagram.Stores id table := by
  constructor
  · rintro ⟨element, hmem, hid⟩
    exact ⟨_, element, hmem, hid, rfl⟩
  · rintro ⟨table, element, hmem, hid, -⟩
    exact ⟨element, hmem, hid⟩

/-- Everything that a diagram must keep to. -/
structure WellFormed (diagram : Diagram) : Prop where
  ids : (diagram.elements.map Element.id).Nodup
  constants : ∀ element ∈ diagram.enumElements, ∀ declaration ∈ element.attributes,
    ∃ name, readConstant declaration = .ok name
  tables : (diagram.storedElements.map fun element => tableName element.className).Nodup
  attributes : ∀ element ∈ diagram.storedElements, ∀ declaration ∈ element.attributes,
    ∃ declared, Attribute.read declaration = .ok declared ∧
      ((∃ enumeration ∈ diagram.enumElements,
        trimmed enumeration.className = declared.typeToken) ∨
          (ClassDiagram.typing? declared.typeToken).isSome)
  columns : ∀ element ∈ diagram.storedElements,
    ((element.attributes.filterMap fun declaration => (Attribute.read declaration).toOption).map
      fun declared => columnName declared.name).Nodup
  methods : ∀ element ∈ diagram.storedElements, ∀ signature ∈ element.methods,
    ∃ method, Method.read signature = .ok method
  ends : ∀ relationship ∈ diagram.relationships,
    relationship.sourceId ∈ diagram.elementIds ∧ relationship.targetId ∈ diagram.elementIds
  ownParent : ∀ child parent, diagram.Extends child parent → child ≠ parent
  oneParent : ∀ child left right, diagram.Extends child left → diagram.Extends child right →
    left = right
  acyclic : ∀ name, ¬ TransGen diagram.Extends name name
  cardinalities : ∀ relationship ∈ diagram.relationships,
    relationship.kind.family = .structural → diagram.IsStored relationship.sourceId →
      diagram.IsStored relationship.targetId →
        (Cardinality.ofText? relationship.sourceCardinality).isSome ∧
          (Cardinality.ofText? relationship.targetCardinality).isSome

theorem map_column_attributesOf {element : Element}
    (htyped : ∀ declaration ∈ element.attributes, ∃ declared,
      Attribute.read declaration = .ok declared ∧
        (diagram.NamesEnum declared.typeToken ∨
          (ClassDiagram.typing? declared.typeToken).isSome)) :
    (diagram.attributesOf element).map TypedAttribute.column =
      (element.attributes.filterMap fun declaration =>
        (Attribute.read declaration).toOption).map fun declared => columnName declared.name := by
  rw [attributesOf, List.map_filterMap, List.map_filterMap]
  apply List.filterMap_congr
  intro declaration hmem
  obtain ⟨declared, hread, htoken⟩ := htyped declaration hmem
  have htyping : ∃ typing, diagram.typing? declared.typeToken = some typing := by
    rw [← Option.isSome_iff_exists, typing?]
    split
    · rfl
    · exact htoken.resolve_left (by assumption)
  obtain ⟨typing, htyping⟩ := htyping
  simp [hread, Except.toOption, htyping, TypedAttribute.column]

theorem wellFormed_iff : diagram.WellFormed ↔ diagram.JoinedWellFormed ∧
    diagram.placements.flatMap PlacedRelationship.faults = [] := by
  rw [List.flatMap_eq_nil_iff]
  constructor
  · intro hwell
    have helements : diagram.ElementsWellFormed :=
      ⟨hwell.ids, hwell.constants, hwell.tables, hwell.attributes, fun element hmem =>
        map_column_attributesOf (hwell.attributes element hmem) ▸ hwell.columns element hmem,
        hwell.methods⟩
    refine ⟨⟨helements, hwell.ends, hwell.ownParent, hwell.oneParent, hwell.acyclic⟩, ?_⟩
    intro placed hplaced
    obtain ⟨hmem, heq⟩ := mem_placements_iff.1 hplaced
    rw [faults_eq_nil_iff_of_placed]
    intro source target hplacement
    obtain ⟨hfamily, hsource, htarget⟩ :=
      (placement_eq_structural_iff helements).1 (heq.symm.trans hplacement)
    exact hwell.cardinalities _ hmem hfamily (isStored_iff.2 ⟨source, hsource⟩)
      (isStored_iff.2 ⟨target, htarget⟩)
  · rintro ⟨⟨helements, hends, hhierarchy⟩, hfaults⟩
    refine ⟨helements.ids, helements.constants, helements.tables, helements.attributes,
      fun element hmem => ?_, helements.methods, hends, hhierarchy.ownParent,
      hhierarchy.oneParent, hhierarchy.acyclic, ?_⟩
    · rw [← map_column_attributesOf (helements.attributes element hmem)]
      exact helements.columns element hmem
    · intro relationship hmem hfamily hsource htarget
      obtain ⟨source, hsource⟩ := isStored_iff.1 hsource
      obtain ⟨target, htarget⟩ := isStored_iff.1 htarget
      have hplacement := (placement_eq_structural_iff helements).2 ⟨hfamily, hsource, htarget⟩
      let placed : PlacedRelationship := { relationship, placement := .structural source target }
      have hplaced : placed ∈ diagram.placements :=
        mem_placements_iff.2 ⟨hmem, hplacement.symm⟩
      have hreadable := faults_eq_nil_iff_of_placed.1 (hfaults placed hplaced)
      exact hreadable source target rfl

theorem draft_faults_eq_nil_iff : diagram.draft.faults = [] ↔ diagram.WellFormed := by
  rw [wellFormed_iff]
  constructor
  · intro hfaults
    have hwell : diagram.JoinedWellFormed := joinedDraft_faults_eq_nil_iff.1
      (Draft.faults_eq_nil_of_foldl_addPlaced diagram.placements _ hfaults)
    rw [hwell.adds.faults, List.append_eq_nil_iff] at hfaults
    exact ⟨hwell, hfaults.2⟩
  · rintro ⟨hwell, hfaults⟩
    rw [hwell.adds.faults, joinedDraft_faults_eq_nil_iff.2 hwell, hfaults, List.append_nil]

theorem wellFormed_of_schema {schema : Schema} (haccepted : diagram.schema = .ok schema) :
    diagram.WellFormed :=
  draft_faults_eq_nil_iff.1 (schema_eq_ok_iff.1 haccepted).1

theorem WellFormed.exists_schema (hwell : diagram.WellFormed) :
    ∃ schema, diagram.schema = .ok schema :=
  ⟨_, schema_eq_ok_iff.2 ⟨draft_faults_eq_nil_iff.2 hwell, rfl⟩⟩

/-- The diagrams that have a schema are those that are well formed. -/
theorem exists_schema_iff_wellFormed :
    (∃ schema, diagram.schema = .ok schema) ↔ diagram.WellFormed := by
  simp only [schema_eq_ok_iff, exists_and_left, exists_eq', and_true, draft_faults_eq_nil_iff]

end Diagram

end ClassDiagram
