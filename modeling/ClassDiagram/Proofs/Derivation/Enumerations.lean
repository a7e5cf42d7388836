import ClassDiagram.Proofs.Derivation.Soundness
import ClassDiagram.Proofs.Schema.Increment

/-!
# Enumerations of derived schemas

The enumerations are complete before the first table is made; nothing that comes later touches
them.
-/

namespace ClassDiagram

open Text

namespace Draft

theorem enums_addPlaced (draft : Draft) (placed : PlacedRelationship) :
    (draft.addPlaced placed).schema.enums = draft.schema.enums := by
  rw [addPlaced]
  split
  · split
    · rw [addRelationship]
      split
      · rename_i addition _
        cases addition <;> rfl
      · rfl
    · rfl
  · rfl

theorem enums_foldl_addPlaced (placed : List PlacedRelationship) (draft : Draft) :
    (placed.foldl addPlaced draft).schema.enums = draft.schema.enums := by
  induction placed generalizing draft with
  | nil => rfl
  | cons first rest ih => rw [List.foldl_cons, ih, enums_addPlaced]

end Draft

namespace Diagram

variable {diagram : Diagram} {schema : Schema}

theorem enums_of_schema (haccepted : diagram.schema = .ok schema) :
    schema.enums = diagram.enumDraft.schema.enums := by
  have hwell := joinedWellFormed_of_schema haccepted
  have helements : diagram.elementDraft.schema.enums = diagram.enumDraft.schema.enums :=
    (TableDraft.foldl_addTable_frame diagram.storedElements
      { toDraft := diagram.enumDraft, tableOf := [] } hwell.elements.tables
      (by simp [diagram.enumDraft_frame.2.1])).2.2.1
  have hlinked : diagram.linkedSchema.enums = diagram.elementDraft.schema.enums :=
    (Schema.followEdges_frame _ _).2.2.1
  have hjoined : diagram.joinedDraft.schema.enums = diagram.linkedSchema.enums := by
    rw [hwell.schema_eq]
    rfl
  calc
    schema.enums = diagram.draft.schema.enums := by rw [(schema_eq_ok_iff.1 haccepted).2]
    _ = diagram.joinedDraft.schema.enums :=
      Draft.enums_foldl_addPlaced diagram.placements diagram.joinedDraft
    _ = diagram.enumDraft.schema.enums := by rw [hjoined, hlinked, helements]

theorem find?_enums_of_schema (haccepted : diagram.schema = .ok schema) (name : String) :
    schema.enums.find? name = (diagram.enumElements.find? fun element =>
      name == trimmed element.className).map Element.enumType := by
  rw [enums_of_schema haccepted, enumDraft, Draft.find?_enums_foldl_addEnum, startDraft,
    Schema.empty, Catalog.find?_empty, Option.none_or]

/-- Enumerations with different names are all found. -/
theorem find?_enums_eq_some_iff (haccepted : diagram.schema = .ok schema)
    (hdistinct : (diagram.enumElements.map fun element => trimmed element.className).Nodup)
    {name : String} {enumType : EnumType} :
    schema.enums.find? name = some enumType ↔
      ∃ element ∈ diagram.enumElements,
        trimmed element.className = name ∧ element.enumType = enumType := by
  rw [find?_enums_of_schema haccepted, Option.map_eq_some_iff]
  constructor
  · rintro ⟨element, hfind, rfl⟩
    have hname := List.find?_some hfind
    rw [beq_iff_eq] at hname
    exact ⟨element, List.mem_of_find?_eq_some hfind, hname.symm, rfl⟩
  · rintro ⟨element, hmem, rfl, rfl⟩
    refine ⟨element, ?_, rfl⟩
    cases hfind : diagram.enumElements.find? fun other =>
        trimmed element.className == trimmed other.className with
    | none =>
      rw [List.find?_eq_none] at hfind
      exact absurd (beq_self_eq_true _) (hfind element hmem)
    | some found =>
      have hname := List.find?_some hfind
      rw [beq_iff_eq] at hname
      rw [List.inj_on_of_nodup_map hdistinct (List.mem_of_find?_eq_some hfind) hmem hname.symm]

theorem enumsStoredByName_of_schema (haccepted : diagram.schema = .ok schema) :
    schema.EnumsStoredByName := by
  intro entry hentry
  rw [← Catalog.find?_eq_some_iff, find?_enums_of_schema haccepted,
    Option.map_eq_some_iff] at hentry
  obtain ⟨element, hfind, heq⟩ := hentry
  have hname := List.find?_some hfind
  rw [beq_iff_eq] at hname
  rw [← heq, hname, Element.enumType]

/-- The enumerations of the schema are those of the diagram, whose names are trimmed only. -/
theorem exists_enumType_iff (haccepted : diagram.schema = .ok schema) {name : String} :
    (∃ enumType ∈ schema.enums.values, enumType.name = name) ↔ diagram.NamesEnum name := by
  have hfind := find?_enums_of_schema haccepted
  constructor
  · rintro ⟨enumType, hmem, rfl⟩
    obtain ⟨stored, hstored⟩ := Catalog.mem_values_iff.1 hmem
    rw [hfind, Option.map_eq_some_iff] at hstored
    obtain ⟨element, helement, rfl⟩ := hstored
    exact ⟨element, List.mem_of_find?_eq_some helement, rfl⟩
  · rintro ⟨element, hmem, rfl⟩
    have hsome : (diagram.enumElements.find? fun other =>
        trimmed element.className == trimmed other.className).isSome := by
      rw [List.find?_isSome]
      exact ⟨element, hmem, beq_self_eq_true _⟩
    obtain ⟨found, hfound⟩ := Option.isSome_iff_exists.1 hsome
    have hname := List.find?_some hfound
    rw [beq_iff_eq] at hname
    refine ⟨found.enumType, Catalog.mem_values_iff.2 ⟨trimmed element.className, ?_⟩, hname.symm⟩
    rw [hfind, hfound, Option.map_some]

end Diagram

end ClassDiagram
