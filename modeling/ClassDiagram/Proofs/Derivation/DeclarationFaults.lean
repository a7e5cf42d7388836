import ClassDiagram.Proofs.Derivation.Acceptance
import ClassDiagram.Proofs.Outcomes

/-!
# Declarations that cannot be read

The faults of a derivation that blame a declaration come from the elements alone. Each of them names
a declaration that stands in an element of the diagram, and the reason why it cannot be read.
-/

namespace ClassDiagram

/-- The fault says that a declaration cannot be read. -/
def ModelFault.isMalformed : ModelFault → Bool
  | .malformedAttribute .. | .malformedMethod .. => true
  | _ => false

/-- A declaration of the element cannot be read for the reason that the fault gives. -/
inductive Element.Misdeclares (element : Element) : ModelFault → Prop
  | constant {declaration : String} {reason : DeclarationFault} (hkind : element.kind = .enumKind)
      (hmem : declaration ∈ element.attributes) (hread : readConstant declaration = .error reason) :
      Misdeclares element (.malformedAttribute declaration element.className reason)
  | attribute {declaration : String} {reason : DeclarationFault}
      (hkind : element.kind.isStored = true) (hmem : declaration ∈ element.attributes)
      (hread : Attribute.read declaration = .error reason) :
      Misdeclares element (.malformedAttribute declaration element.className reason)
  | method {signature : String} {reason : DeclarationFault}
      (hkind : element.kind.isStored = true) (hmem : signature ∈ element.methods)
      (hread : Method.read signature = .error reason) :
      Misdeclares element (.malformedMethod signature element.className reason)

/-- Every fault that blames a declaration blames one of the elements rightly. -/
def BlamesRightly (elements : List Element) (faults : List ModelFault) : Prop :=
  ∀ fault ∈ faults, fault.isMalformed = true → ∃ element ∈ elements, element.Misdeclares fault

theorem blamesRightly_append {elements : List Element} {faults others : List ModelFault} :
    BlamesRightly elements (faults ++ others) ↔
      BlamesRightly elements faults ∧ BlamesRightly elements others :=
  List.forall_mem_append

theorem blamesRightly_of_other {elements : List Element} {faults : List ModelFault}
    (hother : ∀ fault ∈ faults, fault.isMalformed = false) : BlamesRightly elements faults := by
  intro fault hfault hmalformed
  cases hmalformed.symm.trans (hother fault hfault)

/-! ## Faults of elements -/

namespace Element

variable {element : Element}

theorem misdeclares_of_mem_constantFaults (hkind : element.kind = .enumKind) {fault : ModelFault}
    (hfault : fault ∈ element.constantFaults) : element.Misdeclares fault := by
  obtain ⟨declaration, hmem, heq⟩ := List.mem_filterMap.1 hfault
  cases hread : readConstant declaration with
  | ok name => simp [hread] at heq
  | error reason =>
    simp only [hread, Option.some.injEq] at heq
    exact heq ▸ .constant hkind hmem hread

theorem misdeclares_of_mem_methodFaults (hkind : element.kind.isStored = true)
    {fault : ModelFault} (hfault : fault ∈ element.methodFaults) : element.Misdeclares fault := by
  obtain ⟨signature, hmem, heq⟩ := List.mem_filterMap.1 hfault
  cases hread : Method.read signature with
  | ok method => simp [hread] at heq
  | error reason =>
    simp only [hread, Option.some.injEq] at heq
    exact heq ▸ .method hkind hmem hread

theorem readAttribute_error_cases {enums : Catalog EnumType} {declaration : String}
    {fault : ModelFault} (herror : element.readAttribute enums declaration = .error fault) :
    fault.isMalformed = false ∨ ∃ reason, Attribute.read declaration = .error reason ∧
      fault = .malformedAttribute declaration element.className reason := by
  rw [readAttribute] at herror
  split at herror
  · rename_i reason hread
    exact .inr ⟨reason, hread, (Except.error.inj herror).symm⟩
  · split at herror
    · cases herror
    · cases herror
      exact .inl rfl

theorem blamesRightly_declaredColumns (hkind : element.kind.isStored = true)
    (enums : Catalog EnumType) (table : String) (columns : List Column)
    {declarations : List String} (hmem : ∀ declaration ∈ declarations,
      declaration ∈ element.attributes) :
    BlamesRightly [element] (element.declaredColumns enums table columns declarations).2 := by
  induction declarations generalizing columns with
  | nil => exact List.forall_mem_nil _
  | cons declaration rest ih =>
    rw [List.forall_mem_cons] at hmem
    rw [declaredColumns]
    cases hread : element.readAttribute enums declaration with
    | error fault =>
      refine List.forall_mem_cons.2 ⟨fun hmalformed => ?_, ih columns hmem.2⟩
      refine ⟨element, List.mem_singleton_self element, ?_⟩
      rcases readAttribute_error_cases hread with hother | ⟨reason, hreason, rfl⟩
      · cases hmalformed.symm.trans hother
      · exact .attribute hkind hmem.1 hreason
    | ok typed =>
      dsimp only
      split
      · exact List.forall_mem_cons.2 ⟨fun hmalformed => absurd hmalformed Bool.false_ne_true,
          ih columns hmem.2⟩
      · exact ih _ hmem.2

theorem blamesRightly_table (hkind : element.kind.isStored = true) (enums : Catalog EnumType) :
    BlamesRightly [element] (element.table enums).2 := by
  rw [show (element.table enums).2 = (element.declaredColumns enums element.storedName []
    element.attributes).2 ++ element.methodFaults from rfl, blamesRightly_append]
  refine ⟨blamesRightly_declaredColumns hkind enums _ [] fun _ hmem => hmem, ?_⟩
  exact fun fault hfault _ => ⟨element, List.mem_singleton_self element,
    misdeclares_of_mem_methodFaults hkind hfault⟩

end Element

theorem BlamesRightly.of_subset {elements others : List Element} {faults : List ModelFault}
    (hblames : BlamesRightly elements faults) (hsubset : elements ⊆ others) :
    BlamesRightly others faults := by
  intro fault hfault hmalformed
  obtain ⟨element, hmem, hmisdeclares⟩ := hblames fault hfault hmalformed
  exact ⟨element, hsubset hmem, hmisdeclares⟩

/-! ## Faults of the run -/

theorem TableDraft.blamesRightly_foldl_addTable {all : List Element} (elements : List Element)
    (hstored : ∀ element ∈ elements, element ∈ all ∧ element.kind.isStored = true)
    {draft : TableDraft} (hblames : BlamesRightly all draft.faults) :
    BlamesRightly all (elements.foldl addTable draft).faults := by
  induction elements generalizing draft with
  | nil => exact hblames
  | cons element rest ih =>
    rw [List.forall_mem_cons] at hstored
    apply ih hstored.2
    by_cases hused : element.storedName ∈ draft.schema.tables.names
    · obtain ⟨existing, heq⟩ := addTable_of_used hused
      rw [heq]
      refine blamesRightly_append.2 ⟨hblames, blamesRightly_of_other ?_⟩
      exact List.forall_mem_singleton.2 rfl
    · rw [(addTable_of_new hused).2.1]
      refine blamesRightly_append.2 ⟨hblames, ?_⟩
      exact (Element.blamesRightly_table hstored.1.2 _).of_subset
        fun other hother => List.mem_singleton.1 hother ▸ hstored.1.1

theorem Table.isMalformed_of_key {table : Table} {fault : ModelFault}
    (herror : table.key = .error fault) : fault.isMalformed = false := by
  rw [Table.key] at herror
  split at herror <;> cases herror
  rfl

theorem isMalformed_of_foreignKeyAddition {id : String} {owner referenced : Table}
    {cardinality : Cardinality} {unique : Bool} {fault : ModelFault}
    (herror : foreignKeyAddition id owner referenced cardinality unique = .error fault) :
    fault.isMalformed = false := by
  rcases bind_eq_error herror with hcolumn | ⟨column, -, hnone⟩
  · rcases bind_eq_error hcolumn with hkey | ⟨key, -, hnone⟩
    · exact Table.isMalformed_of_key hkey
    · cases hnone
  · cases hnone

theorem isMalformed_of_joinColumn {side : Table} {taken : List String} {fault : ModelFault}
    (herror : joinColumn side taken = .error fault) : fault.isMalformed = false := by
  rcases bind_eq_error herror with hkey | ⟨key, -, hnone⟩
  · exact Table.isMalformed_of_key hkey
  · cases hnone

theorem isMalformed_of_joinTableAddition {id : String} {source target : Table}
    {taken : List String} {fault : ModelFault}
    (herror : joinTableAddition id source target taken = .error fault) :
    fault.isMalformed = false := by
  rcases bind_eq_error herror with htable | ⟨table, -, hnone⟩
  · rcases bind_eq_error htable with hfirst | ⟨first, -, hrest⟩
    · exact isMalformed_of_joinColumn hfirst
    · rcases bind_eq_error hrest with hsecond | ⟨second, -, hnone⟩
      · exact isMalformed_of_joinColumn hsecond
      · cases hnone
  · cases hnone

theorem Relationship.isMalformed_of_addition {relationship : Relationship} {source target : Table}
    {taken : List String} {fault : ModelFault}
    (herror : relationship.addition source target taken = .error fault) :
    fault.isMalformed = false := by
  rcases bind_eq_error herror with hcardinalities | ⟨ends, -, haddition⟩
  · rw [cardinalities] at hcardinalities
    split at hcardinalities <;> cases hcardinalities
    rfl
  · dsimp only at haddition
    split at haddition
    · exact isMalformed_of_foreignKeyAddition haddition
    · exact isMalformed_of_foreignKeyAddition haddition
    · exact isMalformed_of_foreignKeyAddition haddition
    · exact isMalformed_of_joinTableAddition haddition

theorem Draft.blamesRightly_foldl_addPlaced {all : List Element}
    (placed : List PlacedRelationship) {draft : Draft} (hblames : BlamesRightly all draft.faults) :
    BlamesRightly all (placed.foldl addPlaced draft).faults := by
  induction placed generalizing draft with
  | nil => exact hblames
  | cons first rest ih =>
    apply ih
    rw [addPlaced]
    split
    · split
      · rw [addRelationship]
        split
        · exact hblames
        · rename_i herror
          refine blamesRightly_append.2 ⟨hblames, blamesRightly_of_other ?_⟩
          exact List.forall_mem_singleton.2 (Relationship.isMalformed_of_addition herror)
      · exact hblames
    · exact hblames

namespace Diagram

variable {diagram : Diagram}

theorem blamesRightly_elementDraft (diagram : Diagram) :
    BlamesRightly diagram.elements diagram.elementDraft.faults := by
  have hids : ∀ elements seen, ∀ fault ∈ duplicateIds seen elements,
      fault.isMalformed = false := by
    intro elements
    induction elements with
    | nil => exact fun _ => List.forall_mem_nil _
    | cons element rest ih =>
      intro seen
      rw [duplicateIds, List.forall_mem_append]
      refine ⟨?_, ih _⟩
      split
      · exact List.forall_mem_singleton.2 rfl
      · exact List.forall_mem_nil _
  apply TableDraft.blamesRightly_foldl_addTable
  · exact fun element hmem => mem_storedElements_iff.1 hmem
  · change BlamesRightly diagram.elements diagram.enumDraft.faults
    rw [(enumDraft_frame diagram).1, blamesRightly_append]
    refine ⟨blamesRightly_of_other (hids _ _), fun fault hfault _ => ?_⟩
    obtain ⟨element, hmem, hconstants⟩ := List.mem_flatMap.1 hfault
    obtain ⟨hmem, hkind⟩ := List.mem_filter.1 hmem
    exact ⟨element, hmem, Element.misdeclares_of_mem_constantFaults (beq_iff_eq.1 hkind) hconstants⟩

theorem isMalformed_of_mem_placement {relationship : Relationship} {ids : List String}
    {tableOf : List (String × String)} :
    ∀ fault ∈ (relationship.placement ids tableOf).faults, fault.isMalformed = false := by
  have hdangling : ∀ fault ∈ relationship.danglingFaults ids, fault.isMalformed = false := by
    intro fault hfault
    obtain ⟨endpoint, -, heq⟩ := List.mem_filterMap.1 hfault
    split at heq <;> cases heq
    rfl
  rw [Relationship.placement]
  split
  · rename_i first others heq
    rw [heq] at hdangling
    exact hdangling
  · split <;> exact List.forall_mem_nil _

theorem isMalformed_of_mem_followEdges (edges : List HierarchyEdge) (schema : Schema) :
    ∀ fault ∈ (schema.followEdges edges).2, fault.isMalformed = false := by
  induction edges generalizing schema with
  | nil => exact List.forall_mem_nil _
  | cons edge rest ih =>
    rw [Schema.followEdges]
    split
    · exact ih _
    · rename_i fault herror
      refine List.forall_mem_cons.2 ⟨?_, ih schema⟩
      rw [Schema.followEdge] at herror
      split_ifs at herror
      · cases herror
        rfl
      · split at herror
        · cases herror
        · split_ifs at herror
          cases herror
          rfl

theorem blamesRightly_joinedDraft (diagram : Diagram) :
    BlamesRightly diagram.elements diagram.joinedDraft.faults := by
  rw [joinedDraft_faults]
  simp only [blamesRightly_append]
  refine ⟨⟨⟨blamesRightly_elementDraft diagram, ?_⟩, ?_⟩, ?_⟩
  · apply blamesRightly_of_other
    intro fault hfault
    obtain ⟨placement, hplacement, hmem⟩ := List.mem_flatMap.1 hfault
    obtain ⟨placed, hplaced, rfl⟩ := List.mem_map.1 hplacement
    rw [(mem_placements_iff.1 hplaced).2] at hmem
    exact isMalformed_of_mem_placement fault hmem
  · exact blamesRightly_of_other (isMalformed_of_mem_followEdges _ _)
  · apply blamesRightly_of_other
    exact List.forall_mem_map.2 fun _ _ => rfl

/-- If a diagram is refused because of a declaration, one of its elements has that declaration. -/
theorem blamesRightly_of_schema {faults : List ModelFault}
    (hrefused : diagram.schema = .error faults) : BlamesRightly diagram.elements faults := by
  have hfaults : diagram.draft.faults = faults := by
    rw [Diagram.schema, derive, Draft.finish] at hrefused
    split_ifs at hrefused
    exact Except.error.inj hrefused
  rw [← hfaults]
  exact Draft.blamesRightly_foldl_addPlaced diagram.placements (blamesRightly_joinedDraft diagram)

end Diagram

end ClassDiagram
