import ClassDiagram.Proofs.Outcomes
import ClassDiagram.Proofs.Derivation.Enumerations

/-!
# Enumerations with one name

The schema has an enumeration for every name that an enumeration of the diagram has when it is
trimmed. Where several have one name the first of them counts, and no fault is reported for the
others.
-/

namespace ClassDiagram

open Text

/-- The first element of each trimmed name, in their order. -/
def firstNamed (elements : List Element) : List Element :=
  elements.eraseDupsBy fun later earlier => trimmed later.className == trimmed earlier.className

/-- The constants are the names that the element declares, each where it is declared first. -/
def Element.Declares (element : Element) (constants : List String) : Prop :=
  ∃ names, List.Forall₂ (fun declaration name => readConstant declaration = .ok name)
    element.attributes names ∧ constants = names.eraseDups

/-- The entry stands under the trimmed name of the element and has the constants it declares. -/
structure Element.IsStoredAs (element : Element) (entry : String × EnumType) : Prop where
  key : entry.1 = trimmed element.className
  name : entry.2.name = trimmed element.className
  constants : element.Declares entry.2.constants

theorem firstNamed_cons (element : Element) (rest : List Element) :
    firstNamed (element :: rest) = element :: firstNamed (rest.filter fun other =>
      trimmed other.className != trimmed element.className) := by
  rw [firstNamed, List.eraseDupsBy_cons, firstNamed]
  simp only [bne, Bool.decide_eq_false]

theorem find?_filter_className (elements : List Element) (name other : String) :
    (elements.filter fun element => trimmed element.className != other).find?
        (fun element => name == trimmed element.className) =
      if name = other then none
      else elements.find? fun element => name == trimmed element.className := by
  rw [List.find?_filter]
  split
  · rename_i hname
    rw [List.find?_eq_none]
    intro element _
    simp only [decide_eq_true_eq, bne_iff_ne, beq_iff_eq, not_and, hname]
    exact fun hne heq => hne heq.symm
  · rename_i hname
    apply congrArg fun test => elements.find? test
    funext element
    by_cases helement : name = trimmed element.className
    · simp [← helement, hname]
    · simp [helement]

/-- The elements that stay are those that are found when their name is looked for. -/
theorem mem_firstNamed_iff (elements : List Element) {element : Element} :
    element ∈ firstNamed elements ↔ elements.find? (fun other =>
      trimmed element.className == trimmed other.className) = some element := by
  match elements with
  | [] => simp [firstNamed]
  | first :: rest =>
    rw [firstNamed_cons, List.mem_cons, mem_firstNamed_iff, find?_filter_className,
      List.find?_cons]
    by_cases hname : trimmed element.className = trimmed first.className
    · rw [if_pos hname, beq_iff_eq.2 hname, or_iff_left (Option.some_ne_none element).symm,
        Option.some.injEq, eq_comm]
    · have hfirst : element ≠ first := fun heq => hname (heq ▸ rfl)
      rw [if_neg hname, beq_false_of_ne hname, or_iff_right hfirst]
termination_by elements.length
decreasing_by exact Nat.lt_succ_of_le (List.length_filter_le _ rest)

theorem firstNamed_sublist (elements : List Element) : (firstNamed elements).Sublist elements := by
  match elements with
  | [] => exact .slnil
  | first :: rest =>
    rw [firstNamed_cons]
    exact .cons_cons first ((firstNamed_sublist _).trans List.filter_sublist)
termination_by elements.length
decreasing_by exact Nat.lt_succ_of_le (List.length_filter_le _ rest)

theorem firstNamed_eq_self {elements : List Element}
    (hdistinct : (elements.map fun element => trimmed element.className).Nodup) :
    firstNamed elements = elements := by
  induction elements with
  | nil => rfl
  | cons element rest ih =>
    rw [List.map_cons, List.nodup_cons] at hdistinct
    have hrest : (rest.filter fun other =>
        trimmed other.className != trimmed element.className) = rest := by
      rw [List.filter_eq_self]
      intro other hother
      rw [bne_iff_ne]
      exact fun hname => hdistinct.1 (hname ▸ List.mem_map_of_mem hother)
    rw [firstNamed_cons, hrest, ih hdistinct.2]

/-- The elements whose names are new give the new entries. -/
theorem Draft.entries_enums_foldl_addEnum (elements : List Element) (draft : Draft) :
    (elements.foldl addEnum draft).schema.enums.entries = draft.schema.enums.entries ++
      (firstNamed (elements.filter fun element =>
        !draft.schema.enums.contains (trimmed element.className))).map fun element =>
          (trimmed element.className, element.enumType) := by
  induction elements generalizing draft with
  | nil => exact (List.append_nil _).symm
  | cons element rest ih =>
    rw [List.foldl_cons, ih, List.filter_cons]
    by_cases hused : trimmed element.className ∈ draft.schema.enums.names
    · rw [schema_addEnum_of_mem hused, Catalog.contains_iff.2 hused]
      rfl
    · have hcontains : draft.schema.enums.contains (trimmed element.className) = false :=
        Bool.eq_false_iff.2 fun hmem => hused (Catalog.contains_iff.1 hmem)
      have hrest : (rest.filter fun other =>
          !(draft.addEnum element).schema.enums.contains (trimmed other.className)) =
          (rest.filter fun other =>
            !draft.schema.enums.contains (trimmed other.className)).filter fun other =>
              trimmed other.className != trimmed element.className := by
        rw [List.filter_filter]
        apply List.filter_congr
        intro other _
        rw [enums_addEnum_of_not_mem hused, Bool.eq_iff_iff]
        simp [Catalog.mem_names_insert, Bool.eq_false_iff]
      rw [hrest, hcontains, enums_addEnum_of_not_mem hused,
        Catalog.entries_insert_of_not_mem _ hused]
      simp [firstNamed_cons]

namespace Element

variable {element : Element}

/-- Nothing is left out of an element whose declarations can all be read. -/
theorem declares_constants (hread : ∀ declaration ∈ element.attributes,
    ∃ name, readConstant declaration = .ok name) :
    element.Declares element.enumType.constants :=
  ⟨_, forall₂_filterMap_toOption hread, rfl⟩

end Element

namespace Diagram

variable {diagram : Diagram} {schema : Schema}

theorem entries_enums_of_schema (haccepted : diagram.schema = .ok schema) :
    schema.enums.entries = (firstNamed diagram.enumElements).map fun element =>
      (trimmed element.className, element.enumType) := by
  rw [enums_of_schema haccepted, enumDraft, Draft.entries_enums_foldl_addEnum, startDraft]
  simp [Schema.empty, Catalog.empty, Catalog.contains, Catalog.names]

/-- The enumerations of a schema are, in their order, those of the diagram that are the first with
their name. If all names differ, no enumeration of the diagram is left out. -/
theorem schema_enumerations (haccepted : diagram.schema = .ok schema) :
    List.Forall₂ Element.IsStoredAs (firstNamed diagram.enumElements) schema.enums.entries ∧
    (firstNamed diagram.enumElements).Sublist diagram.enumElements ∧
    (∀ element, element ∈ firstNamed diagram.enumElements ↔
      diagram.enumElements.find? (fun other =>
        trimmed element.className == trimmed other.className) = some element) ∧
    (firstNamed diagram.enumElements = diagram.enumElements ↔
      (diagram.enumElements.map fun element => trimmed element.className).Nodup) := by
  have hwell := joinedWellFormed_of_schema haccepted
  have hentries := entries_enums_of_schema haccepted
  refine ⟨?_, firstNamed_sublist _, fun element => mem_firstNamed_iff _, ?_⟩
  · rw [hentries, List.forall₂_map_right_iff, List.forall₂_same]
    intro element hmem
    have hdeclared := hwell.elements.constants element ((firstNamed_sublist _).subset hmem)
    exact ⟨rfl, rfl, Element.declares_constants hdeclared⟩
  · refine ⟨fun hall => ?_, firstNamed_eq_self⟩
    have hnames : schema.enums.names =
        diagram.enumElements.map fun element => trimmed element.className := by
      rw [Catalog.names, hentries, hall, List.map_map]
      rfl
    exact hnames ▸ schema.enums.nodup_names

def clerkRole : Element where
  id := "1"
  className := "Role"
  attributes := ["CLERK", "MANAGER", "CLERK"]
  methods := []
  kind := .enumKind

def guestRole : Element where
  id := "2"
  className := " Role "
  attributes := ["GUEST"]
  methods := []
  kind := .enumKind

/-- Two enumerations whose names differ by blanks only. -/
def roles : Diagram where
  elements := [clerkRole, guestRole]
  relationships := []

theorem roles_schema : roles.schema = .ok roles.draft.schema :=
  schema_eq_ok_iff.2 ⟨by decide +kernel, rfl⟩

/-- The first of the two roles is kept, with both of its constants. -/
theorem schema_enumerations_roles : roles.schema = .ok roles.draft.schema ∧
    roles.draft.schema.enums.entries = [("Role", ⟨"Role", ["CLERK", "MANAGER"]⟩)] ∧
    List.Forall₂ Element.IsStoredAs [clerkRole] roles.draft.schema.enums.entries ∧
    firstNamed roles.enumElements ≠ roles.enumElements := by
  obtain ⟨hstored, -, -, hall⟩ := schema_enumerations roles_schema
  have hentries : roles.draft.schema.enums.entries =
      [("Role", ⟨"Role", ["CLERK", "MANAGER"]⟩)] := by
    decide +kernel
  have hfirst : firstNamed roles.enumElements = [clerkRole] := by decide +kernel
  refine ⟨roles_schema, hentries, hfirst ▸ hstored, mt hall.1 ?_⟩
  decide +kernel

/-- The second of the two roles is accepted, but the schema has one enumeration only. -/
theorem exists_enumeration_left_out : roles.schema = .ok roles.draft.schema ∧
    guestRole ∈ roles.enumElements ∧
    ¬ List.Forall₂ Element.IsStoredAs roles.enumElements roles.draft.schema.enums.entries := by
  refine ⟨roles_schema, by decide, fun hstored => ?_⟩
  have hlengths : roles.enumElements.length ≠ roles.draft.schema.enums.entries.length := by
    decide +kernel
  exact hlengths hstored.length_eq

end Diagram

end ClassDiagram
