import ClassDiagram.Proofs.Hierarchy.Ascent

/-!
# Following the edges of a hierarchy

Edges assign parents. Of several edges from one child the first that leads to another table counts,
and nothing but the parents of tables changes. No fault is found exactly if no edge leads back to
its own child and all edges from one child lead to the same parent.
-/

namespace ClassDiagram

/-- The parent that edges give to a table. -/
def parentIn (edges : List HierarchyEdge) (name : String) : Option String :=
  (edges.find? fun edge => edge.child == name && edge.parent != name).map HierarchyEdge.parent

theorem parentIn_cons_of_ne {edge : HierarchyEdge} {name : String} (hne : edge.child ≠ name)
    (rest : List HierarchyEdge) : parentIn (edge :: rest) name = parentIn rest name := by
  simp [parentIn, hne]

theorem parentIn_cons_self {edge : HierarchyEdge} (hne : edge.child ≠ edge.parent)
    (rest : List HierarchyEdge) : parentIn (edge :: rest) edge.child = some edge.parent := by
  simp [parentIn, Ne.symm hne]

theorem parentIn_cons_own {edge : HierarchyEdge} (heq : edge.child = edge.parent)
    (rest : List HierarchyEdge) (name : String) :
    parentIn (edge :: rest) name = parentIn rest name := by
  by_cases hname : edge.child = name
  · simp [parentIn, ← heq, hname]
  · exact parentIn_cons_of_ne hname rest

theorem exists_edge_of_parentIn {edges : List HierarchyEdge} {name parent : String}
    (hparent : parentIn edges name = some parent) :
    ∃ edge ∈ edges, edge.child = name ∧ edge.parent = parent := by
  obtain ⟨edge, hfind, hedge⟩ := Option.map_eq_some_iff.1 hparent
  have hfits := List.find?_some hfind
  simp only [Bool.and_eq_true, beq_iff_eq] at hfits
  exact ⟨edge, List.mem_of_find?_eq_some hfind, hfits.1, hedge⟩

theorem exists_parentIn_of_mem {edges : List HierarchyEdge} {edge : HierarchyEdge}
    (hmem : edge ∈ edges) (hne : edge.child ≠ edge.parent) :
    ∃ parent, parentIn edges edge.child = some parent := by
  rw [parentIn, ← Option.isSome_iff_exists, Option.isSome_map, List.find?_isSome]
  exact ⟨edge, hmem, by simpa using Ne.symm hne⟩

namespace Schema

variable {schema : Schema}

theorem table?_setParent (schema : Schema) (name other : String) (parent : Option String) :
    (schema.setParent name parent).table? other =
      if other = name then (schema.table? other).map fun table => { table with parent }
      else schema.table? other :=
  Catalog.find?_modify schema.tables name other _

theorem parent?_setParent_self {name : String} (hname : name ∈ schema.tables.names)
    (parent : String) : (schema.setParent name (some parent)).parent? name = some parent := by
  obtain ⟨table, hfind⟩ := Catalog.mem_names_iff.1 hname
  rw [parent?, table?_setParent, if_pos rfl, show schema.table? name = some table from hfind]
  rfl

@[simp]
theorem names_setParent (schema : Schema) (name : String) (parent : Option String) :
    (schema.setParent name parent).tables.names = schema.tables.names :=
  Catalog.names_modify schema.tables name _

/-- All that following one edge can do. -/
theorem followEdge_cases (schema : Schema) (edge : HierarchyEdge) :
    (edge.child = edge.parent ∧
      schema.followEdge edge =
        .error (.inheritanceConflict edge.child (.ownParent edge.relationship))) ∨
    (edge.child ≠ edge.parent ∧ schema.parent? edge.child = none ∧
      schema.followEdge edge = .ok (schema.setParent edge.child (some edge.parent))) ∨
    (edge.child ≠ edge.parent ∧ schema.parent? edge.child = some edge.parent ∧
      schema.followEdge edge = .ok schema) ∨
    ∃ existing, edge.child ≠ edge.parent ∧ schema.parent? edge.child = some existing ∧
      existing ≠ edge.parent ∧
      schema.followEdge edge = .error (.inheritanceConflict edge.child
        (.secondParent existing edge.relationship edge.parent)) := by
  by_cases hown : edge.child = edge.parent
  · exact .inl ⟨hown, by simp [followEdge, hown]⟩
  · cases hparent : schema.parent? edge.child with
    | none => exact .inr (.inl ⟨hown, rfl, by simp [followEdge, hown, hparent]⟩)
    | some existing =>
      by_cases hsame : existing = edge.parent
      · exact .inr (.inr (.inl ⟨hown, by rw [hsame], by simp [followEdge, hown, hparent, hsame]⟩))
      · exact .inr (.inr (.inr ⟨existing, hown, rfl, hsame,
          by simp [followEdge, hown, hparent, hsame]⟩))

theorem followEdges_cons_ok {edge : HierarchyEdge} {next : Schema}
    (hfollow : schema.followEdge edge = .ok next) (rest : List HierarchyEdge) :
    schema.followEdges (edge :: rest) = next.followEdges rest := by
  simp [followEdges, hfollow]

theorem followEdges_cons_error {edge : HierarchyEdge} {fault : ModelFault}
    (hfollow : schema.followEdge edge = .error fault) (rest : List HierarchyEdge) :
    schema.followEdges (edge :: rest) =
      ((schema.followEdges rest).1, fault :: (schema.followEdges rest).2) := by
  simp [followEdges, hfollow]

/-- An edge from a table that has a parent changes nothing. -/
theorem map_parentIn_cons_of_hasParent {edge : HierarchyEdge} {existing : String}
    (hparent : schema.HasParent edge.child existing) (rest : List HierarchyEdge) (name : String) :
    ((schema.table? name).map fun table =>
        { table with parent := table.parent.or (parentIn (edge :: rest) name) }) =
      (schema.table? name).map fun table =>
        { table with parent := table.parent.or (parentIn rest name) } := by
  by_cases hname : name = edge.child
  · obtain ⟨table, hfind, hhas⟩ := hasParent_iff.1 hparent
    simp [hname, hfind, hhas]
  · rw [parentIn_cons_of_ne (Ne.symm hname)]

/-- Following edges keeps everything but the parents of tables that had none. -/
theorem followEdges_frame (edges : List HierarchyEdge) (schema : Schema) :
    (schema.followEdges edges).1.tables.names = schema.tables.names ∧
      (schema.followEdges edges).1.links = schema.links ∧
      (schema.followEdges edges).1.enums = schema.enums ∧
      ∀ name, (schema.followEdges edges).1.table? name = (schema.table? name).map fun table =>
        { table with parent := table.parent.or (parentIn edges name) } := by
  induction edges generalizing schema with
  | nil =>
    refine ⟨rfl, rfl, rfl, fun name => ?_⟩
    simp [followEdges, parentIn]
  | cons edge rest ih =>
    rcases schema.followEdge_cases edge with ⟨hown, hfollow⟩ | ⟨hne, hparent, hfollow⟩ |
      ⟨hne, hparent, hfollow⟩ | ⟨existing, hne, hparent, -, hfollow⟩
    · rw [followEdges_cons_error hfollow]
      simpa only [parentIn_cons_own hown] using ih schema
    · rw [followEdges_cons_ok hfollow]
      obtain ⟨hnames, hlinks, henums, htables⟩ :=
        ih (schema.setParent edge.child (some edge.parent))
      refine ⟨hnames.trans (schema.names_setParent _ _), hlinks, henums, fun name => ?_⟩
      rw [htables, table?_setParent]
      by_cases hname : name = edge.child
      · subst hname
        cases hfind : schema.table? edge.child with
        | none => simp
        | some table =>
          have hroot : table.parent = none := by simpa [parent?, hfind] using hparent
          simp [hroot, parentIn_cons_self hne]
      · rw [if_neg hname, parentIn_cons_of_ne (Ne.symm hname)]
    · rw [followEdges_cons_ok hfollow]
      simpa only [map_parentIn_cons_of_hasParent hparent] using ih schema
    · rw [followEdges_cons_error hfollow]
      simpa only [map_parentIn_cons_of_hasParent hparent] using ih schema

theorem parent?_followEdges (edges : List HierarchyEdge) {name : String}
    (hname : name ∈ schema.tables.names) :
    (schema.followEdges edges).1.parent? name =
      (schema.parent? name).or (parentIn edges name) := by
  obtain ⟨table, hfind⟩ := Catalog.mem_names_iff.1 hname
  have hfind' : schema.table? name = some table := hfind
  simp [parent?, (followEdges_frame edges schema).2.2.2, hfind']

/-- No fault is found exactly if every edge leads from its child to the parent that the child has
in the end, which is another table. -/
theorem followEdges_faults_eq_nil_iff (edges : List HierarchyEdge) (schema : Schema)
    (hchildren : ∀ edge ∈ edges, edge.child ∈ schema.tables.names) :
    (schema.followEdges edges).2 = [] ↔ ∀ edge ∈ edges, edge.child ≠ edge.parent ∧
      (schema.followEdges edges).1.parent? edge.child = some edge.parent := by
  induction edges generalizing schema with
  | nil => simp [followEdges]
  | cons edge rest ih =>
    have hchild := hchildren edge List.mem_cons_self
    have hrest := fun other hother => hchildren other (List.mem_cons_of_mem edge hother)
    rcases schema.followEdge_cases edge with ⟨hown, hfollow⟩ | ⟨hne, hparent, hfollow⟩ |
      ⟨hne, hparent, hfollow⟩ | ⟨existing, hne, hparent, hother, hfollow⟩
    · simp [followEdges_cons_error hfollow, hown]
    · have hchild' : edge.child ∈
          (schema.setParent edge.child (some edge.parent)).tables.names := by
        rwa [names_setParent]
      rw [followEdges_cons_ok hfollow, ih _ (by simpa using hrest), List.forall_mem_cons,
        parent?_followEdges rest hchild', parent?_setParent_self hchild]
      simp [hne]
    · rw [followEdges_cons_ok hfollow, ih schema hrest, List.forall_mem_cons,
        parent?_followEdges rest hchild, hparent]
      simp [hne]
    · have hlast : (schema.followEdges rest).1.parent? edge.child = some existing := by
        rw [parent?_followEdges rest hchild, hparent, Option.some_or]
      simp [followEdges_cons_error hfollow, hlast, hother]

end Schema

end ClassDiagram
