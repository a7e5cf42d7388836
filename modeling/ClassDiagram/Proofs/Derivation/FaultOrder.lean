import ClassDiagram.Proofs.Derivation.FaultPasses

/-!
# The order of the faults

The faults of a refused diagram are reported pass by pass: those of the elements, then dangling
ends, parents that cannot be given, cycles, and cardinalities that cannot be read. Within a pass
they stand in the order of the input, and a report of several passes does so exactly if no pass
blames an item that stands before one which an earlier pass blames.
-/

namespace ClassDiagram

/-! ## The relationships -/

/-- The passes over the relationships. -/
inductive RelationshipPass where
  | ends
  | parents
  | cardinalities
  deriving DecidableEq, Repr

def RelationshipPass.all : List RelationshipPass :=
  [.ends, .parents, .cardinalities]

/-- What is wrong with an edge that stands behind others. -/
def HierarchyEdge.conflicts (earlier : List HierarchyEdge) (edge : HierarchyEdge) :
    List ModelFault :=
  if edge.child = edge.parent then
    [.inheritanceConflict edge.child (.ownParent edge.relationship)]
  else
    match parentIn earlier edge.child with
    | none => []
    | some existing =>
      if existing = edge.parent then []
      else
        [.inheritanceConflict edge.child
          (.secondParent existing edge.relationship edge.parent)]

@[simp]
theorem parentIn_nil (name : String) : parentIn [] name = none := rfl

theorem parentIn_append (edges : List HierarchyEdge) (edge : HierarchyEdge) (name : String) :
    parentIn (edges ++ [edge]) name = (parentIn edges name).or (parentIn [edge] name) := by
  rw [parentIn, List.find?_append, Option.map_or]
  rfl

/-- An edge that gives no parent changes none. -/
theorem parentIn_append_of_idle {edges : List HierarchyEdge} {edge : HierarchyEdge}
    (hidle : edge.child = edge.parent ∨ ∃ existing, parentIn edges edge.child = some existing)
    (name : String) : parentIn (edges ++ [edge]) name = parentIn edges name := by
  rw [parentIn_append]
  rcases hidle with hown | ⟨existing, hparent⟩
  · rw [parentIn_cons_own hown, parentIn_nil, Option.or_none]
  · by_cases hname : edge.child = name
    · rw [← hname, hparent, Option.some_or]
    · rw [parentIn_cons_of_ne hname, parentIn_nil, Option.or_none]

namespace PlacedRelationship

def edges (placed : List PlacedRelationship) : List HierarchyEdge :=
  (placed.map placement).filterMap Placement.edge?

theorem edges_append (left right : List PlacedRelationship) :
    edges (left ++ right) = edges left ++ edges right := by
  rw [edges, List.map_append, List.filterMap_append, edges, edges]

/-- What a pass finds in a relationship that stands behind others. -/
def faultsIn : RelationshipPass → List PlacedRelationship → PlacedRelationship → List ModelFault
  | .ends, _, placed => placed.placement.faults
  | .parents, earlier, placed =>
    placed.placement.edge?.toList.flatMap (HierarchyEdge.conflicts (edges earlier))
  | .cardinalities, _, placed => placed.faults

end PlacedRelationship

/-- The schema has the parents that edges give to its tables. -/
def Schema.HasParentsOf (schema : Schema) (edges : List HierarchyEdge) : Prop :=
  ∀ name ∈ schema.tables.names, schema.parent? name = parentIn edges name

/-- One step: an edge that conflicts with the earlier ones is blamed, every other is followed. -/
theorem Schema.followEdges_cons_conflicts {schema : Schema} {earlier : List HierarchyEdge}
    {edge : HierarchyEdge} (hparents : schema.HasParentsOf earlier)
    (hchild : edge.child ∈ schema.tables.names) (rest : List HierarchyEdge) :
    ∃ next : Schema, next.HasParentsOf (earlier ++ [edge]) ∧
      next.tables.names = schema.tables.names ∧
      (schema.followEdges (edge :: rest)).2 =
        edge.conflicts earlier ++ (next.followEdges rest).2 := by
  have hparentIn := hparents edge.child hchild
  have hidle : (edge.child = edge.parent ∨ ∃ existing, schema.parent? edge.child = some existing) →
      schema.HasParentsOf (earlier ++ [edge]) := by
    intro hidle name hname
    rw [hparentIn] at hidle
    rw [parentIn_append_of_idle hidle, hparents name hname]
  rcases schema.followEdge_cases edge with ⟨hown, hfollow⟩ | ⟨hne, hparent, hfollow⟩ |
    ⟨hne, hparent, hfollow⟩ | ⟨existing, hne, hparent, hother, hfollow⟩
  · refine ⟨schema, hidle (.inl hown), rfl, ?_⟩
    rw [followEdges_cons_error hfollow, HierarchyEdge.conflicts, if_pos hown]
    rfl
  · refine ⟨schema.setParent edge.child (some edge.parent), fun name hname => ?_,
      schema.names_setParent _ _, ?_⟩
    · rw [names_setParent] at hname
      rw [parentIn_append, ← hparents name hname]
      by_cases heq : edge.child = name
      · subst heq
        rw [parent?_setParent_self hname, hparent, parentIn_cons_self hne, Option.none_or]
      · rw [parentIn_cons_of_ne heq, parentIn_nil, Option.or_none, parent?, table?_setParent,
          if_neg (Ne.symm heq), parent?]
    · rw [followEdges_cons_ok hfollow, HierarchyEdge.conflicts, if_neg hne, ← hparentIn, hparent]
      rfl
  · refine ⟨schema, hidle (.inr ⟨_, hparent⟩), rfl, ?_⟩
    rw [followEdges_cons_ok hfollow, HierarchyEdge.conflicts, if_neg hne, ← hparentIn, hparent]
    simp
  · refine ⟨schema, hidle (.inr ⟨_, hparent⟩), rfl, ?_⟩
    rw [followEdges_cons_error hfollow, HierarchyEdge.conflicts, if_neg hne, ← hparentIn, hparent]
    simp [hother]

/-- The whole run. -/
theorem Schema.followEdges_faults (placed earlier : List PlacedRelationship) (schema : Schema)
    (hparents : schema.HasParentsOf (PlacedRelationship.edges earlier))
    (hchildren : ∀ edge ∈ PlacedRelationship.edges placed, edge.child ∈ schema.tables.names) :
    (schema.followEdges (PlacedRelationship.edges placed)).2 =
      (passReport (PlacedRelationship.faultsIn .parents) earlier placed).faults := by
  induction placed generalizing earlier schema with
  | nil => rfl
  | cons first rest ih =>
    rw [faults_passReport_cons, PlacedRelationship.faultsIn]
    cases hedge : first.placement.edge? with
    | none =>
      have hrest : PlacedRelationship.edges (first :: rest) = PlacedRelationship.edges rest := by
        simp [PlacedRelationship.edges, hedge]
      rw [hrest] at hchildren ⊢
      refine ih _ _ ?_ hchildren
      rw [PlacedRelationship.edges_append]
      simpa [PlacedRelationship.edges, hedge] using hparents
    | some edge =>
      have hrest : PlacedRelationship.edges (first :: rest) =
          edge :: PlacedRelationship.edges rest := by
        simp [PlacedRelationship.edges, hedge]
      rw [hrest, List.forall_mem_cons] at hchildren
      obtain ⟨next, hnext, hnames, hfaults⟩ :=
        followEdges_cons_conflicts hparents hchildren.1 (PlacedRelationship.edges rest)
      rw [hrest, hfaults, ih (earlier ++ [first]) next ?_ (hnames ▸ hchildren.2)]
      · simp
      · rw [PlacedRelationship.edges_append]
        simpa [PlacedRelationship.edges, hedge] using hnext

/-! ## The run over the structural relationships -/

/-- The two tables of a structural relationship are there, and have keys. -/
def PlacedRelationship.HasKeysIn (placed : PlacedRelationship) (schema : Schema) : Prop :=
  ∀ source target, placed.placement = .structural source target →
    schema.HasKey source ∧ schema.HasKey target

namespace Draft

variable {draft : Draft} {placed : PlacedRelationship}

theorem addRelationship_of_keys (draft : Draft) (relationship : Relationship)
    {source target : Table} (hsource : ∃ key, source.primaryKey? = some key)
    (htarget : ∃ key, target.primaryKey? = some key) :
    (∃ fault, relationship.cardinalities = .error fault ∧
      draft.addRelationship relationship source target = draft.blame [fault]) ∨
    ((∃ ends, relationship.cardinalities = .ok ends) ∧
      draft.schema.GrowsTo (draft.addRelationship relationship source target).schema ∧
      (draft.addRelationship relationship source target).faults = draft.faults) := by
  obtain ⟨sourceKey, hsource⟩ := hsource
  obtain ⟨targetKey, htarget⟩ := htarget
  cases hends : relationship.cardinalities with
  | error fault =>
    refine .inl ⟨fault, rfl, ?_⟩
    have haddition : ∀ taken, relationship.addition source target taken = .error fault := by
      intro taken
      rw [Relationship.addition, hends]
      rfl
    rw [addRelationship, haddition]
  | ok ends =>
    refine .inr ⟨⟨ends, rfl⟩, ?_⟩
    rcases Relationship.addition_cases hsource htarget hends with
      ⟨-, haddition⟩ | ⟨-, -, haddition⟩ | ⟨-, -, haddition⟩
    · rw [addRelationship, haddition]
      exact ⟨Schema.growsTo_add_foreignKey _ rfl, rfl⟩
    · rw [addRelationship, haddition]
      exact ⟨Schema.growsTo_add_foreignKey _ rfl, rfl⟩
    · obtain ⟨first, second, firstKey, secondKey, -, hjoin⟩ :=
        joinTableAddition_cases hsource htarget relationship.id
      rw [addRelationship, haddition, hjoin]
      exact ⟨Schema.growsTo_add_joinTable _ rfl rfl (freshName_not_mem _ _), rfl⟩

/-- One step: a relationship between tables with keys is blamed for its cardinalities only. -/
theorem addPlaced_of_keys (hkeys : placed.HasKeysIn draft.schema) :
    draft.schema.GrowsTo (draft.addPlaced placed).schema ∧
      (draft.addPlaced placed).faults = draft.faults ++ placed.faults := by
  cases hplacement : placed.placement with
  | structural source target =>
    obtain ⟨⟨sourceKey, hsource⟩, ⟨targetKey, htarget⟩⟩ := hkeys source target hplacement
    obtain ⟨sourceTable, hsourceFind, hsource⟩ := Schema.keyOf?_eq_some_iff.1 hsource
    obtain ⟨targetTable, htargetFind, htarget⟩ := Schema.keyOf?_eq_some_iff.1 htarget
    simp only [addPlaced, hplacement, hsourceFind, htargetFind, PlacedRelationship.faults]
    rcases draft.addRelationship_of_keys placed.relationship ⟨sourceKey, hsource⟩
      ⟨targetKey, htarget⟩ with ⟨fault, hends, heq⟩ | ⟨⟨ends, hends⟩, hgrows, heq⟩
    · rw [hends, heq]
      exact ⟨.refl _, rfl⟩
    · rw [hends, heq]
      exact ⟨hgrows, (List.append_nil _).symm⟩
  | _ =>
    rw [addPlaced_eq_self (by simp [hplacement])]
    exact ⟨.refl _, by simp [PlacedRelationship.faults, hplacement]⟩

/-- The whole run. -/
theorem foldl_addPlaced_of_keys (placed : List PlacedRelationship) (draft : Draft)
    (hkeys : ∀ step ∈ placed, step.HasKeysIn draft.schema) :
    (placed.foldl addPlaced draft).faults =
      draft.faults ++ placed.flatMap PlacedRelationship.faults := by
  induction placed generalizing draft with
  | nil => exact (List.append_nil _).symm
  | cons first rest ih =>
    rw [List.forall_mem_cons] at hkeys
    obtain ⟨hgrows, hfaults⟩ := addPlaced_of_keys hkeys.1
    rw [List.foldl_cons, ih, hfaults, List.flatMap_cons, List.append_assoc]
    intro step hmem source target hplacement
    obtain ⟨hsource, htarget⟩ := hkeys.2 step hmem source target hplacement
    exact ⟨hsource.grow hgrows, htarget.grow hgrows⟩

end Draft

/-! ## The whole report -/

theorem Placement.edge?_eq_some_iff {placement : Placement} {edge : HierarchyEdge} :
    placement.edge? = some edge ↔ placement = .hierarchy edge := by
  cases placement <;> simp [edge?]

namespace Relationship

variable {relationship : Relationship} {ids : List String} {tableOf : List (String × String)}

theorem lookup_of_placement_hierarchy {edge : HierarchyEdge}
    (hplacement : relationship.placement ids tableOf = .hierarchy edge) :
    tableOf.lookup relationship.sourceId = some edge.child := by
  rw [placement] at hplacement
  split at hplacement
  · cases hplacement
  · split at hplacement <;> cases hplacement
    assumption

theorem lookup_of_placement_structural {source target : String}
    (hplacement : relationship.placement ids tableOf = .structural source target) :
    tableOf.lookup relationship.sourceId = some source ∧
      tableOf.lookup relationship.targetId = some target := by
  rw [placement] at hplacement
  split at hplacement
  · cases hplacement
  · split at hplacement <;> cases hplacement
    exact ⟨by assumption, by assumption⟩

end Relationship

namespace Diagram

variable {diagram : Diagram}

/-- The faults of the relationships that passes find, pass by pass. -/
def relationshipReport (diagram : Diagram) (passes : List RelationshipPass) : FaultReport :=
  passes.flatMap fun pass =>
    passReport (PlacedRelationship.faultsIn pass) [] diagram.placements

theorem hasKey_of_lookup {id table : String}
    (hlookup : diagram.elementDraft.tableOf.lookup id = some table) :
    diagram.elementDraft.schema.HasKey table := by
  obtain ⟨before, after, heq, -⟩ := List.lookup_eq_some_iff.1 hlookup
  apply diagram.elementDraft_records.1.keys (id, table)
  rw [heq]
  exact List.mem_append_right before List.mem_cons_self

theorem edge_child_mem_names :
    ∀ edge ∈ diagram.edges, edge.child ∈ diagram.elementDraft.schema.tables.names := by
  intro edge hedge
  obtain ⟨placement, hplacement, hisEdge⟩ := List.mem_filterMap.1 hedge
  obtain ⟨placed, hplaced, rfl⟩ := List.mem_map.1 hplacement
  have hhierarchy := Placement.edge?_eq_some_iff.1 hisEdge
  have heq := (mem_placements_iff.1 hplaced).2
  exact (hasKey_of_lookup
    (Relationship.lookup_of_placement_hierarchy (heq.symm.trans hhierarchy))).mem_names

theorem placements_hasKeys :
    ∀ placed ∈ diagram.placements, placed.HasKeysIn diagram.joinedDraft.schema := by
  intro placed hplaced source target hplacement
  have heq := (mem_placements_iff.1 hplaced).2
  obtain ⟨hsource, htarget⟩ :=
    Relationship.lookup_of_placement_structural (heq.symm.trans hplacement)
  have hkept : ∀ {name}, diagram.elementDraft.schema.HasKey name →
      diagram.joinedDraft.schema.HasKey name := by
    intro name hkey
    rw [joinedDraft_schema, linkedSchema]
    exact (hkey.followEdges diagram.edges).withoutCycles.fitChildren
  exact ⟨hkept (hasKey_of_lookup hsource), hkept (hasKey_of_lookup htarget)⟩

/-- The faults of a draft, pass by pass. -/
theorem draft_faults_eq (diagram : Diagram) :
    diagram.draft.faults =
      (diagram.elementReport ElementPass.all).faults ++
        (diagram.relationshipReport [.ends, .parents]).faults ++
        diagram.linkedSchema.parentCycles.map ParentCycle.fault ++
        (diagram.relationshipReport [.cardinalities]).faults := by
  have hroots : diagram.elementDraft.schema.HasParentsOf (PlacedRelationship.edges []) :=
    fun name _ => diagram.elementDraft_records.1.roots name
  have hconflicts : (diagram.elementDraft.schema.followEdges diagram.edges).2 =
      (passReport (PlacedRelationship.faultsIn .parents) [] diagram.placements).faults :=
    Schema.followEdges_faults diagram.placements [] _ hroots edge_child_mem_names
  have hends : (diagram.placements.map PlacedRelationship.placement).flatMap Placement.faults =
      (passReport (PlacedRelationship.faultsIn .ends) [] diagram.placements).faults := by
    rw [List.flatMap_map]
    exact (faults_passReport_of_alone _ [] diagram.placements).symm
  have hcardinalities : diagram.placements.flatMap PlacedRelationship.faults =
      (passReport (PlacedRelationship.faultsIn .cardinalities) [] diagram.placements).faults :=
    (faults_passReport_of_alone _ [] diagram.placements).symm
  rw [draft_eq_foldl, Draft.foldl_addPlaced_of_keys _ _ placements_hasKeys, joinedDraft_faults,
    diagram.elementDraft_records.2, hconflicts, hends, hcardinalities]
  simp [relationshipReport]

/-- The pass finds a fault in the element at this place. -/
def BlamesElement (diagram : Diagram) (pass : ElementPass) (place : Nat) : Prop :=
  Blames (Element.faultsIn diagram.enumDraft.schema.enums pass) diagram.elements place

/-- The pass finds a fault in the relationship at this place. -/
def BlamesRelationship (diagram : Diagram) (pass : RelationshipPass) (place : Nat) : Prop :=
  Blames (PlacedRelationship.faultsIn pass) diagram.placements place

theorem schema_eq_error_iff {faults : List ModelFault} :
    diagram.schema = .error faults ↔ diagram.draft.faults = faults ∧ faults ≠ [] := by
  rw [Diagram.schema, derive, Draft.finish]
  cases hfaults : diagram.draft.faults with
  | nil => simp [eq_comm]
  | cons fault rest =>
    simp only [List.isEmpty_cons, Bool.false_eq_true, if_false, Except.error.injEq, ne_eq]
    exact ⟨fun heq => ⟨heq, heq ▸ List.cons_ne_nil fault rest⟩, And.left⟩

/-- A refused diagram has its faults reported pass by pass, those of the elements first. Passes
report in the order of the input exactly if none blames an item that stands before one which an
earlier of them blames, so a single pass always does. -/
theorem schema_faultOrder {faults : List ModelFault} (hrefused : diagram.schema = .error faults) :
    faults =
      (diagram.elementReport ElementPass.all).faults ++
        (diagram.relationshipReport [.ends, .parents]).faults ++
        diagram.linkedSchema.parentCycles.map ParentCycle.fault ++
        (diagram.relationshipReport [.cardinalities]).faults ∧
    (∀ passes, (diagram.elementReport passes).FollowsInput ↔
      passes.Pairwise fun former latter => ∀ place other, diagram.BlamesElement former place →
        diagram.BlamesElement latter other → place ≤ other) ∧
    ∀ passes, (diagram.relationshipReport passes).FollowsInput ↔
      passes.Pairwise fun former latter => ∀ place other, diagram.BlamesRelationship former place →
        diagram.BlamesRelationship latter other → place ≤ other := by
  refine ⟨?_, fun passes => ?_, fun passes => ?_⟩
  · rw [← (schema_eq_error_iff.1 hrefused).1, draft_faults_eq]
  · exact followsInput_flatMap_iff _ diagram.elements passes
  · exact followsInput_flatMap_iff _ diagram.placements passes

/-- A class and an enumeration with a declaration each that cannot be read, and a relationship with
an unreadable cardinality before one that leads to no element. -/
def faultyOrders : Diagram where
  elements := [
    { id := "1", className := "Order", attributes := ["total"], methods := [], kind := .classKind },
    { id := "2", className := "Status", attributes := ["1st"], methods := [], kind := .enumKind }]
  relationships := [
    { id := "r1"
      sourceId := "1"
      targetId := "1"
      kind := .association
      sourceCardinality := "few"
      targetCardinality := "*" },
    { id := "r2"
      sourceId := "1"
      targetId := "3"
      kind := .association
      sourceCardinality := "1"
      targetCardinality := "*" }]

def faultyOrdersFaults : List ModelFault :=
  [.malformedAttribute "1st" "Status" (.invalidName "1st"),
    .malformedAttribute "total" "Order" .missingColon,
    .danglingReference "r2" .target "3",
    .ambiguousCardinality "r1" "few" "*"]

theorem faultyOrders_schema : faultyOrders.schema = .error faultyOrdersFaults :=
  schema_eq_error_iff.2 ⟨by decide +kernel, List.cons_ne_nil _ _⟩

/-- There are no cycles, and constants are blamed behind the place where a table is blamed. -/
theorem schema_faultOrder_orders : faultyOrders.schema = .error faultyOrdersFaults ∧
    faultyOrdersFaults =
      (faultyOrders.elementReport ElementPass.all).faults ++
        (faultyOrders.relationshipReport [.ends, .parents]).faults ++
        (faultyOrders.relationshipReport [.cardinalities]).faults ∧
    ∃ place other, faultyOrders.BlamesElement .constants place ∧
      faultyOrders.BlamesElement .tables other ∧ other < place := by
  obtain ⟨hfaults, helements, -⟩ := schema_faultOrder faultyOrders_schema
  have hcycles : faultyOrders.linkedSchema.parentCycles = [] := by decide +kernel
  refine ⟨faultyOrders_schema, ?_, ?_⟩
  · rwa [hcycles, List.map_nil, List.append_nil] at hfaults
  · have hunordered :
        ¬ (faultyOrders.elementReport [.constants, .tables]).FollowsInput := by
      decide +kernel
    rw [helements, List.pairwise_pair] at hunordered
    simpa using hunordered

/-- The fault of the second element is reported before that of the first, and the fault of the
second relationship before that of the first. -/
theorem exists_fault_before_earlier : faultyOrders.schema = .error [
      .malformedAttribute "1st" "Status" (.invalidName "1st"),
      .malformedAttribute "total" "Order" .missingColon,
      .danglingReference "r2" .target "3",
      .ambiguousCardinality "r1" "few" "*"] ∧
    faultyOrders.elements.map Element.className = ["Order", "Status"] ∧
    faultyOrders.relationships.map Relationship.id = ["r1", "r2"] ∧
    ¬ (faultyOrders.elementReport ElementPass.all).FollowsInput ∧
    ¬ (faultyOrders.relationshipReport RelationshipPass.all).FollowsInput :=
  ⟨faultyOrders_schema, rfl, rfl, by decide +kernel, by decide +kernel⟩

end Diagram

end ClassDiagram
