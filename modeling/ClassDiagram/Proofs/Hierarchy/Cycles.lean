import Mathlib.Data.List.Chain
import ClassDiagram.Proofs.Hierarchy.Edges
import ClassDiagram.Schema.Derivation

/-!
# Breaking up cycles

The edges of a diagram may leave tables whose parents run in a circle. Each circle is found once, at
the first of its tables, and its tables lose their parents. Tables that only lead into a circle keep
theirs, and no circle is left.
-/

namespace ClassDiagram.Schema

open Relation

variable {schema : Schema} {cycle other : ParentCycle} {name : String}

/-- The table stands above itself. -/
def OnCycle (schema : Schema) (name : String) : Prop :=
  TransGen schema.HasParent name name

theorem OnCycle.mem_names (hcycle : schema.OnCycle name) : name ∈ schema.tables.names := by
  obtain ⟨parent, hparent, -⟩ := TransGen.head'_iff.1 hcycle
  exact hparent.mem_names

/-! ## Closed walks -/

/-- Each member is the parent of the one before, and the first is the parent of the last. No member
is listed twice. -/
structure IsCycle (schema : Schema) (cycle : ParentCycle) : Prop where
  climbs : (cycle.members ++ [cycle.first]).IsChain schema.HasParent
  distinct : cycle.members.Nodup

namespace IsCycle

theorem reaches_first (hcycle : schema.IsCycle cycle) :
    ∀ member ∈ cycle.members, ReflTransGen schema.HasParent member cycle.first :=
  hcycle.climbs.backwards_concat_induction _ _ (fun _ _ hparent hreach => hreach.head hparent) .refl

theorem onCycle (hcycle : schema.IsCycle cycle) :
    ∀ member ∈ cycle.members, schema.OnCycle member := by
  intro member hmember
  have hclimbs : (cycle.first :: (cycle.others ++ [cycle.first])).IsChain
      (TransGen schema.HasParent) := hcycle.climbs.imp fun _ _ => .single
  have hfirst : schema.OnCycle cycle.first := hclimbs.rel_cons List.mem_concat_self
  have hreached : ReflTransGen schema.HasParent cycle.first member :=
    hcycle.climbs.left_of_append.induction _ _ (fun _ _ hparent hreach => hreach.tail hparent)
      (fun _ => .refl) member hmember
  exact (hfirst.trans_right (hcycle.reaches_first member hmember)).trans_left hreached

/-- The parent of a member is a member, since no table has two parents. -/
theorem closed (hcycle : schema.IsCycle cycle) :
    ∀ member ∈ cycle.members, ∀ parent, schema.HasParent member parent →
      parent ∈ cycle.members := by
  intro member hmember parent hparent
  -- what stands behind the member in the chain is its only parent
  obtain ⟨before, after, heq⟩ := List.append_of_mem hmember
  have hclimbs := hcycle.climbs
  rw [heq, List.append_assoc, List.cons_append, List.isChain_split] at hclimbs
  have hnext : ∃ next ∈ (after ++ [cycle.first]).head?, next ∈ cycle.members := by
    cases after with
    | nil => exact ⟨cycle.first, rfl, List.mem_cons_self⟩
    | cons next rest => exact ⟨next, rfl, heq ▸ by simp⟩
  obtain ⟨next, hhead, hnext⟩ := hnext
  have hhas : schema.HasParent member next := hclimbs.2.rel_head? hhead
  rwa [Option.some.inj (hparent.symm.trans hhas)]

/-- Two cycles that meet have the same members. -/
theorem first_mem_of_mem (hcycle : schema.IsCycle cycle) (hother : schema.IsCycle other)
    (hmem : name ∈ cycle.members) (hmeets : name ∈ other.members) :
    other.first ∈ cycle.members :=
  mem_of_closed hcycle.closed hmem (hother.reaches_first name hmeets)

end IsCycle

/-- The walk has come from the first table up to the current one without meeting a table twice. -/
theorem isCycle_of_cycleFrom {first : String} {others : List String} {current : Option String}
    (hfound : schema.cycleFrom first others current = some cycle)
    (hclimbs : ∀ name, current = some name →
      (first :: others ++ [name]).IsChain schema.HasParent)
    (hdistinct : (first :: others).Nodup) : cycle.first = first ∧ schema.IsCycle cycle := by
  -- the invariant of the walk: what has been visited is a chain that leads to the current table
  fun_induction cycleFrom schema first others current with
  | case1 => cases hfound
  | case2 others =>
    cases hfound
    exact ⟨rfl, hclimbs first rfl, hdistinct⟩
  | case3 => cases hfound
  | case4 others name hne hmet hname hfewer ih =>
    apply ih hfound
    · intro parent hparent
      rw [← List.cons_append, List.isChain_append]
      refine ⟨hclimbs name rfl, List.isChain_singleton parent, ?_⟩
      intro last hlast next hnext
      rw [List.getLast?_concat] at hlast
      rw [← Option.some.inj hlast, ← Option.some.inj hnext]
      exact hparent
    · rw [← List.cons_append, ← List.concat_eq_append]
      refine hdistinct.concat fun hvisited => ?_
      rcases List.mem_cons.1 hvisited with heq | hother
      · exact hne heq
      · exact hmet hother
  | case5 => cases hfound

/-! ## The search over all tables -/

/-- What has been found when these tables have had their turns. -/
structure Found (schema : Schema) (names : List String) (found : List ParentCycle) : Prop where
  cycles : ∀ cycle ∈ found, schema.IsCycle cycle
  firsts : (found.map ParentCycle.first).Sublist names
  earliest : ∀ cycle ∈ found, ∀ member ∈ cycle.members,
    names.idxOf cycle.first ≤ names.idxOf member
  complete : ∀ name ∈ names, schema.OnCycle name → ∃ cycle ∈ found, name ∈ cycle.members
  apart : found.Pairwise fun left right => left.members.Disjoint right.members

theorem Found.nil (schema : Schema) : schema.Found [] [] :=
  ⟨by simp, List.Sublist.refl [], by simp, by simp, .nil⟩

namespace Found

variable {names : List String} {found : List ParentCycle}

theorem earliest_append (hfound : schema.Found names found) (name : String) :
    ∀ cycle ∈ found, ∀ member ∈ cycle.members,
      (names ++ [name]).idxOf cycle.first ≤ (names ++ [name]).idxOf member := by
  intro cycle hcycle member hmember
  have hfirst : cycle.first ∈ names := hfound.firsts.subset (List.mem_map_of_mem hcycle)
  have hle := hfound.earliest cycle hcycle member hmember
  rw [List.idxOf_append_of_mem hfirst]
  by_cases hmem : member ∈ names
  · rwa [List.idxOf_append_of_mem hmem]
  · have hlt := List.idxOf_lt_length_of_mem hfirst
    rw [List.idxOf_append_of_notMem hmem]
    omega

/-- Nothing is added for a table that lies on no cycle or on one that has been found. -/
theorem skip (hfound : schema.Found names found)
    (hskip : schema.OnCycle name → ∃ cycle ∈ found, name ∈ cycle.members) :
    schema.Found (names ++ [name]) found where
  cycles := hfound.cycles
  firsts := hfound.firsts.trans (List.sublist_append_left names [name])
  earliest := hfound.earliest_append name
  complete := by
    rw [List.forall_mem_append, List.forall_mem_singleton]
    exact ⟨hfound.complete, hskip⟩
  apart := hfound.apart

/-- A cycle that is found at a table on none of the others meets none of them. -/
theorem disjoint_of_new (hfound : schema.Found names found) (hcycle : schema.IsCycle cycle)
    (hnew : ∀ other ∈ found, cycle.first ∉ other.members) :
    ∀ other ∈ found, other.members.Disjoint cycle.members := by
  intro other hother member hmember hmeets
  exact hnew other hother ((hfound.cycles other hother).first_mem_of_mem hcycle hmember hmeets)

theorem add (hfound : schema.Found names found) (hcycle : schema.IsCycle cycle)
    (hname : cycle.first ∉ names) (hnew : ∀ other ∈ found, cycle.first ∉ other.members) :
    schema.Found (names ++ [cycle.first]) (found ++ [cycle]) where
  cycles := by
    rw [List.forall_mem_append, List.forall_mem_singleton]
    exact ⟨hfound.cycles, hcycle⟩
  firsts := by
    rw [List.map_append]
    exact hfound.firsts.append (.refl _)
  earliest := by
    rw [List.forall_mem_append, List.forall_mem_singleton]
    refine ⟨hfound.earliest_append cycle.first, fun member hmember => ?_⟩
    -- a member that has had its turn would have shown the cycle
    have hlater : member ∉ names := by
      intro hmem
      obtain ⟨other, hother, hmeets⟩ := hfound.complete member hmem (hcycle.onCycle member hmember)
      exact hfound.disjoint_of_new hcycle hnew other hother hmeets hmember
    rw [List.idxOf_append_of_notMem hname, List.idxOf_append_of_notMem hlater,
      List.idxOf_cons_self]
    omega
  complete := by
    rw [List.forall_mem_append, List.forall_mem_singleton]
    refine ⟨fun name hmem honCycle => ?_, fun _ => ⟨cycle, by simp, List.mem_cons_self⟩⟩
    obtain ⟨other, hother, hmember⟩ := hfound.complete name hmem honCycle
    exact ⟨other, List.mem_append_left _ hother, hmember⟩
  apart := by
    rw [List.pairwise_append]
    refine ⟨hfound.apart, List.pairwise_singleton _ cycle, fun other hother last hlast => ?_⟩
    rw [List.mem_singleton.1 hlast]
    exact hfound.disjoint_of_new hcycle hnew other hother

/-- One turn of the search. -/
theorem addCycle (hfound : schema.Found names found) (hname : name ∉ names) :
    schema.Found (names ++ [name]) (schema.addCycle found name) := by
  rw [Schema.addCycle]
  split
  · rename_i hmet
    obtain ⟨cycle, hcycle, hmember⟩ := List.any_eq_true.1 hmet
    exact hfound.skip fun _ => ⟨cycle, hcycle, List.contains_iff_mem.1 hmember⟩
  · rename_i hmet
    cases hsearch : schema.cycleFrom name [] (schema.parent? name) with
    | none =>
      rw [Option.toList_none, List.append_nil]
      refine hfound.skip fun honCycle => ?_
      rw [OnCycle, ← cycleFrom_isSome_iff, hsearch] at honCycle
      cases honCycle
    | some cycle =>
      obtain ⟨rfl, hcycle⟩ := isCycle_of_cycleFrom hsearch
        (fun parent hparent => List.isChain_pair.2 hparent) (List.nodup_singleton name)
      exact hfound.add hcycle hname fun other hother hmember =>
        hmet (List.any_eq_true.2 ⟨other, hother, List.contains_iff_mem.2 hmember⟩)

theorem foldl_addCycle (rest : List String) :
    ∀ {names found}, schema.Found names found → (names ++ rest).Nodup →
      schema.Found (names ++ rest) (rest.foldl schema.addCycle found) := by
  induction rest with
  | nil => exact fun hfound _ => (List.append_nil _).symm ▸ hfound
  | cons name rest ih =>
    intro names found hfound hdistinct
    have hname : name ∉ names := fun hmem => hdistinct.disjoint hmem List.mem_cons_self
    rw [List.append_cons] at hdistinct ⊢
    exact ih (hfound.addCycle hname) hdistinct

end Found

theorem found_parentCycles (schema : Schema) :
    schema.Found schema.tables.names schema.parentCycles :=
  Found.foldl_addCycle schema.tables.names (.nil schema) schema.tables.nodup_names

/-! ## The schema without cycles -/

/-- The schemas differ in the parents of the tables on cycles, which they have lost. -/
structure BreaksUp (after before : Schema) : Prop where
  names : after.tables.names = before.tables.names
  links : after.links = before.links
  enums : after.enums = before.enums
  cleared : ∀ name, before.OnCycle name →
    after.table? name = (before.table? name).map fun table => { table with parent := none }
  kept : ∀ name, ¬ before.OnCycle name → after.table? name = before.table? name

theorem foldl_setParent_frame (names : List String) (schema : Schema) :
    let after := names.foldl (fun schema name => schema.setParent name none) schema
    after.tables.names = schema.tables.names ∧ after.links = schema.links ∧
      after.enums = schema.enums ∧ ∀ name, after.table? name =
        if name ∈ names then (schema.table? name).map fun table => { table with parent := none }
        else schema.table? name := by
  induction names generalizing schema with
  | nil => exact ⟨rfl, rfl, rfl, fun name => (if_neg List.not_mem_nil).symm⟩
  | cons first rest ih =>
    obtain ⟨hnames, hlinks, henums, htables⟩ := ih (schema.setParent first none)
    refine ⟨hnames.trans (schema.names_setParent first none), hlinks, henums, fun name => ?_⟩
    rw [List.foldl_cons, htables, table?_setParent]
    by_cases hfirst : name = first
    · cases schema.table? name <;> simp [hfirst]
    · simp [hfirst]

theorem mem_members_parentCycles_iff :
    name ∈ schema.parentCycles.flatMap ParentCycle.members ↔ schema.OnCycle name := by
  have hfound := schema.found_parentCycles
  rw [List.mem_flatMap]
  constructor
  · rintro ⟨cycle, hcycle, hmember⟩
    exact (hfound.cycles cycle hcycle).onCycle name hmember
  · exact fun honCycle => hfound.complete name honCycle.mem_names honCycle

theorem breaksUp_withoutCycles (schema : Schema) : schema.withoutCycles.BreaksUp schema := by
  obtain ⟨hnames, hlinks, henums, htables⟩ :=
    schema.foldl_setParent_frame (schema.parentCycles.flatMap ParentCycle.members)
  refine ⟨hnames, hlinks, henums, fun name honCycle => ?_, fun name hoff => ?_⟩
  · exact (htables name).trans (if_pos (mem_members_parentCycles_iff.2 honCycle))
  · exact (htables name).trans (if_neg (mt mem_members_parentCycles_iff.1 hoff))

namespace BreaksUp

variable {after before : Schema}

theorem hasParent_iff (hbreaks : after.BreaksUp before) {child parent : String} :
    after.HasParent child parent ↔
      before.HasParent child parent ∧ ¬ before.OnCycle child := by
  by_cases honCycle : before.OnCycle child
  · rw [HasParent, parent?, hbreaks.cleared child honCycle]
    cases before.table? child <;> simp [honCycle]
  · rw [HasParent, parent?, hbreaks.kept child honCycle, HasParent, parent?]
    exact (and_iff_left honCycle).symm

/-- A cycle that is left would be one of those that have been broken up. -/
theorem acyclic (hbreaks : after.BreaksUp before) : after.Acyclic := by
  intro name hcycle
  obtain ⟨parent, hparent, -⟩ := TransGen.head'_iff.1 hcycle
  apply (hbreaks.hasParent_iff.1 hparent).2
  exact TransGen.mono (fun _ _ hparent => (hbreaks.hasParent_iff.1 hparent).1) _ _ hcycle

end BreaksUp

/-- Whatever parents the tables of a schema have, one conflict is reported for each cycle, at the
first of its tables, with all of them in the order of their parents. Exactly the tables on cycles
lose their parents, nothing else changes, and no cycle is left. -/
theorem cycles_reported_and_broken (schema : Schema) :
    (∀ cycle ∈ schema.parentCycles, schema.IsCycle cycle ∧
      (∀ member ∈ cycle.members,
        schema.tables.names.idxOf cycle.first ≤ schema.tables.names.idxOf member) ∧
      cycle.fault.message = "inheritance conflict on `" ++ cycle.first ++ "`: " ++
        ("inheritance cycle " ++ String.intercalate " -> " (cycle.members ++ [cycle.first]))) ∧
    (schema.parentCycles.map ParentCycle.first).Sublist schema.tables.names ∧
    (schema.parentCycles.map ParentCycle.first).Nodup ∧
    (∀ name, schema.OnCycle name →
      ∃! cycle, cycle ∈ schema.parentCycles ∧ name ∈ cycle.members) ∧
    schema.withoutCycles.BreaksUp schema ∧ schema.withoutCycles.Acyclic ∧
    (∀ (draft : Draft) edges conflicts, draft.schema.followEdges edges = (schema, conflicts) →
      (draft.applyHierarchy edges).faults =
          draft.faults ++ conflicts ++ schema.parentCycles.map ParentCycle.fault ∧
        (draft.applyHierarchy edges).schema = schema.withoutCycles.fitChildren) := by
  have hfound := schema.found_parentCycles
  have hbreaks := schema.breaksUp_withoutCycles
  refine ⟨fun cycle hcycle =>
      ⟨hfound.cycles cycle hcycle, hfound.earliest cycle hcycle, rfl⟩,
    hfound.firsts, schema.tables.nodup_names.sublist hfound.firsts, fun name honCycle => ?_,
    hbreaks, hbreaks.acyclic, fun draft edges conflicts hfollow => ?_⟩
  · have hsymm : Std.Symm fun left right : ParentCycle => left.members.Disjoint right.members :=
      ⟨fun _ _ => List.Disjoint.symm⟩
    obtain ⟨cycle, hcycle, hmember⟩ := hfound.complete name honCycle.mem_names honCycle
    refine ⟨cycle, ⟨hcycle, hmember⟩, fun other hother => ?_⟩
    by_contra hne
    exact hfound.apart.forall hother.1 hcycle hne hother.2 hmember
  · rw [Draft.applyHierarchy, hfollow]
    exact ⟨rfl, rfl⟩

def bareTable (name : String) : Table :=
  { name
    columns := []
    elementId := some name
    parent := none
    isAbstract := false
    methods := [] }

/-- Three tables that have no parents yet. -/
def tutors : Schema :=
  { empty with
    tables := Catalog.ofList
      (["novice", "coach", "trainer"].map fun name => (name, bareTable name)) }

/-- The coach and the trainer learn from each other, the novice from the coach. -/
def tutorEdges : List HierarchyEdge :=
  [⟨"learns", "novice", "coach"⟩, ⟨"asks", "coach", "trainer"⟩, ⟨"answers", "trainer", "coach"⟩]

/-- The coach and the trainer are reported and lose their parents, the novice keeps its own. -/
theorem cycles_reported_and_broken_tutors :
    let linked := (tutors.followEdges tutorEdges).1
    let draft : Draft := { schema := tutors, faults := [], notes := [] }
    linked.parentCycles = [⟨"coach", ["trainer"]⟩] ∧ linked.OnCycle "trainer" ∧
      (∃! cycle, cycle ∈ linked.parentCycles ∧ "trainer" ∈ cycle.members) ∧
      linked.withoutCycles.HasParent "novice" "coach" ∧ linked.withoutCycles.Acyclic ∧
      (draft.applyHierarchy tutorEdges).faults =
        [.inheritanceConflict "coach" (.cycle "coach" ["trainer"])] := by
  intro linked draft
  have hcycles : linked.parentCycles = [⟨"coach", ["trainer"]⟩] := by decide +kernel
  have honCycle : linked.OnCycle "trainer" :=
    .head (show linked.parent? "trainer" = some "coach" by decide)
      (.single (show linked.parent? "coach" = some "trainer" by decide))
  obtain ⟨-, -, -, honce, hbreaks, hacyclic, hreport⟩ := cycles_reported_and_broken linked
  have hnovice : linked.parent? "novice" = some "coach" := by decide
  have hoff : ¬ linked.OnCycle "novice" := by
    rw [OnCycle, ← cycleFrom_isSome_iff]
    decide +kernel
  have hfaults := (hreport draft tutorEdges [] rfl).1
  rw [hcycles] at hfaults
  exact ⟨hcycles, honCycle, honce "trainer" honCycle, hbreaks.hasParent_iff.2 ⟨hnovice, hoff⟩,
    hacyclic, hfaults⟩

end ClassDiagram.Schema
