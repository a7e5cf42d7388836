import Mathlib.Data.List.Perm.Subperm
import ClassDiagram.Proofs.Hierarchy.Cycles

/-!
# The walk to the ancestors

In a schema made by hand parents may run in a circle or be missing, and a table may be stored under
another name than its own. The walk to the ancestors goes from parent to parent by the names of the
catalog, but tells by the names of the tables themselves whether it has come back. Here it is taken
apart into passes. Each pass uses up a table with a new name, so the walk ends; what every pass
keeps holds of the ancestors; and in a hierarchy in order the walk ends at a table without a parent.
-/

namespace ClassDiagram.Schema

open Relation

variable {schema : Schema} {start name : String} {passed : List Table} {table : Table}

/-- The tables that a walk has passed, and the name it goes on to. -/
structure Walk where
  passed : List Table
  next : Option String

/-- The walk has come back to the table it started from, or to one it has passed. -/
def HasMet (start : String) (passed : List Table) (table : Table) : Prop :=
  table.name ∈ passed.map Table.name ∨ table.name = start

/-- One pass of a walk: the table under the next name is passed. -/
inductive Passes (schema : Schema) (start : String) : Walk → Walk → Prop where
  | pass {passed : List Table} {name : String} {table : Table}
      (hfind : schema.table? name = some table) (hnew : ¬ HasMet start passed table) :
      Passes schema start ⟨passed, some name⟩ ⟨passed ++ [table], table.parent⟩

def Ends (schema : Schema) (start : String) (walk : Walk) : Prop :=
  ∀ later, ¬ schema.Passes start walk later

/-! ## Every walk ends -/

theorem hasMet_iff :
    ((passed.any fun visited => visited.name == table.name) || table.name == start) = true ↔
      HasMet start passed table := by
  simp [HasMet]

theorem Passes.unique {walk left right : Walk} (hleft : schema.Passes start walk left)
    (hright : schema.Passes start walk right) : left = right := by
  obtain ⟨hfind, -⟩ := hleft
  cases hright with
  | pass hfind' =>
    cases hfind.symm.trans hfind'
    rfl

theorem ends_root : schema.Ends start ⟨passed, none⟩ := by
  intro later hpass
  cases hpass

theorem ends_missing (hmissing : schema.table? name = none) :
    schema.Ends start ⟨passed, some name⟩ := by
  intro later hpass
  cases hpass with
  | pass hfind => cases hmissing.symm.trans hfind

theorem ends_met (hfind : schema.table? name = some table) (hmet : HasMet start passed table) :
    schema.Ends start ⟨passed, some name⟩ := by
  intro later hpass
  cases hpass with
  | pass hfind' hnew =>
    cases hfind.symm.trans hfind'
    exact hnew hmet

theorem Ends.acc {walk : Walk} (hends : schema.Ends start walk) :
    Acc (fun later earlier => schema.Passes start earlier later) walk :=
  ⟨walk, fun later hpass => absurd hpass (hends later)⟩

/-- There is no endless walk, wherever it sets out. -/
theorem wellFounded_passes (schema : Schema) (start : String) :
    WellFounded fun later earlier => schema.Passes start earlier later := by
  refine ⟨fun ⟨passed, next⟩ => ?_⟩
  -- the only pass leads to where the function recurs, whose measure is the tables not met yet
  fun_induction ancestorsFrom schema start passed next with
  | case1 => exact ends_root.acc
  | case2 _ _ hmissing => exact (ends_missing hmissing).acc
  | case3 _ _ _ hfind hmet => exact (ends_met hfind (hasMet_iff.1 hmet)).acc
  | case4 passed name table hfind hmet _ ih =>
    refine ⟨_, fun later hpass => ?_⟩
    rwa [hpass.unique (.pass hfind (mt hasMet_iff.2 hmet))]

theorem exists_end (schema : Schema) (start : String) (passed : List Table)
    (next : Option String) :
    ∃ last, ReflTransGen (schema.Passes start) ⟨passed, next⟩
        ⟨schema.ancestorsFrom start passed next, last⟩ ∧
      schema.Ends start ⟨schema.ancestorsFrom start passed next, last⟩ := by
  fun_induction ancestorsFrom schema start passed next with
  | case1 => exact ⟨none, .refl, ends_root⟩
  | case2 _ name hmissing => exact ⟨some name, .refl, ends_missing hmissing⟩
  | case3 _ name _ hfind hmet =>
    exact ⟨some name, .refl, ends_met hfind (hasMet_iff.1 hmet)⟩
  | case4 passed name table hfind hmet _ ih =>
    obtain ⟨last, hwalk, hends⟩ := ih
    exact ⟨last, .head (.pass hfind (mt hasMet_iff.2 hmet)) hwalk, hends⟩

/-! ## What every pass keeps -/

/-- The parent of the last table passed, or of the one where the walk started. -/
def parentAbove (schema : Schema) (start : String) (passed : List Table) : Option String :=
  passed.getLast?.elim (schema.parent? start) Table.parent

theorem parentAbove_concat : schema.parentAbove start (passed ++ [table]) = table.parent := by
  simp [parentAbove]

/-- A walk stands in front of the parent of the table it passed last. Each table has been found
under the parent of the one before, and all have names of their own. -/
structure Climbs (schema : Schema) (start : String) (walk : Walk) : Prop where
  next : walk.next = schema.parentAbove start walk.passed
  found : ∀ front table, front ++ [table] <+: walk.passed →
    (schema.parentAbove start front).bind schema.table? = some table
  distinct : (walk.passed.map Table.name).Nodup
  left : start ∉ walk.passed.map Table.name

namespace Climbs

theorem init (schema : Schema) (start : String) :
    schema.Climbs start ⟨[], schema.parent? start⟩ where
  next := rfl
  found := by simp
  distinct := List.nodup_nil
  left := List.not_mem_nil

theorem pass {before after : Walk} (hclimbs : schema.Climbs start before)
    (hpass : schema.Passes start before after) : schema.Climbs start after := by
  obtain ⟨hfind, hnew⟩ := hpass
  obtain ⟨hnext, hfound, hdistinct, hleft⟩ := hclimbs
  rw [HasMet, not_or] at hnew
  refine ⟨parentAbove_concat.symm, fun front table hprefix => ?_, ?_, ?_⟩
  · rcases List.prefix_concat_iff.1 hprefix with hlast | hold
    · obtain ⟨rfl, htable⟩ := List.append_inj' hlast rfl
      rw [← hnext, Option.bind_some, List.singleton_inj.1 htable, hfind]
    · exact hfound front table hold
  · rw [List.map_append, List.map_singleton, ← List.concat_eq_append]
    exact hdistinct.concat hnew.1
  · rw [List.map_append, List.mem_append, List.map_singleton, List.mem_singleton, not_or]
    exact ⟨hleft, Ne.symm hnew.2⟩

theorem run {before after : Walk} (hclimbs : schema.Climbs start before)
    (hwalk : ReflTransGen (schema.Passes start) before after) : schema.Climbs start after := by
  induction hwalk with
  | refl => exact hclimbs
  | tail _ hpass ih => exact ih.pass hpass

/-- The tables passed are tables of the schema, none of them twice. -/
theorem length_le {walk : Walk} (hclimbs : schema.Climbs start walk) :
    walk.passed.length ≤ schema.tables.size := by
  have hnodup : walk.passed.Nodup := .of_map Table.name hclimbs.distinct
  have hsubset : walk.passed ⊆ schema.tables.values := by
    intro table hmem
    obtain ⟨front, back, heq⟩ := List.append_of_mem hmem
    have hprefix : front ++ [table] <+: walk.passed := ⟨back, by simp [heq]⟩
    obtain ⟨name, -, hfind⟩ := Option.bind_eq_some_iff.1 (hclimbs.found front table hprefix)
    exact mem_values_of_find? hfind
  calc
    walk.passed.length ≤ schema.tables.values.length :=
      (hnodup.subperm hsubset).length_le
    _ = schema.tables.size := List.length_map _

end Climbs

/-! ## The end in a hierarchy in order -/

theorem Ascent.getLast?_elim_eq_none
    (hparents : ∀ child parent, schema.HasParent child parent → parent ∈ schema.tables.names)
    {current : Option String} {above : List Table} (hascent : schema.Ascent current above)
    (hcurrent : ∀ name, current = some name → name ∈ schema.tables.names) :
    above.getLast?.elim current Table.parent = none := by
  induction hascent with
  | root => rfl
  | @missing name hmissing =>
    exact absurd (hcurrent name rfl) (Catalog.find?_eq_none_iff.1 hmissing)
  | @step name table above hfind _ ih =>
    have hnext := ih fun parent hparent =>
      hparents name parent (hasParent_iff.2 ⟨table, hfind, hparent⟩)
    cases above with
    | nil => exact hnext
    | cons next rest => rwa [List.getLast?_cons_cons]

/-- The walk is not cut short, and what it ends at has no parent. -/
theorem parentAbove_ancestors (hacyclic : schema.Acyclic) (hstored : schema.StoredByName)
    (hparents : ∀ child parent, schema.HasParent child parent → parent ∈ schema.tables.names)
    (name : String) : schema.parentAbove name (schema.ancestors name) = none :=
  (ascent_ancestors hacyclic hstored name).getLast?_elim_eq_none hparents fun parent hparent =>
    hparents name parent hparent

/-- Whatever the tables of a schema, there is no endless walk, and the ancestors of a name are the
tables passed where the walk from there ends. There are no more of them than tables, their names are
all different, none of them is the name itself, and each is found under the parent of the one
before. If no parents run in a circle or are missing and tables are stored under their names, they
lead to a table without a parent. -/
theorem ancestors_walked (schema : Schema) (name : String) :
    (WellFounded fun later earlier => schema.Passes name earlier later) ∧
    (∃ last, ReflTransGen (schema.Passes name) ⟨[], schema.parent? name⟩
        ⟨schema.ancestors name, last⟩ ∧
      schema.Ends name ⟨schema.ancestors name, last⟩) ∧
    (schema.ancestors name).length ≤ schema.tables.size ∧
    ((schema.ancestors name).map Table.name).Nodup ∧
    name ∉ (schema.ancestors name).map Table.name ∧
    (∀ front table, front ++ [table] <+: schema.ancestors name →
      (schema.parentAbove name front).bind schema.table? = some table) ∧
    (schema.Acyclic →
      (∀ child parent, schema.HasParent child parent → parent ∈ schema.tables.names) →
      schema.StoredByName → schema.parentAbove name (schema.ancestors name) = none) := by
  obtain ⟨last, hwalk, hends⟩ := schema.exists_end name [] (schema.parent? name)
  have hclimbs := (Climbs.init schema name).run hwalk
  exact ⟨wellFounded_passes schema name, ⟨last, hwalk, hends⟩, hclimbs.length_le,
    hclimbs.distinct, hclimbs.left, hclimbs.found,
    fun hacyclic hparents hstored => parentAbove_ancestors hacyclic hstored hparents name⟩

def childTable (name parent : String) : Table :=
  { bareTable name with parent := some parent }

/-- Managers are employees, and employees are persons. -/
def managers : Schema :=
  { empty with
    tables := Catalog.ofList
      [("manager", childTable "manager" "employee"), ("employee", childTable "employee" "person"),
        ("person", bareTable "person")] }

theorem ancestors_walked_managers :
    managers.Acyclic ∧
      (∀ child parent, managers.HasParent child parent → parent ∈ managers.tables.names) ∧
      managers.StoredByName ∧
      managers.ancestors "manager" = [childTable "employee" "person", bareTable "person"] ∧
      managers.parentAbove "manager" (managers.ancestors "manager") = none := by
  have hentries : managers.tables.entries.all fun entry =>
      entry.2.name = entry.1 ∧ entry.2.parent.all managers.tables.names.contains := by decide
  obtain ⟨hcycles, hancestors⟩ : managers.parentCycles = [] ∧
      managers.ancestors "manager" = [childTable "employee" "person", bareTable "person"] := by
    decide +kernel
  have hentry {name : String} {table : Table} (hfind : managers.table? name = some table) :
      table.name = name ∧ table.parent.all managers.tables.names.contains := by
    simpa using List.all_eq_true.1 hentries (name, table) (Catalog.find?_eq_some_iff.1 hfind)
  have hacyclic := parentCycles_eq_nil_iff.1 hcycles
  have hparents : ∀ child parent, managers.HasParent child parent →
      parent ∈ managers.tables.names := by
    intro child parent hparent
    obtain ⟨table, hfind, hnext⟩ := hasParent_iff.1 hparent
    simpa [hnext] using (hentry hfind).2
  have hstored : managers.StoredByName := fun name table hfind => (hentry hfind).1
  obtain ⟨-, -, -, -, -, -, hroot⟩ := ancestors_walked managers "manager"
  exact ⟨hacyclic, hparents, hstored, hancestors, hroot hacyclic hparents hstored⟩

/-- A table that is stored under another name than its own and is its own parent stands above
itself, but once only. -/
example :
    let misfiled : Schema :=
      { empty with
        tables := Catalog.ofList
          [("novice", childTable "novice" "coach"), ("coach", childTable "mentor" "coach")] }
    (misfiled.ancestors "novice").map Table.name = ["mentor"] ∧
      (misfiled.ancestors "coach").map Table.name = ["mentor"] := by
  decide +kernel

end ClassDiagram.Schema
