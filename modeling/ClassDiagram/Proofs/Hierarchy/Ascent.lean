import Mathlib.Logic.Relation
import ClassDiagram.Schema.Hierarchy
import ClassDiagram.Proofs.Catalog

/-!
# Climbing a hierarchy

Two walks along the parents of tables are compared with the relation "is the parent of". The search
for a cycle succeeds exactly at the tables above which they stand themselves. In a schema without
cycles the walk to the ancestors is never cut short: it meets all tables above the one it starts
from, up to a table without a parent.
-/

namespace ClassDiagram.Schema

open Relation

variable {schema : Schema}

def HasParent (schema : Schema) (child parent : String) : Prop :=
  schema.parent? child = some parent

/-- No table stands above itself. -/
def Acyclic (schema : Schema) : Prop :=
  ∀ name, ¬ TransGen schema.HasParent name name

def StoredByName (schema : Schema) : Prop :=
  ∀ name table, schema.table? name = some table → table.name = name

theorem hasParent_iff {child parent : String} :
    schema.HasParent child parent ↔
      ∃ table, schema.table? child = some table ∧ table.parent = some parent :=
  Option.bind_eq_some_iff

theorem HasParent.mem_names {child parent : String} (hparent : schema.HasParent child parent) :
    child ∈ schema.tables.names := by
  obtain ⟨table, hfind, -⟩ := hasParent_iff.1 hparent
  exact Catalog.mem_names_of_find? hfind

/-! ## Cycles -/

theorem mem_of_closed {names : List String} {start finish : String}
    (hclosed : ∀ name ∈ names, ∀ parent, schema.HasParent name parent → parent ∈ names)
    (hstart : start ∈ names) (hreach : ReflTransGen schema.HasParent start finish) :
    finish ∈ names := by
  induction hreach with
  | refl => exact hstart
  | tail _ hparent ih => exact hclosed _ ih _ hparent

/-- The names met so far are closed under parents up to the name that is met next. A walk that meets
one of them again therefore stays among them, and the first table is not one of them. -/
theorem cycleFrom_isSome_iff_of_closed (first : String) (others : List String)
    (current : Option String)
    (hclosed : ∀ name ∈ others, ∀ parent, schema.HasParent name parent →
      parent ∈ others ∨ current = some parent)
    (hfirst : first ∉ others) :
    (schema.cycleFrom first others current).isSome ↔
      ∃ name, current = some name ∧ ReflTransGen schema.HasParent name first := by
  fun_induction cycleFrom schema first others current with
  | case1 => simp
  | case2 others => simp [ReflTransGen.refl]
  | case3 others name hne hmet =>
    have hnever : ¬ ReflTransGen schema.HasParent name first := by
      refine fun hreach => hfirst (mem_of_closed ?_ hmet hreach)
      intro visited hvisited parent hparent
      rcases hclosed visited hvisited parent hparent with hmem | hcurrent
      · exact hmem
      · cases hcurrent
        exact hmet
    simp [hnever]
  | case4 others name hne hmet hname hfewer ih =>
    have hnext := ih
      (by
        intro visited hvisited parent hparent
        rcases List.mem_append.1 hvisited with hold | hnew
        · left
          rcases hclosed visited hold parent hparent with hmem | hcurrent
          · exact List.mem_append_left _ hmem
          · cases hcurrent
            exact List.mem_append_right _ (List.mem_singleton_self _)
        · rw [List.mem_singleton.1 hnew] at hparent
          exact Or.inr hparent)
      (by simpa [hfirst] using Ne.symm hne)
    rw [hnext]
    constructor
    · rintro ⟨parent, hparent, hreach⟩
      exact ⟨name, rfl, ReflTransGen.head hparent hreach⟩
    · rintro ⟨_, heq, hreach⟩
      cases heq
      rcases ReflTransGen.cases_head hreach with heq | ⟨parent, hparent, hrest⟩
      · exact absurd heq hne
      · exact ⟨parent, hparent, hrest⟩
  | case5 others name hne hmet hname =>
    have hnever : ¬ ReflTransGen schema.HasParent name first := by
      intro hreach
      rcases ReflTransGen.cases_head hreach with heq | ⟨parent, hparent, -⟩
      · exact hne heq
      · exact hname hparent.mem_names
    simp [hnever]

/-- A cycle is found from a table exactly if the table stands above itself. -/
theorem cycleFrom_isSome_iff (name : String) :
    (schema.cycleFrom name [] (schema.parent? name)).isSome ↔
      TransGen schema.HasParent name name := by
  rw [cycleFrom_isSome_iff_of_closed name [] _ (by simp) (by simp), TransGen.head'_iff]
  rfl

/-- What the search for cycles adds to those found before, when a table's turn has come. -/
def addCycle (schema : Schema) (found : List ParentCycle) (name : String) : List ParentCycle :=
  if found.any fun cycle => cycle.members.contains name then found
  else found ++ (schema.cycleFrom name [] (schema.parent? name)).toList

theorem foldl_addCycle_eq_nil_iff (names : List String) (found : List ParentCycle) :
    names.foldl schema.addCycle found = [] ↔
      found = [] ∧ ∀ name ∈ names, ¬ TransGen schema.HasParent name name := by
  induction names generalizing found with
  | nil => simp
  | cons name rest ih =>
    have hstep : schema.addCycle found name = [] ↔
        found = [] ∧ ¬ TransGen schema.HasParent name name := by
      rw [← cycleFrom_isSome_iff]
      cases found with
      | nil => simp [addCycle]
      | cons first others =>
        simp only [addCycle]
        split <;> simp
    rw [List.foldl_cons, ih, hstep, List.forall_mem_cons, and_assoc]

/-- No cycle is reported exactly if there is none. -/
theorem parentCycles_eq_nil_iff : schema.parentCycles = [] ↔ schema.Acyclic := by
  rw [show schema.parentCycles = schema.tables.names.foldl schema.addCycle [] from rfl,
    foldl_addCycle_eq_nil_iff]
  constructor
  · rintro ⟨-, hnames⟩ name hcycle
    obtain ⟨parent, hparent, -⟩ := TransGen.head'_iff.1 hcycle
    exact hnames name hparent.mem_names hcycle
  · exact fun hacyclic => ⟨rfl, fun name _ => hacyclic name⟩

theorem withoutCycles_of_acyclic (hacyclic : schema.Acyclic) : schema.withoutCycles = schema := by
  rw [withoutCycles, parentCycles_eq_nil_iff.2 hacyclic]
  rfl

/-! ## Ancestors -/

/-- The tables met when parents are followed from a name on, until there is no parent or no table
under its name. -/
inductive Ascent (schema : Schema) : Option String → List Table → Prop where
  | root : Ascent schema none []
  | missing {name : String} (hmissing : schema.table? name = none) :
      Ascent schema (some name) []
  | step {name : String} {table : Table} {above : List Table}
      (hfind : schema.table? name = some table) (habove : Ascent schema table.parent above) :
      Ascent schema (some name) (table :: above)

theorem Ascent.unique {current : Option String} {left right : List Table}
    (hleft : schema.Ascent current left) (hright : schema.Ascent current right) :
    left = right := by
  induction hleft generalizing right with
  | root => cases hright; rfl
  | missing hmissing =>
    cases hright with
    | missing => rfl
    | step hfind => simp [hmissing] at hfind
  | step hfind _ ih =>
    cases hright with
    | missing hmissing => simp [hmissing] at hfind
    | step hfind' habove =>
      cases hfind.symm.trans hfind'
      rw [ih habove]

/-- The walk is never cut short, since every table met so far stands below the next one. -/
theorem ancestorsFrom_eq_append (hacyclic : schema.Acyclic) (hstored : schema.StoredByName)
    (start : String) (chain : List Table) (current : Option String)
    (hstart : ∀ parent, current = some parent → TransGen schema.HasParent start parent)
    (hchain : ∀ visited ∈ chain, ∀ parent, current = some parent →
      TransGen schema.HasParent visited.name parent) :
    ∃ above, schema.ancestorsFrom start chain current = chain ++ above ∧
      schema.Ascent current above := by
  fun_induction ancestorsFrom schema start chain current with
  | case1 chain => exact ⟨[], (List.append_nil chain).symm, .root⟩
  | case2 chain name hfind => exact ⟨[], (List.append_nil chain).symm, .missing hfind⟩
  | case3 chain name table hfind hmet =>
    exfalso
    rw [hstored name table hfind, Bool.or_eq_true, List.any_eq_true] at hmet
    rcases hmet with ⟨visited, hvisited, heq⟩ | heq
    · rw [beq_iff_eq] at heq
      exact hacyclic name (heq ▸ hchain visited hvisited name rfl)
    · rw [beq_iff_eq] at heq
      exact hacyclic name (heq ▸ hstart name rfl)
  | case4 chain name table hfind hmet hfewer ih =>
    have hparent : ∀ parent, table.parent = some parent → schema.HasParent name parent :=
      fun parent heq => hasParent_iff.2 ⟨table, hfind, heq⟩
    obtain ⟨above, heq, habove⟩ := ih
      (fun parent hnext => (hstart name rfl).tail (hparent parent hnext))
      (by
        intro visited hvisited parent hnext
        rcases List.mem_append.1 hvisited with hold | hnew
        · exact (hchain visited hold name rfl).tail (hparent parent hnext)
        · rw [List.mem_singleton.1 hnew, hstored name table hfind]
          exact .single (hparent parent hnext))
    exact ⟨table :: above, by simp [heq], .step hfind habove⟩

theorem ascent_ancestors (hacyclic : schema.Acyclic) (hstored : schema.StoredByName)
    (name : String) : schema.Ascent (schema.parent? name) (schema.ancestors name) := by
  obtain ⟨above, heq, habove⟩ := ancestorsFrom_eq_append hacyclic hstored name []
    (schema.parent? name) (fun parent hparent => .single hparent) (by simp)
  rw [show schema.ancestors name = above from heq]
  exact habove

theorem ancestors_eq_of_ascent (hacyclic : schema.Acyclic) (hstored : schema.StoredByName)
    {name : String} {above : List Table} (habove : schema.Ascent (schema.parent? name) above) :
    schema.ancestors name = above :=
  (ascent_ancestors hacyclic hstored name).unique habove

theorem ancestors_eq_nil_of_parent?_eq_none {name : String}
    (hparent : schema.parent? name = none) : schema.ancestors name = [] := by
  rw [ancestors, show (schema.table? name).bind Table.parent = none from hparent, ancestorsFrom]

/-- Above a table stand its parent and what stands above that. -/
theorem ancestors_eq_cons (hacyclic : schema.Acyclic) (hstored : schema.StoredByName)
    {name above : String} {parent : Table} (hparent : schema.HasParent name above)
    (hfind : schema.table? above = some parent) :
    schema.ancestors name = parent :: schema.ancestors above := by
  apply ancestors_eq_of_ascent hacyclic hstored
  have hrest := ascent_ancestors hacyclic hstored above
  rw [parent?, hfind] at hrest
  rw [show schema.parent? name = some above from hparent]
  exact .step hfind hrest

theorem Ascent.exists_reach {current : Option String} {above : List Table} {table : Table}
    (hascent : schema.Ascent current above) (hmem : table ∈ above) :
    ∃ first last, current = some first ∧ ReflTransGen schema.HasParent first last ∧
      schema.table? last = some table := by
  induction hascent with
  | root => cases hmem
  | missing => cases hmem
  | @step name next rest hfind _ ih =>
    rcases List.mem_cons.1 hmem with rfl | hrest
    · exact ⟨name, name, rfl, .refl, hfind⟩
    · obtain ⟨first, last, hparent, hreach, hlast⟩ := ih hrest
      exact ⟨name, last, rfl, .head (hasParent_iff.2 ⟨next, hfind, hparent⟩) hreach, hlast⟩

theorem Ascent.mem_of_reach {first last : String} {above : List Table} {table : Table}
    (hreach : ReflTransGen schema.HasParent first last)
    (hascent : schema.Ascent (some first) above) (hlast : schema.table? last = some table) :
    table ∈ above := by
  induction hreach using ReflTransGen.head_induction_on generalizing above with
  | refl =>
    cases hascent with
    | missing hmissing => simp [hmissing] at hlast
    | step hfind =>
      cases hfind.symm.trans hlast
      exact List.mem_cons_self
  | head hparent _ ih =>
    obtain ⟨next, hnext, heq⟩ := hasParent_iff.1 hparent
    cases hascent with
    | missing hmissing => simp [hmissing] at hnext
    | step hfind habove =>
      cases hfind.symm.trans hnext
      exact List.mem_cons_of_mem _ (ih (heq ▸ habove))

/-- The ancestors of a table are all tables that stand above it. -/
theorem mem_ancestors_iff (hacyclic : schema.Acyclic) (hstored : schema.StoredByName)
    {name : String} {table : Table} :
    table ∈ schema.ancestors name ↔
      ∃ above, TransGen schema.HasParent name above ∧ schema.table? above = some table := by
  have hascent := ascent_ancestors hacyclic hstored name
  constructor
  · intro hmem
    obtain ⟨first, last, hparent, hreach, hlast⟩ := hascent.exists_reach hmem
    exact ⟨last, TransGen.head'_iff.2 ⟨first, hparent, hreach⟩, hlast⟩
  · rintro ⟨above, hreach, hfind⟩
    obtain ⟨first, hparent, hrest⟩ := TransGen.head'_iff.1 hreach
    rw [show schema.parent? name = some first from hparent] at hascent
    exact Ascent.mem_of_reach hrest hascent hfind

end ClassDiagram.Schema
