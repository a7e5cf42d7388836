import Mathlib.Data.List.Pairwise
import Mathlib.Data.List.Forall2
import Mathlib.Data.List.Perm.Basic
import ClassDiagram.Sql.Script
import ClassDiagram.Proofs.Derivation.Soundness
import ClassDiagram.Proofs.Ranks

/-!
# Statements of a script

The statements create every listed table once, in an order that is told from the schema alone, and
each reference of a column becomes one clause. A clause that is written with its column names a
table that is there by then; the other clauses follow when all tables are there.
-/

namespace ClassDiagram

/-! ## What statements do -/

/-- A foreign key as a REFERENCES clause states it. -/
structure KeyClause where
  table : String
  column : String
  reference : ColumnReference
  deriving DecidableEq, Repr

namespace Statement

/-- The table that a statement creates. -/
def created? : Statement → Option Table
  | createTable table _ => some table
  | addForeignKey .. => none

/-- The REFERENCES clauses of a statement. -/
def keyClauses : Statement → List KeyClause
  | createTable table clauses =>
    clauses.filterMap fun clause =>
      clause.inlineReference.map fun reference =>
        { table := table.name, column := clause.column.name, reference }
  | addForeignKey table column reference => [{ table, column, reference }]

end Statement

/-- The foreign keys that the columns of a table ask for. -/
def Table.keyClauses (table : Table) : List KeyClause :=
  table.columns.filterMap fun column =>
    column.references.map fun reference =>
      { table := table.name, column := column.name, reference }

theorem created?_of_mem_deferredKeys {pending : List String} {table : Table}
    {statement : Statement} (hmem : statement ∈ deferredKeys pending table) :
    statement.created? = none := by
  obtain ⟨column, -, hstatement⟩ := List.mem_filterMap.1 hmem
  obtain ⟨reference, -, rfl⟩ := Option.map_eq_some_iff.1 hstatement
  rfl

/-- What each item gives in one of two readings is given in both together. -/
theorem filterMap_append_filterMap_perm {α β : Type} {left right whole : α → Option β}
    (hsplit : ∀ item, left item = none ∧ right item = whole item ∨
      left item = whole item ∧ right item = none) (items : List α) :
    (items.filterMap left ++ items.filterMap right).Perm (items.filterMap whole) := by
  induction items with
  | nil => exact .refl _
  | cons item rest ih =>
    rcases hsplit item with ⟨hleft, hright⟩ | ⟨hleft, hright⟩
    · cases hwhole : whole item with
      | none => simpa [List.filterMap_cons, hleft, hright, hwhole] using ih
      | some result =>
        simp only [List.filterMap_cons, hleft, hright, hwhole]
        exact List.perm_middle.trans (ih.cons result)
    · cases hwhole : whole item with
      | none => simpa [List.filterMap_cons, hleft, hright, hwhole] using ih
      | some result =>
        simp only [List.filterMap_cons, hleft, hright, hwhole, List.cons_append]
        exact ih.cons result

theorem keyClauses_creation (pending : List String) (table : Table) :
    (creation pending table).keyClauses = table.columns.filterMap fun column =>
      (column.references.filter fun reference => !mustWait table pending reference).map
        fun reference => { table := table.name, column := column.name, reference } := by
  rw [creation, Statement.keyClauses, List.filterMap_map]
  rfl

theorem keyClauses_deferredKeys (pending : List String) (table : Table) :
    (deferredKeys pending table).flatMap Statement.keyClauses =
      table.columns.filterMap fun column =>
        (column.references.filter fun reference => mustWait table pending reference).map
          fun reference => { table := table.name, column := column.name, reference } := by
  rw [deferredKeys]
  induction table.columns with
  | nil => rfl
  | cons column rest ih =>
    cases hdeferred : column.references.filter fun reference => mustWait table pending reference <;>
      simp [hdeferred, Statement.keyClauses, ih]

/-- A reference is written with its column or deferred, and never both. -/
theorem keyClauses_creation_append_deferredKeys (pending : List String) (table : Table) :
    ((creation pending table).keyClauses ++
      (deferredKeys pending table).flatMap Statement.keyClauses).Perm table.keyClauses := by
  rw [keyClauses_creation, keyClauses_deferredKeys]
  apply filterMap_append_filterMap_perm
  intro column
  cases column.references with
  | none => simp
  | some reference => cases hwait : mustWait table pending reference <;> simp [hwait]

/-! ## Tables that are still to be created -/

theorem map_fst_withPending (pending : List String) (tables : List Table) :
    (withPending pending tables).map Prod.fst = tables := by
  induction tables generalizing pending with
  | nil => rfl
  | cons table rest ih => rw [withPending, List.map_cons, ih]

/-- When the turn of a table comes, the tables before it are no longer waited for. -/
theorem withPending_eq_append_cons {pending : List String} {tables : List Table}
    {earlier later : List (Table × List String)} {step : Table × List String}
    (hsteps : withPending pending tables = earlier ++ step :: later) :
    ∀ name, name ∈ step.2 ↔ name ∈ pending ∧ name ∉ earlier.map fun step => step.1.name := by
  induction tables generalizing pending earlier with
  | nil => simp [withPending] at hsteps
  | cons table rest ih =>
    intro name
    rw [withPending, List.cons_eq_append_iff] at hsteps
    rcases hsteps with ⟨rfl, hstep⟩ | ⟨front, rfl, hrest⟩
    · rw [List.cons.injEq] at hstep
      simp [hstep.1]
    · rw [ih hrest name, List.mem_filter, List.map_cons, List.mem_cons, not_or, and_assoc]
      simp

namespace Schema

variable {schema : Schema} {names : List String}

/-- The steps in which the tables are created. -/
def creationSteps (schema : Schema) (names : List String) : List (Table × List String) :=
  withPending ((schema.creationOrder names).map Table.name) (schema.creationOrder names)

theorem statements_eq (schema : Schema) (names : List String) :
    schema.statements names =
      (schema.creationSteps names).map (fun step => creation step.2 step.1) ++
        (schema.creationSteps names).flatMap fun step => deferredKeys step.2 step.1 := rfl

theorem map_fst_creationSteps (schema : Schema) (names : List String) :
    (schema.creationSteps names).map Prod.fst = schema.creationOrder names :=
  map_fst_withPending _ _

theorem created_statements (schema : Schema) (names : List String) :
    (schema.statements names).filterMap Statement.created? = schema.creationOrder names := by
  have hkeys : ((schema.creationSteps names).flatMap fun step =>
      deferredKeys step.2 step.1).filterMap Statement.created? = [] := by
    rw [List.filterMap_eq_nil_iff]
    intro statement hmem
    obtain ⟨step, -, hstatement⟩ := List.mem_flatMap.1 hmem
    exact created?_of_mem_deferredKeys hstatement
  rw [statements_eq, List.filterMap_append, hkeys, List.append_nil, List.filterMap_map,
    ← map_fst_creationSteps, ← List.filterMap_eq_map]
  rfl

theorem mem_creationOrder_of_createTable {table : Table} {clauses : List ColumnClause}
    (hmem : .createTable table clauses ∈ schema.statements names) :
    table ∈ schema.creationOrder names := by
  rw [← created_statements, List.mem_filterMap]
  exact ⟨_, hmem, rfl⟩

theorem keyClauses_statements (schema : Schema) (names : List String) :
    ((schema.statements names).flatMap Statement.keyClauses).Perm
      ((schema.creationOrder names).flatMap Table.keyClauses) := by
  rw [statements_eq, List.flatMap_append, List.flatMap_map, List.flatMap_assoc,
    ← map_fst_creationSteps, List.flatMap_map]
  exact (List.flatMap_append_perm _ _ _).trans (List.Perm.flatMap_left _ fun step _ =>
    keyClauses_creation_append_deferredKeys step.2 step.1)

/-! ## The order of the tables -/

/-- A listed table is created; no other table is. -/
theorem mem_creationOrder_iff {table : Table} :
    table ∈ schema.creationOrder names ↔ table ∈ schema.tables.values ∧ table.name ∈ names := by
  simp only [creationOrder, List.mem_append, List.mem_filter, List.mem_mergeSort]
  cases table.isJoin <;> simp

theorem creationOrder_perm (schema : Schema) (names : List String) :
    (schema.creationOrder names).Perm
      (schema.tables.values.filter fun table => names.contains table.name) := by
  rw [creationOrder]
  refine ((List.mergeSort_perm _ _).append_left _).trans ?_
  exact List.perm_append_comm.trans (List.filter_append_perm Table.isJoin _)

theorem nodup_names_creationOrder (hstored : schema.StoredByName) (names : List String) :
    ((schema.creationOrder names).map Table.name).Nodup := by
  rw [((schema.creationOrder_perm names).map Table.name).nodup_iff]
  have hnames := schema.tables.nodup_names
  rw [names_eq_map_values hstored] at hnames
  exact hnames.sublist (List.filter_sublist.map Table.name)

end Schema

namespace Schema

variable {schema : Schema} {names : List String}

/-- The first link that is kept in the left table comes before all that are kept in the right one.
Two tables in which no link is kept stand as in the schema. -/
def LinkedBefore (schema : Schema) (left right : Table) : Prop :=
  (∃ before link after, schema.links = before ++ link :: after ∧
    link.joinTable = some left.name ∧
      ∀ other ∈ before ++ [link], other.joinTable ≠ some right.name) ∨
  (∀ link ∈ schema.links, link.joinTable ≠ some left.name ∧ link.joinTable ≠ some right.name) ∧
    [left, right].Sublist schema.tables.values

theorem joinRank_eq_length_iff {table : Table} :
    schema.joinRank table = schema.links.length ↔
      ∀ link ∈ schema.links, link.joinTable ≠ some table.name := by
  simp [joinRank, List.findIdx_eq_length]

theorem joinTable_getElem_joinRank {table : Table}
    (hlength : schema.joinRank table < schema.links.length) :
    schema.links[schema.joinRank table].joinTable = some table.name :=
  beq_iff_eq.1 (List.findIdx_getElem (w := hlength))

theorem linkedBefore_of_joinRank_lt {left right : Table}
    (hrank : schema.joinRank left < schema.joinRank right) : schema.LinkedBefore left right := by
  left
  have hlength : schema.joinRank left < schema.links.length :=
    Nat.lt_of_lt_of_le hrank List.findIdx_le_length
  refine ⟨schema.links.take (schema.joinRank left), schema.links[schema.joinRank left],
    schema.links.drop (schema.joinRank left + 1), ?_, ?_, ?_⟩
  · rw [List.getElem_cons_drop, List.take_append_drop]
  · exact joinTable_getElem_joinRank hlength
  · intro other hother
    rw [List.take_append_getElem, List.mem_take_iff_getElem] at hother
    obtain ⟨place, hplace, rfl⟩ := hother
    have hbefore : place < schema.joinRank right := by omega
    simpa using List.not_of_lt_findIdx hbefore

/-- Join tables are created in the order of their first links. -/
theorem pairwise_linkedBefore (hstored : schema.StoredByName) {joins : List Table}
    (hjoins : joins.Sublist schema.tables.values) :
    (joins.mergeSort fun left right => schema.joinRank left ≤ schema.joinRank right).Pairwise
      schema.LinkedBefore := by
  have hdistinct : (schema.tables.values.map Table.name).Nodup :=
    names_eq_map_values hstored ▸ schema.tables.nodup_names
  rw [List.pairwise_iff_forall_sublist]
  intro left right hsub
  rcases Nat.lt_or_eq_of_le (rank_le_of_mergeSort schema.joinRank hsub) with hlt | heq
  · exact linkedBefore_of_joinRank_lt hlt
  · have hvalues := (pair_sublist_of_mergeSort schema.joinRank hsub heq).trans hjoins
    have hne : left.name ≠ right.name := by
      simpa using hdistinct.sublist (hvalues.map Table.name)
    have hunlinked : schema.joinRank left = schema.links.length := by
      by_contra hlinked
      have hlength : schema.joinRank left < schema.links.length :=
        Nat.lt_of_le_of_ne List.findIdx_le_length hlinked
      have hright := joinTable_getElem_joinRank (heq ▸ hlength)
      simp only [← heq, joinTable_getElem_joinRank hlength, Option.some.injEq] at hright
      exact hne hright
    refine .inr ⟨fun link hlink => ?_, hvalues⟩
    exact ⟨joinRank_eq_length_iff.1 hunlinked link hlink,
      joinRank_eq_length_iff.1 (heq ▸ hunlinked) link hlink⟩

/-! ## Where references stand -/

/-- Each creation of a script is one of the steps. -/
theorem exists_step_of_createTable {before after : List Statement} {table : Table}
    {clauses : List ColumnClause}
    (hsplit : schema.statements names = before ++ .createTable table clauses :: after) :
    ∃ earlier pending later, schema.creationSteps names = earlier ++ (table, pending) :: later ∧
      before.filterMap Statement.created? = earlier.map Prod.fst ∧
      clauses = table.columns.map (columnClause table pending) := by
  rw [statements_eq, List.append_eq_append_iff] at hsplit
  rcases hsplit with ⟨front, -, hkeys⟩ | ⟨rest, hcreations, hrest⟩
  · -- the deferred keys create no table
    have hmem := hkeys ▸ List.mem_append_right front List.mem_cons_self
    obtain ⟨step, -, hstatement⟩ := List.mem_flatMap.1 hmem
    cases created?_of_mem_deferredKeys hstatement
  · cases rest with
    | nil =>
      have hmem := hrest ▸ List.mem_cons_self
      obtain ⟨step, -, hstatement⟩ := List.mem_flatMap.1 hmem
      cases created?_of_mem_deferredKeys hstatement
    | cons first rest =>
      obtain rfl : Statement.createTable table clauses = first := (List.cons.inj hrest).1
      obtain ⟨earlier, others, hsteps, hearlier, hothers⟩ := List.map_eq_append_iff.1 hcreations
      obtain ⟨step, later, rfl, hstep, -⟩ := List.map_eq_cons_iff.1 hothers
      rw [creation, Statement.createTable.injEq] at hstep
      obtain ⟨rfl, rfl⟩ := hstep
      refine ⟨earlier, step.2, later, hsteps, ?_, rfl⟩
      rw [← hearlier, List.filterMap_map, ← List.filterMap_eq_map]
      rfl

theorem columns_of_createTable_mem {table : Table} {clauses : List ColumnClause}
    (hmem : .createTable table clauses ∈ schema.statements names) :
    clauses.map ColumnClause.column = table.columns := by
  obtain ⟨before, after, hsplit⟩ := List.append_of_mem hmem
  obtain ⟨earlier, pending, later, -, -, rfl⟩ := exists_step_of_createTable hsplit
  rw [List.map_map]
  exact List.map_id _

/-- Each deferred key comes behind all creations, and its table waited for another one. -/
theorem exists_step_of_addForeignKey {before after : List Statement} {table column : String}
    {reference : ColumnReference}
    (hsplit : schema.statements names =
      before ++ .addForeignKey table column reference :: after) :
    before.filterMap Statement.created? = schema.creationOrder names ∧
      (∀ later ∈ after, later.created? = none) ∧
      ∃ step ∈ schema.creationSteps names, step.1.name = table ∧ reference.table ∈ step.2 := by
  have hcreated := created_statements schema names
  rw [hsplit, List.filterMap_append] at hcreated
  have htail : ∃ front, ((schema.creationSteps names).flatMap fun step =>
      deferredKeys step.2 step.1) = front ++ .addForeignKey table column reference :: after := by
    rw [statements_eq, List.append_eq_append_iff] at hsplit
    rcases hsplit with ⟨front, -, hkeys⟩ | ⟨rest, hcreations, hrest⟩
    · exact ⟨front, hkeys⟩
    · cases rest with
      | nil => exact ⟨[], hrest.symm⟩
      | cons first rest =>
        have hmem := hcreations ▸ List.mem_append_right before List.mem_cons_self
        obtain ⟨step, -, hcreation⟩ := List.mem_map.1 hmem
        cases hcreation.trans (List.cons.inj hrest).1.symm
  obtain ⟨front, hkeys⟩ := htail
  have hdeferred : ∀ statement ∈ .addForeignKey table column reference :: after,
      ∃ step ∈ schema.creationSteps names, statement ∈ deferredKeys step.2 step.1 := fun _ hmem =>
    List.mem_flatMap.1 (hkeys ▸ List.mem_append_right front hmem)
  have hafter : ∀ statement ∈ .addForeignKey table column reference :: after,
      statement.created? = none := by
    intro statement hmem
    obtain ⟨step, -, hstatement⟩ := hdeferred statement hmem
    exact created?_of_mem_deferredKeys hstatement
  refine ⟨?_, (List.forall_mem_cons.1 hafter).2, ?_⟩
  · rwa [List.filterMap_eq_nil_iff.2 hafter, List.append_nil] at hcreated
  · obtain ⟨step, hstep, hstatement⟩ := hdeferred _ List.mem_cons_self
    obtain ⟨owner, -, hkey⟩ := List.mem_filterMap.1 hstatement
    obtain ⟨target, htarget, heq⟩ := Option.map_eq_some_iff.1 hkey
    cases heq
    refine ⟨step, hstep, rfl, ?_⟩
    have hwait := (Option.filter_eq_some_iff.1 htarget).2
    simp only [mustWait, Bool.and_eq_true, List.contains_eq_mem, decide_eq_true_eq] at hwait
    exact hwait.2

/-- A clause that is written with its column names the table itself, one that is there, or one
that the script does not create. -/
theorem inlineReference_cases {before after : List Statement} {table : Table}
    {clauses : List ColumnClause}
    (hsplit : schema.statements names = before ++ .createTable table clauses :: after)
    {clause : ColumnClause} (hclause : clause ∈ clauses) {reference : ColumnReference}
    (hinline : clause.inlineReference = some reference) :
    clause.column ∈ table.columns ∧ clause.column.references = some reference ∧
      (reference.table = table.name ∨
        reference.table ∈ (before.filterMap Statement.created?).map Table.name ∨
        reference.table ∉ (schema.creationOrder names).map Table.name) := by
  obtain ⟨earlier, pending, later, hsteps, hbefore, rfl⟩ := exists_step_of_createTable hsplit
  obtain ⟨column, hcolumn, rfl⟩ := List.mem_map.1 hclause
  obtain ⟨hreference, hready⟩ := Option.filter_eq_some_iff.1 hinline
  refine ⟨hcolumn, hreference, ?_⟩
  by_cases hown : reference.table = table.name
  · exact .inl hown
  · right
    have hnot : reference.table ∉ pending := by
      simpa [mustWait, hown] using hready
    rw [withPending_eq_append_cons hsteps, not_and_or, Classical.not_not] at hnot
    rw [hbefore, List.map_map]
    exact hnot.symm

/-- A listed table that a clause names is created, as references lead to tables of the schema. -/
theorem KeepsRules.inlineReference_cases (hrules : schema.KeepsRules)
    {before after : List Statement} {table : Table} {clauses : List ColumnClause}
    (hsplit : schema.statements names = before ++ .createTable table clauses :: after)
    {clause : ColumnClause} (hclause : clause ∈ clauses) {reference : ColumnReference}
    (hinline : clause.inlineReference = some reference) :
    reference.table = table.name ∨
      reference.table ∈ (before.filterMap Statement.created?).map Table.name ∨
      reference.table ∉ names := by
  obtain ⟨hcolumn, hreference, hcases⟩ := Schema.inlineReference_cases hsplit hclause hinline
  refine hcases.imp_right (Or.imp_right fun hnew hlisted => hnew ?_)
  have htable : table ∈ schema.creationOrder names :=
    mem_creationOrder_of_createTable (hsplit ▸ List.mem_append_right before List.mem_cons_self)
  obtain ⟨name, hfind⟩ := Catalog.mem_values_iff.1 (mem_creationOrder_iff.1 htable).1
  obtain ⟨target, htarget, -⟩ :=
    (hrules.tables name table hfind).references clause.column hcolumn reference hreference
  have hname : target.name = reference.table := hrules.storedByName _ _ htarget
  rw [← hname]
  exact List.mem_map_of_mem (mem_creationOrder_iff.2
    ⟨Catalog.mem_values_iff.2 ⟨_, htarget⟩, hname ▸ hlisted⟩)

/-- A key that is added stands behind all creations. -/
theorem addForeignKey_after_creations {before after : List Statement} {table column : String}
    {reference : ColumnReference}
    (hsplit : schema.statements names =
      before ++ .addForeignKey table column reference :: after) :
    (∀ later ∈ after, later.created? = none) ∧
      table ∈ (before.filterMap Statement.created?).map Table.name ∧
      reference.table ∈ (before.filterMap Statement.created?).map Table.name := by
  obtain ⟨hbefore, hafter, step, hstep, rfl, hwait⟩ := exists_step_of_addForeignKey hsplit
  rw [hbefore]
  refine ⟨hafter, List.mem_map_of_mem ?_, ?_⟩
  · rw [← map_fst_creationSteps]
    exact List.mem_map_of_mem hstep
  · obtain ⟨earlier, later, hsteps⟩ := List.append_of_mem hstep
    exact ((withPending_eq_append_cons hsteps _).1 hwait).1

end Schema

end ClassDiagram
