import ClassDiagram.Proofs.Derivation.ColumnTypes
import ClassDiagram.Proofs.Schema.Merge
import ClassDiagram.Proofs.Sql.Effects

/-!
# Scripts of what is new

The script of a later schema's new tables is run in a database that the script of the earlier
schema has made. No table is created by both, and each table that a foreign key refers to is created
by one of them. The column need not be: the earlier version of the table may lack it. This is so
exactly if the two schemas together break a rule.
-/

namespace ClassDiagram

open Text

namespace Schema

variable {before after : Schema}

/-- The statements of the script of a whole schema. -/
def baseStatements (schema : Schema) : List Statement :=
  schema.statements schema.tables.names

/-- The statements of the script of what is new in the later schema. -/
def newStatements (before after : Schema) : List Statement :=
  (before.merge after).statements ((before.newTables after).map Table.name)

/-- What the two scripts do, one after the other. -/
def effectsOfBoth (before after : Schema) : List Effect :=
  (before.baseStatements ++ before.newStatements after).flatMap Statement.effects

end Schema

theorem Table.mem_keyClauses_iff {table : Table} {clause : KeyClause} :
    clause ∈ table.keyClauses ↔ ∃ column ∈ table.columns, ∃ reference,
      column.references = some reference ∧
        clause = { table := table.name, column := column.name, reference } := by
  rw [keyClauses, List.mem_filterMap]
  simp only [Option.map_eq_some_iff, eq_comm (a := clause)]

namespace Schema

variable {before after : Schema}

theorem filterMap_created?_bothStatements (before after : Schema) :
    (before.baseStatements ++ before.newStatements after).filterMap Statement.created? =
      before.creationOrder before.tables.names ++
        (before.merge after).creationOrder ((before.newTables after).map Table.name) := by
  rw [List.filterMap_append, baseStatements, created_statements, newStatements, created_statements]

theorem filterMap_column?_effectsOfBoth (before after : Schema) :
    (before.effectsOfBoth after).filterMap Effect.column? =
      (before.creationOrder before.tables.names ++ (before.merge after).creationOrder
        ((before.newTables after).map Table.name)).flatMap fun table =>
          table.columns.map fun column => (table.name, column.name) := by
  rw [effectsOfBoth, List.flatMap_append, List.filterMap_append, List.flatMap_append,
    baseStatements, newStatements, filterMap_column?_statements, filterMap_column?_statements]

section Stored

variable (hbefore : before.StoredByName) (hafter : after.StoredByName)

include hafter in
theorem mem_values_merge_iff {table : Table} :
    table ∈ (before.merge after).tables.values ↔
      table ∈ before.tables.values ∨ table ∈ before.newTables after := by
  rw [Catalog.values, entries_merge hafter, List.map_append, List.mem_append, List.map_map,
    Function.comp_def, List.map_id']
  rfl

include hbefore

theorem mem_creationOrder_names_iff {table : Table} :
    table ∈ before.creationOrder before.tables.names ↔ table ∈ before.tables.values := by
  rw [mem_creationOrder_iff, names_eq_map_values hbefore]
  exact and_iff_left_of_imp List.mem_map_of_mem

include hafter

/-- The script of what is new creates the new tables only. -/
theorem mem_creationOrder_newTables_iff {table : Table} :
    table ∈ (before.merge after).creationOrder ((before.newTables after).map Table.name) ↔
      table ∈ before.newTables after := by
  rw [mem_creationOrder_iff, mem_values_merge_iff hafter]
  constructor
  · rintro ⟨hold | hnew, hname⟩
    · obtain ⟨other, hother, heq⟩ := List.mem_map.1 hname
      have hused : table.name ∈ before.tables.names := by
        rw [names_eq_map_values hbefore]
        exact List.mem_map_of_mem hold
      exact absurd (heq ▸ hused) (mem_newTables_iff.1 hother).2
    · exact hnew
  · exact fun hnew => ⟨.inr hnew, List.mem_map_of_mem hnew⟩

/-- No table is created by both scripts. -/
theorem nodup_tables_effectsOfBoth :
    ((before.effectsOfBoth after).filterMap Effect.table?).Nodup := by
  rw [effectsOfBoth, Statement.filterMap_table?_flatMap_effects,
    filterMap_created?_bothStatements, List.map_append, List.nodup_append]
  refine ⟨nodup_names_creationOrder hbefore _,
    nodup_names_creationOrder (StoredByName.merge hafter hbefore) _, ?_⟩
  intro name hfirst other hsecond heq
  obtain ⟨table, htable, rfl⟩ := List.mem_map.1 hfirst
  obtain ⟨new, hnew, rfl⟩ := List.mem_map.1 hsecond
  rw [mem_creationOrder_names_iff hbefore] at htable
  rw [mem_creationOrder_newTables_iff hbefore hafter, mem_newTables_iff] at hnew
  apply hnew.2
  rw [← heq, names_eq_map_values hbefore]
  exact List.mem_map_of_mem htable

/-- What both scripts create are the tables of the two schemas together. -/
theorem mem_createdByBoth_iff {table : Table} :
    table ∈ before.creationOrder before.tables.names ++ (before.merge after).creationOrder
        ((before.newTables after).map Table.name) ↔
      (before.merge after).table? table.name = some table := by
  rw [List.mem_append, mem_creationOrder_names_iff hbefore,
    mem_creationOrder_newTables_iff hbefore hafter, ← mem_values_merge_iff hafter,
    mem_values_iff_table? (StoredByName.merge hafter hbefore)]

theorem create_mem_effectsOfBoth_iff {name : String} :
    .create name ∈ before.effectsOfBoth after ↔
      ∃ table, (before.merge after).table? name = some table := by
  rw [effectsOfBoth, Statement.create_mem_flatMap_effects_iff, filterMap_created?_bothStatements,
    List.mem_map]
  simp only [mem_createdByBoth_iff hbefore hafter]
  constructor
  · rintro ⟨table, hfind, rfl⟩
    exact ⟨table, hfind⟩
  · rintro ⟨table, hfind⟩
    obtain rfl := StoredByName.merge hafter hbefore _ table hfind
    exact ⟨table, hfind, rfl⟩

theorem column_mem_effectsOfBoth_iff {reference : ColumnReference} :
    .column reference.table reference.column ∈ before.effectsOfBoth after ↔
      (before.merge after).Resolves reference := by
  rw [← Effect.mem_filterMap_column?_iff, filterMap_column?_effectsOfBoth, List.mem_flatMap]
  simp only [mem_createdByBoth_iff hbefore hafter, List.mem_map, Prod.mk.injEq]
  constructor
  · rintro ⟨table, hfind, column, hcolumn, hname, hcolumnName⟩
    exact ⟨table, hname ▸ hfind, hcolumnName ▸ List.mem_map_of_mem hcolumn⟩
  · rintro ⟨table, hfind, hmem⟩
    obtain ⟨column, hcolumn, hcolumnName⟩ := List.mem_map.1 hmem
    have hname := StoredByName.merge hafter hbefore _ table hfind
    exact ⟨table, hname.symm ▸ hfind, column, hcolumn, hname, hcolumnName⟩

theorem mem_keyClauses_newStatements_iff {clause : KeyClause} :
    clause ∈ (before.newStatements after).flatMap Statement.keyClauses ↔
      ∃ table ∈ before.newTables after, clause ∈ table.keyClauses := by
  rw [newStatements, (keyClauses_statements _ _).mem_iff, List.mem_flatMap]
  simp only [mem_creationOrder_newTables_iff hbefore hafter]

end Stored

/-- A foreign key of a new table finds its table, and its column unless the earlier version of that
table lacks it. -/
theorem KeepsRules.keyClause_newStatements (hbefore : before.KeepsRules)
    (hafter : after.KeepsRules) {clause : KeyClause}
    (hclause : clause ∈ (before.newStatements after).flatMap Statement.keyClauses) :
    .create clause.reference.table ∈ before.effectsOfBoth after ∧
      (.column clause.reference.table clause.reference.column ∈ before.effectsOfBoth after ↔
        ∀ old ∈ before.table? clause.reference.table,
          clause.reference.column ∈ old.columnNames) := by
  have hstored := hafter.storedByName
  rw [mem_keyClauses_newStatements_iff hbefore.storedByName hstored] at hclause
  obtain ⟨table, hnew, hclause⟩ := hclause
  obtain ⟨column, hcolumn, reference, hreference, rfl⟩ := Table.mem_keyClauses_iff.1 hclause
  have hfind := ((mem_newTables_iff_table? hstored).1 hnew).1
  have hresolves := (hafter.tables _ table hfind).references column hcolumn reference hreference
  rw [create_mem_effectsOfBoth_iff hbefore.storedByName hstored,
    column_mem_effectsOfBoth_iff hbefore.storedByName hstored]
  obtain ⟨target, htarget, -⟩ := id hresolves
  exact ⟨Catalog.mem_names_iff.1
    (names_candidate_subset_merge hstored (Catalog.mem_names_of_find? htarget)),
    hresolves.merge_iff hstored⟩

/-- All foreign keys find their columns exactly if the two schemas together keep the rules. -/
theorem KeepsRules.forall_column_mem_iff (hbefore : before.KeepsRules)
    (hafter : after.KeepsRules) :
    (∀ clause ∈ (before.newStatements after).flatMap Statement.keyClauses,
      .column clause.reference.table clause.reference.column ∈ before.effectsOfBoth after) ↔
        (before.merge after).faults = [] := by
  rw [faults_eq_nil_iff, keepsRules_merge_iff hbefore hafter]
  constructor
  · intro hmet table hnew column hcolumn reference hreference
    have hclause := (mem_keyClauses_newStatements_iff hbefore.storedByName hafter.storedByName).2
      ⟨table, hnew, Table.mem_keyClauses_iff.2 ⟨column, hcolumn, reference, hreference, rfl⟩⟩
    exact (hbefore.keyClause_newStatements hafter hclause).2.1 (hmet _ hclause)
  · intro hfit clause hclause
    apply (hbefore.keyClause_newStatements hafter hclause).2.2
    rw [mem_keyClauses_newStatements_iff hbefore.storedByName hafter.storedByName] at hclause
    obtain ⟨table, hnew, hclause⟩ := hclause
    obtain ⟨column, hcolumn, reference, hreference, rfl⟩ := Table.mem_keyClauses_iff.1 hclause
    exact hfit table hnew column hcolumn reference hreference

end Schema

/-! ## Scripts of derived schemas -/

theorem isBlank_head?_sqlTypes :
    ∀ sqlType ∈ sqlTypes, ∀ c ∈ sqlType.toList.head?, isBlank c = false := by
  have hall : (sqlTypes.all fun sqlType =>
      sqlType.toList.head?.all fun c => !isBlank c) = true := by
    decide +kernel
  simpa only [List.all_eq_true, Option.all_eq_true, Bool.not_eq_true', Option.mem_def] using hall

/-- Each listed script of a schema with the usual types has a text in every dialect. -/
theorem Schema.HasSqlTypes.scriptFor_eq {schema : Schema} (htypes : schema.HasSqlTypes)
    (names : List String) (dialect : Dialect) :
    schema.scriptFor names dialect =
      .ok (spelled dialect.quote (scriptPieces dialect (schema.statements names))) := by
  refine scriptFor_eq_ok_iff.2 ⟨rfl, fun table htable hname column hcolumn => ?_⟩
  obtain ⟨name, hfind⟩ := Catalog.mem_values_iff.1 htable
  exact typeText?_isSome fun _ =>
    isBlank_head?_sqlTypes column.sqlType (htypes name table hfind column hcolumn)

theorem Schema.HasSqlTypes.merge {before after : Schema} (hbefore : before.HasSqlTypes)
    (hafter : after.HasSqlTypes) (hstored : after.StoredByName) :
    (before.merge after).HasSqlTypes := by
  intro name table hfind
  rw [table?_merge hstored, Option.or_eq_some_iff] at hfind
  exact hfind.elim (hbefore name table) fun hnew => hafter name table hnew.2

namespace Diagram

variable {base candidate : Diagram} {before after : Schema}

/-- What the scripts of an accepted diagram and of what another one adds do is read off their texts.
Together they create every table once, and each foreign key of the second finds its table. It finds
its column, unless that belongs to a table of the first diagram that lacks it there. The check of
the two schemas together tells whether all columns are found. -/
theorem incrementScript_after_script (hbase : base.schema = .ok before)
    (hcandidate : candidate.schema = .ok after) (dialect : Dialect) :
    let basePieces := scriptPieces dialect before.baseStatements
    let newPieces := scriptPieces dialect (before.newStatements after)
    let effects := effectsIn basePieces ++ effectsIn newPieces
    let keys := (effectsIn newPieces).filterMap Effect.key?
    before.script dialect = .ok (spelled dialect.quote basePieces) ∧
    before.incrementScript after dialect = .ok (spelled dialect.quote newPieces) ∧
    (effects.filterMap Effect.table?).Nodup ∧
    (∀ clause ∈ keys, .create clause.reference.table ∈ effects ∧
      (.column clause.reference.table clause.reference.column ∈ effects ↔
        ∀ old ∈ before.table? clause.reference.table,
          clause.reference.column ∈ old.columnNames)) ∧
    ((∀ clause ∈ keys, .column clause.reference.table clause.reference.column ∈ effects) ↔
      (before.merge after).faults = []) := by
  intro basePieces newPieces effects keys
  have hbefore := (sound_of_schema hbase).rules
  have hafter := (sound_of_schema hcandidate).rules
  have htypes := hasSqlTypes_of_schema hbase
  have hmerged := htypes.merge (hasSqlTypes_of_schema hcandidate) hafter.storedByName
  have heffects : effects = before.effectsOfBoth after := by
    simp only [effects, basePieces, newPieces, effectsIn_scriptPieces]
    exact List.flatMap_append.symm
  have hkeys : keys = (before.newStatements after).flatMap Statement.keyClauses := by
    simp only [keys, newPieces, effectsIn_scriptPieces]
    exact Statement.filterMap_key?_flatMap_effects _
  rw [heffects, hkeys]
  exact ⟨htypes.scriptFor_eq _ dialect, hmerged.scriptFor_eq _ dialect,
    Schema.nodup_tables_effectsOfBoth hbefore.storedByName hafter.storedByName,
    fun _ => hbefore.keyClause_newStatements hafter, hbefore.forall_column_mem_iff hafter⟩

/-- People have kept the name of their key, so the keys of staff and badges find it. -/
theorem incrementScript_after_script_badges :
    let before := (people "id").draft.schema
    let after := (badges "id").draft.schema
    let basePieces := scriptPieces .mysql before.baseStatements
    let newPieces := scriptPieces .mysql (before.newStatements after)
    (people "id").schema = .ok before ∧ (badges "id").schema = .ok after ∧
      before.incrementScript after .mysql = .ok (spelled Dialect.mysql.quote newPieces) ∧
      ∀ clause ∈ (effectsIn newPieces).filterMap Effect.key?,
        .column clause.reference.table clause.reference.column ∈
          effectsIn basePieces ++ effectsIn newPieces := by
  intro before after basePieces newPieces
  obtain ⟨hpeople, hbadges, hfaults⟩ : (people "id").draft.faults = [] ∧
      (badges "id").draft.faults = [] ∧ (before.merge after).faults = [] := by
    decide +kernel
  have hbase : (people "id").schema = .ok before := schema_eq_ok_iff.2 ⟨hpeople, rfl⟩
  have hcandidate : (badges "id").schema = .ok after := schema_eq_ok_iff.2 ⟨hbadges, rfl⟩
  obtain ⟨-, htext, -, -, hmet⟩ := incrementScript_after_script hbase hcandidate .mysql
  exact ⟨hbase, hcandidate, htext, hmet.2 hfaults⟩

/-- The key of people has got a new name. A badge refers to it under this name, which no script
gives to a column of the people. -/
theorem incrementScript_badges_of_renamed_key :
    let before := (people "id").draft.schema
    let after := (badges "person_id").draft.schema
    let clause : KeyClause :=
      { table := "badge"
        column := "person_person_id"
        reference := { table := "person", column := "person_id" } }
    (people "id").schema = .ok before ∧ (badges "person_id").schema = .ok after ∧
      ∀ dialect : Dialect,
        let basePieces := scriptPieces dialect before.baseStatements
        let newPieces := scriptPieces dialect (before.newStatements after)
        before.script dialect = .ok (spelled dialect.quote basePieces) ∧
        before.incrementScript after dialect = .ok (spelled dialect.quote newPieces) ∧
        clause ∈ (effectsIn newPieces).filterMap Effect.key? ∧
        .column clause.reference.table clause.reference.column ∉
          effectsIn basePieces ++ effectsIn newPieces := by
  intro before after clause
  obtain ⟨hpeople, hbadges, hclause, hmissed⟩ : (people "id").draft.faults = [] ∧
      (badges "person_id").draft.faults = [] ∧
      clause ∈ (before.newStatements after).flatMap Statement.keyClauses ∧
      .column clause.reference.table clause.reference.column ∉ before.effectsOfBoth after := by
    decide +kernel
  have hbase : (people "id").schema = .ok before := schema_eq_ok_iff.2 ⟨hpeople, rfl⟩
  have hcandidate : (badges "person_id").schema = .ok after := schema_eq_ok_iff.2 ⟨hbadges, rfl⟩
  have htypes := hasSqlTypes_of_schema hbase
  have hmerged := htypes.merge (hasSqlTypes_of_schema hcandidate) (schema_storedByName hcandidate)
  refine ⟨hbase, hcandidate, fun dialect => ⟨htypes.scriptFor_eq _ dialect,
    hmerged.scriptFor_eq _ dialect, ?_, ?_⟩⟩
  · rwa [effectsIn_scriptPieces, Statement.filterMap_key?_flatMap_effects]
  · rwa [effectsIn_scriptPieces, effectsIn_scriptPieces, ← List.flatMap_append]

end Diagram

end ClassDiagram
