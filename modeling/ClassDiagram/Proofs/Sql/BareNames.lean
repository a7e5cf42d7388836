import ClassDiagram.Proofs.Derivation.UsableNames
import ClassDiagram.Proofs.Sql.Identifiers
import ClassDiagram.Proofs.Sql.Increment

/-!
# Names that stand bare in a script

A script writes the names of the tables that it creates, of their columns and of what these refer
to. A name that is quoted is a reserved word and begins with a letter, so in every dialect the bare
names begin as identifiers do if and only if all names in the schema do. Attribute names are checked
as they are declared, but stored without the marks before their first letter or numeral, and class
names are not checked at all.
-/

namespace ClassDiagram

open Text

/-! ## Names of a script -/

namespace Schema

variable {schema : Schema}

/-- What refers to a column names a table and a column of the schema, and stands in one itself. -/
theorem KeepsRules.usable_of_mem_keyClauses (hrules : schema.KeepsRules)
    (husable : ∀ table ∈ schema.tables.values, table.HasUsableNames) {names : List String}
    {statement : Statement} (hstatement : statement ∈ schema.statements names)
    {clause : KeyClause} (hclause : clause ∈ statement.keyClauses) :
    ∀ name ∈ clause.table :: clause.column :: clause.reference.names, OpensIdentifier name := by
  have hstated : clause ∈ (schema.statements names).flatMap Statement.keyClauses :=
    List.mem_flatMap.2 ⟨statement, hstatement, hclause⟩
  rw [(keyClauses_statements schema names).mem_iff, List.mem_flatMap] at hstated
  obtain ⟨table, hcreated, hkey⟩ := hstated
  obtain ⟨column, hcolumn, reference, hreference, rfl⟩ := Table.mem_keyClauses_iff.1 hkey
  have htable := (mem_creationOrder_iff.1 hcreated).1
  obtain ⟨name, hfind⟩ := Catalog.mem_values_iff.1 htable
  obtain ⟨target, htarget, hnamed⟩ :=
    (hrules.tables name table hfind).references column hcolumn reference hreference
  obtain ⟨key, hkey, hname⟩ := List.mem_map.1 hnamed
  have hsource := husable table htable
  have hreferenced := husable target (Catalog.mem_values_iff.2 ⟨_, htarget⟩)
  have hstored := hrules.storedByName _ target htarget
  rw [ColumnReference.names, List.forall_mem_cons, List.forall_mem_cons, List.forall_mem_cons,
    List.forall_mem_singleton]
  exact ⟨hsource.name, hsource.columns column hcolumn, hstored ▸ hreferenced.name,
    hname ▸ hreferenced.columns key hkey⟩

/-- If all names of a schema are usable then all those that a script writes are. -/
theorem KeepsRules.usable_of_mem_names (hrules : schema.KeepsRules)
    (husable : ∀ table ∈ schema.tables.values, table.HasUsableNames) {names : List String}
    {statement : Statement} (hstatement : statement ∈ schema.statements names) :
    ∀ name ∈ statement.names, OpensIdentifier name := by
  have hkeys : ∀ clause ∈ statement.keyClauses,
      ∀ name ∈ clause.table :: clause.column :: clause.reference.names, OpensIdentifier name :=
    fun _ hclause => hrules.usable_of_mem_keyClauses husable hstatement hclause
  cases statement with
  | addForeignKey table column reference => exact hkeys _ (List.mem_singleton_self _)
  | createTable table clauses =>
    have htable := husable table
      (mem_creationOrder_iff.1 (mem_creationOrder_of_createTable hstatement)).1
    have hclauses : ∀ clause ∈ clauses, ∀ name ∈ clause.names, OpensIdentifier name := by
      intro clause hclause
      have hcolumn : clause.column ∈ table.columns :=
        columns_of_createTable_mem hstatement ▸ List.mem_map_of_mem hclause
      rw [ColumnClause.names, List.forall_mem_cons]
      refine ⟨htable.columns _ hcolumn, ?_⟩
      cases hinline : clause.inlineReference with
      | none => exact List.forall_mem_nil _
      | some reference =>
        have hkey : { table := table.name, column := clause.column.name, reference } ∈
            (Statement.createTable table clauses).keyClauses :=
          List.mem_filterMap.2 ⟨clause, hclause, by rw [hinline, Option.map_some]⟩
        have hnames := hkeys _ hkey
        rw [List.forall_mem_cons, List.forall_mem_cons] at hnames
        exact hnames.2.2
    have hkeyNames : ∀ name ∈ table.keyColumns.map Column.name, OpensIdentifier name :=
      List.forall_mem_map.2 fun column hcolumn =>
        htable.columns column (List.mem_filter.1 hcolumn).1
    rw [Statement.names, List.forall_mem_append, List.forall_mem_cons]
    refine ⟨⟨htable.name, fun name hname => ?_⟩, ?_⟩
    · obtain ⟨clause, hclause, hmem⟩ := List.mem_flatMap.1 hname
      exact hclauses clause hclause name hmem
    · split
      · exact hkeyNames
      · exact List.forall_mem_nil _

/-- The script of all tables writes all names of tables and columns. -/
theorem mem_names_statements (hstored : schema.StoredByName) {table : Table}
    (htable : table ∈ schema.tables.values) :
    ∀ name ∈ table.name :: table.columnNames,
      name ∈ (schema.statements schema.tables.names).flatMap Statement.names := by
  have hcreated := (mem_creationOrder_names_iff hstored).2 htable
  rw [← created_statements, List.mem_filterMap] at hcreated
  obtain ⟨statement, hstatement, hcreates⟩ := hcreated
  cases statement with
  | addForeignKey => cases hcreates
  | createTable created clauses =>
    cases hcreates
    suffices hnames : ∀ name ∈ table.name :: table.columnNames,
        name ∈ (Statement.createTable table clauses).names from
      fun name hname => List.mem_flatMap.2 ⟨_, hstatement, hnames name hname⟩
    rw [Table.columnNames, ← columns_of_createTable_mem hstatement, List.map_map,
      List.forall_mem_cons, List.forall_mem_map, Statement.names]
    refine ⟨List.mem_append_left _ List.mem_cons_self, fun clause hclause => ?_⟩
    apply List.mem_append_left
    exact List.mem_cons_of_mem _ (List.mem_flatMap.2 ⟨clause, hclause, List.mem_cons_self⟩)

/-- The names that the script of all tables writes are usable exactly if those of the schema are. -/
theorem KeepsRules.usable_names_iff (hrules : schema.KeepsRules) :
    (∀ name ∈ (schema.statements schema.tables.names).flatMap Statement.names,
        OpensIdentifier name) ↔
      ∀ table ∈ schema.tables.values, table.HasUsableNames := by
  constructor
  · intro hnames table htable
    have hall : ∀ name ∈ table.name :: table.columnNames, OpensIdentifier name := fun name hname =>
      hnames name (mem_names_statements hrules.storedByName htable name hname)
    rw [List.forall_mem_cons, Table.columnNames, List.forall_mem_map] at hall
    exact ⟨hall.1, hall.2⟩
  · intro husable name hname
    obtain ⟨statement, hstatement, hmem⟩ := List.mem_flatMap.1 hname
    exact hrules.usable_of_mem_names husable hstatement name hmem

end Schema

/-! ## Reserved words -/

/-- A name with marks around it is longer. -/
theorem enclosed_ne {mark : String} (hmark : mark ≠ "") (name : String) :
    mark ++ name ++ mark ≠ name := by
  intro heq
  have hlength := congrArg String.length heq
  rw [String.length_append, String.length_append] at hlength
  exact hmark (String.length_eq_zero_iff.1 (by omega))

theorem quote_eq_self_iff (dialect : Dialect) (name : String) :
    dialect.quote name = name ↔ isReserved name = false := by
  unfold Dialect.quote
  cases isReserved name with
  | false => simp
  | true =>
    rw [if_pos rfl]
    cases dialect with
    | mysql | generic | postgresql =>
      exact iff_of_false (enclosed_ne (by decide) name) (by decide)

/-- Reserved words begin with letters. -/
theorem opensIdentifier_of_isReserved {name : String} (hreserved : isReserved name = true) :
    OpensIdentifier name := by
  have hwords : ∀ word ∈ reservedWords, OpensIdentifier word := by decide +kernel
  have hword := hwords _ (List.contains_iff_mem.1 hreserved)
  obtain ⟨d, hhead, hstarts⟩ := hword
  rw [lowercased, String.toList_ofList] at hhead
  cases hname : name.toList with
  | nil =>
    rw [hname] at hhead
    cases hhead
  | cons c rest =>
    refine ⟨c, by rw [hname, List.head?_cons], ?_⟩
    rw [hname, List.flatMap_cons] at hhead
    rcases lowercase_opens c with hsame | ⟨hletter, -⟩
    · rw [hsame] at hhead
      obtain rfl : c = d := Option.some.inj hhead
      exact hstarts
    · exact startsIdentifier_of_isAlphabetic hletter

/-! ## Scripts of derived schemas -/

namespace Diagram

variable {diagram : Diagram} {schema : Schema}

/-- The names of the tables and columns of an accepted diagram, and the bare ones among the names
that its script writes, begin as identifiers do if and only if the first letter or numeral of every
class name and of every attribute name is a letter. The script is nothing but fixed words and these
names. -/
theorem schema_usableNames (haccepted : diagram.schema = .ok schema) :
    ((∀ table ∈ schema.tables.values, table.HasUsableNames) ↔ diagram.NamesOpen) ∧
      ∀ dialect : Dialect,
        let pieces := scriptPieces dialect (schema.statements schema.tables.names)
        schema.script dialect = .ok (spelled dialect.quote pieces) ∧
          ((∀ name ∈ namesIn pieces, dialect.quote name = name → OpensIdentifier name) ↔
            diagram.NamesOpen) := by
  have hnames := usableNames_iff haccepted
  refine ⟨hnames, fun dialect => ⟨?_, ?_⟩⟩
  · exact (hasSqlTypes_of_schema haccepted).scriptFor_eq schema.tables.names dialect
  · rw [namesIn_scriptPieces, ← hnames, ← (sound_of_schema haccepted).rules.usable_names_iff]
    refine forall₂_congr fun name _ => ?_
    rw [quote_eq_self_iff]
    constructor
    · intro hbare
      cases hreserved : isReserved name with
      | false => exact hbare hreserved
      | true => exact opensIdentifier_of_isReserved hreserved
    · exact fun hopens _ => hopens

/-- All names in the shop begin with letters, so its script writes no others. -/
theorem schema_usableNames_shop :
    shop.schema = .ok shop.draft.schema ∧ shop.NamesOpen ∧
      (∀ table ∈ shop.draft.schema.tables.values, table.HasUsableNames) ∧
      ∀ dialect : Dialect, ∃ text, shop.draft.schema.script dialect = .ok text ∧
        ∀ name ∈ (shop.draft.schema.statements shop.draft.schema.tables.names).flatMap
          Statement.names, dialect.quote name = name → OpensIdentifier name := by
  have hwords : ∀ element ∈ shop.storedElements, OpensWithLetter element.className ∧
      ∀ typed ∈ shop.attributesOf element, OpensWithLetter typed.1.name := by
    decide +kernel
  have hopen : shop.NamesOpen :=
    { classes := fun element helement => (hwords element helement).1
      attributes := fun element helement => (hwords element helement).2 }
  obtain ⟨hnames, hscripts⟩ := schema_usableNames shop_schema
  refine ⟨shop_schema, hopen, hnames.2 hopen, fun dialect => ?_⟩
  obtain ⟨htext, hbare⟩ := hscripts dialect
  rw [namesIn_scriptPieces] at hbare
  exact ⟨_, htext, hbare.2 hopen⟩

/-- A class with an attribute whose name has nothing but a numeral behind its mark. -/
def sample : Diagram where
  elements :=
    [{ id := "1"
       className := "Sample"
       attributes := ["_1: int"]
       methods := []
       kind := .classKind }]
  relationships := []

/-- The attribute becomes the column `1`, which every dialect writes bare. -/
theorem exists_bare_numeral :
    let schema := sample.draft.schema
    sample.schema = .ok schema ∧ ∃ table ∈ schema.tables.values, ∃ column ∈ table.columns,
      column.name = "1" ∧ ¬ OpensIdentifier column.name ∧ ∀ dialect : Dialect,
        column.name ∈ namesIn (scriptPieces dialect (schema.statements schema.tables.names)) ∧
          dialect.quote column.name = column.name := by
  intro schema
  obtain ⟨hfaults, hcolumn⟩ : sample.draft.faults = [] ∧
      ∃ table ∈ schema.tables.values, ∃ column ∈ table.columns, column.name = "1" ∧
        ¬ OpensIdentifier column.name ∧ isReserved column.name = false := by
    decide +kernel
  have haccepted : sample.schema = .ok schema := schema_eq_ok_iff.2 ⟨hfaults, rfl⟩
  obtain ⟨table, htable, column, hmem, hname, hopens, hreserved⟩ := hcolumn
  refine ⟨haccepted, table, htable, column, hmem, hname, hopens, fun dialect => ⟨?_, ?_⟩⟩
  · rw [namesIn_scriptPieces]
    exact Schema.mem_names_statements (schema_storedByName haccepted) htable _
      (List.mem_cons_of_mem _ (List.mem_map_of_mem hmem))
  · exact (quote_eq_self_iff dialect column.name).2 hreserved

end Diagram

end ClassDiagram
