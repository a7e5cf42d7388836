import ClassDiagram.Schema.Validity
import ClassDiagram.Proofs.Catalog

/-!
# What it means to keep the rules

The rules of a schema as a property, table by table and link by link. The list of faults is empty
exactly for the schemas that have the property.
-/

namespace ClassDiagram

theorem Table.hasColumn_iff {table : Table} {name : String} :
    table.hasColumn name = true ↔ name ∈ table.columnNames := by
  simp [hasColumn, columnNames]

/-- One key column in the table of an element, two that are foreign keys in a join table. -/
def Table.HasProperKey (table : Table) : Prop :=
  if table.isJoin then
    table.keyColumns.length = 2 ∧ ∀ column ∈ table.keyColumns, column.isForeignKey = true
  else table.keyColumns.length = 1

namespace Schema

/-- A reference leads to a column of a table. -/
def Resolves (schema : Schema) (reference : ColumnReference) : Prop :=
  ∃ target, schema.table? reference.table = some target ∧
    reference.column ∈ target.columnNames

structure TableKeepsRules (schema : Schema) (name : String) (table : Table) : Prop where
  stored : table.name = name
  distinct : table.columnNames.Nodup
  references : ∀ column ∈ table.columns, ∀ reference,
    column.references = some reference → schema.Resolves reference
  key : table.HasProperKey
  parent : ∀ parent, table.parent = some parent → parent ∈ schema.tables.names

/-- The owner of a link has the column of the link, which refers to the other table. -/
def KeepsForeignKey (schema : Schema) (link : Link) : Prop :=
  ∃ name owner column reference, link.column = some name ∧ schema.table? link.owner = some owner ∧
    owner.column? name = some column ∧ column.references = some reference ∧
    reference.table = link.referenced

/-- The join table of a link is there. -/
def KeepsJoinTable (schema : Schema) (link : Link) : Prop :=
  ∃ name table, link.joinTable = some name ∧ schema.table? name = some table ∧
    table.isJoin = true

structure LinkKeepsRules (schema : Schema) (link : Link) : Prop where
  owner : link.owner ∈ schema.tables.names
  referenced : link.referenced ∈ schema.tables.names
  kept : match link.kind with
    | .foreignKey => schema.KeepsForeignKey link
    | .joinTable => schema.KeepsJoinTable link

structure KeepsRules (schema : Schema) : Prop where
  tables : ∀ name table, schema.table? name = some table → schema.TableKeepsRules name table
  links : ∀ link ∈ schema.links, schema.LinkKeepsRules link

variable {schema : Schema}

/-! ## Rules of tables -/

theorem referenceFaults_eq_nil_iff {table : Table} {column : Column} :
    schema.referenceFaults table column = [] ↔
      ∀ reference, column.references = some reference → schema.Resolves reference := by
  cases hreferences : column.references with
  | none => simp [referenceFaults, hreferences]
  | some reference =>
    cases hfind : schema.table? reference.table with
    | none => simp [referenceFaults, hreferences, hfind, Resolves]
    | some target =>
      simp [referenceFaults, hreferences, hfind, Resolves, Table.hasColumn_iff]

theorem columnFaults_eq_nil_iff {table : Table} (columns : List Column) (seen : List String) :
    schema.columnFaults table seen columns = [] ↔
      (columns.map Column.name).Nodup ∧ (∀ column ∈ columns, column.name ∉ seen) ∧
        ∀ column ∈ columns, ∀ reference, column.references = some reference →
          schema.Resolves reference := by
  induction columns generalizing seen with
  | nil => simp [columnFaults]
  | cons column rest ih =>
    rw [columnFaults, List.append_eq_nil_iff, List.append_eq_nil_iff, ih,
      referenceFaults_eq_nil_iff, ← and_assoc (c := ∀ other ∈ column :: rest, _),
      Catalog.nodup_and_new_cons_iff Column.name (· ∈ seen), List.forall_mem_cons]
    by_cases hseen : column.name ∈ seen
    · simp [hseen]
    · simp only [List.contains_eq_mem, hseen, decide_false, Bool.false_eq_true, if_false,
        List.mem_cons, true_and, not_false_eq_true]
      constructor
      · rintro ⟨hhead, hdistinct, hfree, hrest⟩
        exact ⟨⟨hdistinct, hfree⟩, hhead, hrest⟩
      · rintro ⟨⟨hdistinct, hfree⟩, hhead, hrest⟩
        exact ⟨hhead, hdistinct, hfree, hrest⟩

theorem keyFaults_eq_nil_iff {table : Table} : keyFaults table = [] ↔ table.HasProperKey := by
  cases hjoin : table.isJoin with
  | true => simp [keyFaults, Table.HasProperKey, hjoin]
  | false => simp [keyFaults, Table.HasProperKey, hjoin]

theorem parentFaults_eq_nil_iff {table : Table} :
    schema.parentFaults table = [] ↔
      ∀ parent, table.parent = some parent → parent ∈ schema.tables.names := by
  cases hparent : table.parent with
  | none => simp [parentFaults, hparent]
  | some parent => simp [parentFaults, hparent]

theorem tableFaults_eq_nil_iff {name : String} {table : Table} :
    schema.tableFaults name table = [] ↔ schema.TableKeepsRules name table := by
  simp only [tableFaults, List.append_eq_nil_iff, columnFaults_eq_nil_iff, keyFaults_eq_nil_iff,
    parentFaults_eq_nil_iff, ite_eq_left_iff, List.cons_ne_nil, imp_false, Classical.not_not]
  constructor
  · rintro ⟨⟨⟨hstored, hdistinct, -, hreferences⟩, hkey⟩, hparent⟩
    exact ⟨hstored.symm, hdistinct, hreferences, hkey, hparent⟩
  · rintro ⟨hstored, hdistinct, hreferences, hkey, hparent⟩
    exact ⟨⟨⟨hstored.symm, hdistinct, by simp, hreferences⟩, hkey⟩, hparent⟩

/-! ## Rules of links -/

theorem linkedTableFaults_eq_nil_iff {link : Link} :
    schema.linkedTableFaults link = [] ↔
      link.owner ∈ schema.tables.names ∧ link.referenced ∈ schema.tables.names := by
  simp [linkedTableFaults]

theorem linkColumnFaults_eq_nil_iff {link : Link} (howner : link.owner ∈ schema.tables.names) :
    schema.linkColumnFaults link = [] ↔ schema.KeepsForeignKey link := by
  obtain ⟨owner, hfind⟩ := Catalog.mem_names_iff.1 howner
  have hfind' : schema.table? link.owner = some owner := hfind
  cases hcolumn : link.column with
  | none => simp [linkColumnFaults, KeepsForeignKey, hcolumn]
  | some name =>
    simp only [linkColumnFaults, hcolumn, hfind', ite_eq_left_iff, List.cons_ne_nil, imp_false,
      Classical.not_not, Option.map_eq_some_iff, Option.bind_eq_some_iff]
    constructor
    · rintro ⟨reference, ⟨column, hmem, hreference⟩, htable⟩
      exact ⟨name, owner, column, reference, hcolumn, hfind', hmem, hreference, htable⟩
    · rintro ⟨name', owner', column, reference, hname, howner', hmem, hreference, htable⟩
      cases hcolumn.symm.trans hname
      cases hfind'.symm.trans howner'
      exact ⟨reference, ⟨column, hmem, hreference⟩, htable⟩

theorem joinFaults_eq_nil_iff {link : Link} :
    schema.joinFaults link = [] ↔ schema.KeepsJoinTable link := by
  cases hjoin : link.joinTable with
  | none => simp [joinFaults, KeepsJoinTable, hjoin]
  | some name =>
    cases hfind : schema.table? name <;> simp [joinFaults, KeepsJoinTable, hjoin, hfind]

theorem linkFaults_eq_nil_iff {link : Link} :
    schema.linkFaults link = [] ↔ schema.LinkKeepsRules link := by
  rw [linkFaults, List.append_eq_nil_iff, linkedTableFaults_eq_nil_iff]
  constructor
  · rintro ⟨⟨howner, hreferenced⟩, hkind⟩
    refine ⟨howner, hreferenced, ?_⟩
    cases hlink : link.kind with
    | foreignKey => simpa [hlink, linkColumnFaults_eq_nil_iff howner] using hkind
    | joinTable => simpa [hlink, joinFaults_eq_nil_iff] using hkind
  · rintro ⟨howner, hreferenced, hkept⟩
    refine ⟨⟨howner, hreferenced⟩, ?_⟩
    cases hlink : link.kind with
    | foreignKey => simpa [hlink, linkColumnFaults_eq_nil_iff howner] using hkept
    | joinTable => simpa [hlink, joinFaults_eq_nil_iff] using hkept

/-- No fault is found exactly in the schemas that keep the rules. -/
theorem faults_eq_nil_iff : schema.faults = [] ↔ schema.KeepsRules := by
  simp only [faults, structureFaults, List.map_eq_nil_iff, List.append_eq_nil_iff,
    List.flatMap_eq_nil_iff, tableFaults_eq_nil_iff, linkFaults_eq_nil_iff]
  constructor
  · rintro ⟨htables, hlinks⟩
    exact ⟨fun name table hfind => htables (name, table) (Catalog.find?_eq_some_iff.1 hfind),
      hlinks⟩
  · rintro ⟨htables, hlinks⟩
    exact ⟨fun entry hentry => htables entry.1 entry.2 (Catalog.find?_eq_some_iff.2 hentry),
      hlinks⟩

end Schema

end ClassDiagram
