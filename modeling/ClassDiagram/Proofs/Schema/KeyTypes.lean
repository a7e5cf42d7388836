import ClassDiagram.Proofs.Schema.Rules

/-!
# Types of references

A reference is of the right type if the column has the SQL type and the Java type of the key that
it refers to. This is more than the rules of a schema ask for: a reference of the right type leads
to a column that exists.
-/

namespace ClassDiagram

structure Column.HasTypeOf (column key : Column) : Prop where
  sqlType : column.sqlType = key.sqlType
  javaType : column.javaType = key.javaType

namespace Schema

/-- A reference leads to the key of an element's table, and the column has the type of that key. -/
def MatchesKey (schema : Schema) (column : Column) (reference : ColumnReference) : Prop :=
  ∃ target key, schema.table? reference.table = some target ∧ target.isJoin = false ∧
    target.primaryKey? = some key ∧ key.name = reference.column ∧ column.HasTypeOf key

/-- Every reference is of the right type. -/
def KeysAgree (schema : Schema) : Prop :=
  ∀ name table, schema.table? name = some table → ∀ column ∈ table.columns, ∀ reference,
    column.references = some reference → schema.MatchesKey column reference

/-- The key of the table under a name. -/
def keyOf? (schema : Schema) (name : String) : Option Column :=
  (schema.table? name).bind Table.primaryKey?

variable {schema : Schema}

theorem keyOf?_eq_some_iff {name : String} {key : Column} :
    schema.keyOf? name = some key ↔
      ∃ table, schema.table? name = some table ∧ table.primaryKey? = some key :=
  Option.bind_eq_some_iff

theorem MatchesKey.resolves {column : Column} {reference : ColumnReference}
    (hmatches : schema.MatchesKey column reference) : schema.Resolves reference := by
  obtain ⟨target, key, hfind, -, hkey, hname, -⟩ := hmatches
  exact ⟨target, hfind, hname ▸ List.mem_map_of_mem (List.mem_of_find?_eq_some hkey)⟩

end Schema

/-! ## Keys of tables -/

theorem Table.HasProperKey.exists_primaryKey {table : Table} (hkey : table.HasProperKey) :
    ∃ key, table.primaryKey? = some key := by
  have hlength : 0 < table.keyColumns.length := by
    rw [HasProperKey] at hkey
    split at hkey <;> omega
  obtain ⟨column, hmem⟩ := List.exists_mem_of_length_pos hlength
  rw [keyColumns, List.mem_filter] at hmem
  rw [← Option.isSome_iff_exists, primaryKey?, List.find?_isSome]
  exact ⟨column, hmem⟩

end ClassDiagram
