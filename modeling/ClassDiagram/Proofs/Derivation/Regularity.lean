import ClassDiagram.Proofs.Derivation.ColumnFlags
import ClassDiagram.Proofs.Derivation.StoredNames
import ClassDiagram.Proofs.Text.Words

/-!
# Regular tables

The names in a derived schema have no marks in them, and the flags of a column hang together: a key
is neither nullable nor marked as unique, and only keys are generated. A join table has nothing but
keys.
-/

namespace ClassDiagram

open Text

structure Column.IsRegular (column : Column) : Prop where
  name : IsPlain column.name
  key : column.primaryKey = true → column.nullable = false ∧ column.unique = false
  generated : column.generated = true → column.primaryKey = true

structure Table.IsRegular (table : Table) : Prop where
  name : IsPlain table.name
  columns : ∀ column ∈ table.columns, column.IsRegular
  join : table.isJoin = true → ∀ column ∈ table.columns, column.primaryKey = true

theorem keptByNaming_isPlain : KeptByNaming IsPlain where
  joined hleft hright := (hleft.append (by decide)).append hright
  numbered hbase n := (hbase.append (by decide)).append (isPlain_toString n)

theorem Table.Flags.isRegular {table : Table} {column : Column} (hflags : table.Flags column)
    (hname : IsPlain column.name) : column.IsRegular where
  name := hname
  key := hflags.key
  generated hgenerated := (hflags.generated.1 hgenerated).1

/-! ## Join tables -/

/-- If the table is a join table, all its columns are keys. -/
def Table.JoinsKeys (table : Table) : Prop :=
  table.isJoin = true → ∀ column ∈ table.columns, column.primaryKey = true

theorem Table.joinsKeys_of_element {table : Table} (helement : table.isJoin = false) :
    table.JoinsKeys :=
  fun hjoin => nomatch helement.symm.trans hjoin

theorem joinsKeys_keptByAdditions : KeptByAdditions Table.JoinsKeys where
  foreignKey := by
    intro owner referenced key helement _ _ _ nullable unique
    exact Table.joinsKeys_of_element helement
  joinTable := by
    intro first second firstKey secondKey _ _ _ _ taken _
    rw [joinTableOf, List.forall_mem_cons, List.forall_mem_singleton]
    exact ⟨rfl, rfl⟩

namespace Diagram

variable {diagram : Diagram} {schema : Schema}

theorem joinsKeys_of_schema (haccepted : diagram.schema = .ok schema) :
    schema.AllTables Table.JoinsKeys :=
  allTables_of_elements haccepted joinsKeys_keptByAdditions
    (fun _ _ => Table.joinsKeys_of_element rfl)
    fun _ helement _ _ _ _ => Table.joinsKeys_of_element helement

/-- The tables of a derived schema have plain names and regular columns. -/
theorem isRegular_of_schema (haccepted : diagram.schema = .ok schema) :
    schema.AllTables Table.IsRegular := by
  intro name table hfind
  have hnames : table.HasNames IsPlain :=
    hasNames_of_schema haccepted keptByNaming_isPlain (by decide) (fun _ _ => isPlain_snakeCase _)
      (fun _ _ _ _ => isPlain_snakeCase _) name table hfind
  have hflags : table.HasFlags := hasFlags_of_schema haccepted name table hfind
  exact
    { name := hnames.name
      columns := fun column hmem => (hflags column hmem).isRegular (hnames.columns column hmem)
      join := joinsKeys_of_schema haccepted name table hfind }

end Diagram

end ClassDiagram
