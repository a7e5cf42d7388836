import ClassDiagram.Proofs.Derivation.Columns
import ClassDiagram.Proofs.Derivation.Tables
import ClassDiagram.Proofs.Schema.TypeWords

/-!
# Types of the columns of a derived schema

The SQL types in a derived schema come from a short list: those of the vocabulary, that of columns
typed by an enumeration and that of generated keys. The keys of children, foreign keys and the
columns of join tables take over the type of another key.
-/

namespace ClassDiagram

/-- The SQL types that an attribute or a generated key can have. -/
def sqlTypes : List String :=
  surrogateKey.sqlType :: (Typing.ofEnum "").sqlType ::
    (primitiveTypings ++ referenceTypings).map fun entry => entry.2.sqlType

theorem sqlType_mem_of_typing? {word : String} {typing : Typing}
    (htyping : typing? word = some typing) : typing.sqlType ∈ sqlTypes := by
  have hmem : typing.sqlType ∈
      (primitiveTypings ++ referenceTypings).map fun entry => entry.2.sqlType :=
    List.mem_map_of_mem (entry_of_typing? htyping)
  exact List.mem_cons_of_mem _ (List.mem_cons_of_mem _ hmem)

def Table.HasSqlTypes (table : Table) : Prop :=
  ∀ column ∈ table.columns, column.sqlType ∈ sqlTypes

theorem Table.HasSqlTypes.of_key {table : Table} (htypes : table.HasSqlTypes) {key : Column}
    (hkey : table.primaryKey? = some key) : key.sqlType ∈ sqlTypes :=
  htypes key (List.mem_of_find?_eq_some hkey)

namespace Schema

variable {schema : Schema}

/-- Every column has one of these types. -/
def HasSqlTypes (schema : Schema) : Prop :=
  ∀ name table, schema.table? name = some table → table.HasSqlTypes

/-- A child takes over the type of a key above it. -/
theorem Flat.hasSqlTypes_fitted (hflat : schema.Flat) (htypes : schema.HasSqlTypes) :
    schema.fitted.HasSqlTypes := by
  intro name fittedTable hfitted column hcolumn
  rw [table?_fitted, Option.map_eq_some_iff] at hfitted
  obtain ⟨table, hfind, rfl⟩ := hfitted
  rcases hflat.fit_cases hfind with ⟨-, heq⟩ |
    ⟨_, parent, parentKey, rootKey, -, -, -, -, hrootKey, heq⟩
  · rw [heq] at hcolumn
    exact htypes name table hfind column hcolumn
  · obtain ⟨rootName, hroot⟩ := hflat.exists_rootOf hfind
    have hkeyType : rootKey.sqlType ∈ sqlTypes := (htypes rootName _ hroot).of_key hrootKey
    rw [heq] at hcolumn
    exact Table.forall_mem_columns_fitTo (htypes name table hfind) (fun _ _ _ => hkeyType)
      column hcolumn

end Schema

theorem hasSqlTypes_keptByAdditions : KeptByAdditions Table.HasSqlTypes where
  foreignKey := by
    intro owner referenced key _ howner hreferenced hkey nullable unique
    have hkeyType : key.sqlType ∈ sqlTypes := hreferenced.of_key hkey
    rw [Table.HasSqlTypes, List.forall_mem_append]
    exact ⟨howner, List.forall_mem_singleton.2 hkeyType⟩
  joinTable := by
    intro first second firstKey secondKey hfirst hsecond hfirstKey hsecondKey taken
    have hfirstType : firstKey.sqlType ∈ sqlTypes := hfirst.of_key hfirstKey
    have hsecondType : secondKey.sqlType ∈ sqlTypes := hsecond.of_key hsecondKey
    rw [Table.HasSqlTypes, joinTableOf, List.forall_mem_cons, List.forall_mem_singleton]
    exact ⟨hfirstType, hsecondType⟩

namespace Diagram

variable {diagram : Diagram} {schema : Schema}

theorem sqlType_mem_of_mem_attributesOf {element : Element} {typed : TypedAttribute}
    (htyped : typed ∈ diagram.attributesOf element) : typed.2.sqlType ∈ sqlTypes := by
  obtain ⟨declaration, -, hread⟩ := List.mem_filterMap.1 htyped
  obtain ⟨declared, -, hrest⟩ := Option.bind_eq_some_iff.1 hread
  obtain ⟨typing, htyping, heq⟩ := Option.bind_eq_some_iff.1 hrest
  cases heq
  rw [typing?] at htyping
  split at htyping
  · cases htyping
    exact List.mem_cons_of_mem _ List.mem_cons_self
  · exact sqlType_mem_of_typing? htyping

theorem hasSqlTypes_declaredColumns {element : Element} {column : Column}
    (hcolumn : column ∈ diagram.declaredColumns element) : column.sqlType ∈ sqlTypes := by
  rcases mem_declaredColumns_cases hcolumn with rfl | ⟨typed, htyped, _, rfl⟩
  · exact List.mem_cons_self
  · exact sqlType_mem_of_mem_attributesOf htyped

theorem hasSqlTypes_of_schema (haccepted : diagram.schema = .ok schema) : schema.HasSqlTypes := by
  have hwell := joinedWellFormed_of_schema haccepted
  refine allTables_of_schema haccepted hasSqlTypes_keptByAdditions ?_
  rw [hwell.schema_eq]
  refine hwell.flat.hasSqlTypes_fitted fun name table hfind column hcolumn => ?_
  obtain ⟨element, -, -, rfl⟩ := table?_linkedSchema_eq_some hwell.elements hfind
  exact hasSqlTypes_declaredColumns (columns_linkedTable element ▸ hcolumn)

end Diagram

end ClassDiagram
