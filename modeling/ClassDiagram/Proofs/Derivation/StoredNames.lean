import ClassDiagram.Proofs.Derivation.Columns
import ClassDiagram.Proofs.Derivation.Tables

/-!
# Names made from names

Relationships add tables and columns that are named after tables and keys which are already there:
the parts are joined, and a number follows where the name is taken. A property of names that both
keep is therefore one of all names in a derived schema, as soon as the surrogate key and the stored
names of elements and attributes have it.
-/

namespace ClassDiagram

/-- The property stays if names are joined or numbered. -/
structure KeptByNaming (property : String → Prop) : Prop where
  joined : ∀ {left right : String}, property left → property right →
    property (left ++ "_" ++ right)
  numbered : ∀ {base : String}, property base → ∀ n : Nat, property (base ++ "_" ++ toString n)

/-- The names of the table and of its columns have the property. -/
structure Table.HasNames (property : String → Prop) (table : Table) : Prop where
  name : property table.name
  columns : ∀ column ∈ table.columns, property column.name

variable {property : String → Prop}

theorem Table.HasNames.of_key {table : Table} (hnames : table.HasNames property) {key : Column}
    (hkey : table.primaryKey? = some key) : property key.name :=
  hnames.columns key (List.mem_of_find?_eq_some hkey)

namespace KeptByNaming

variable (hkept : KeptByNaming property)
include hkept

theorem fresh {base : String} (hbase : property base) (taken : List String) :
    property (freshName base taken) := by
  rcases freshName_cases base taken with heq | ⟨n, heq⟩
  · rwa [heq]
  · rw [heq]
    exact hkept.numbered hbase n

theorem joinTable {left right : String} (hleft : property left) (hright : property right) :
    property (joinTableName left right) := by
  rw [joinTableName]
  split
  · exact hkept.joined hleft hright
  · exact hkept.joined hright hleft

/-- A column that refers to a table is named by the table and its key. -/
theorem reference {referenced : Table} (hreferenced : referenced.HasNames property) {key : Column}
    (hkey : referenced.primaryKey? = some key) (taken : List String) :
    property (freshName (referenceName referenced key) taken) :=
  hkept.fresh (hkept.joined hreferenced.name (hreferenced.of_key hkey)) taken

theorem keptByAdditions : KeptByAdditions (Table.HasNames property) where
  foreignKey := by
    intro owner referenced key helement howner hreferenced hkey nullable unique
    refine ⟨howner.name, ?_⟩
    rw [List.forall_mem_append, List.forall_mem_singleton]
    exact ⟨howner.columns, hkept.reference hreferenced hkey _⟩
  joinTable := by
    intro first second firstKey secondKey hfirst hsecond hfirstKey hsecondKey taken
    refine ⟨hkept.fresh (hkept.joinTable hfirst.name hsecond.name) taken, ?_⟩
    rw [joinTableOf, List.forall_mem_cons, List.forall_mem_singleton]
    exact ⟨hkept.reference hfirst hfirstKey [], hkept.reference hsecond hsecondKey [_]⟩

end KeptByNaming

/-- A child keeps the name of its key. -/
theorem Table.HasNames.fitTo {child : Table} (hchild : child.HasNames property)
    (above : List Table) (parent : Table) (parentKey rootKey : Column) :
    (child.fitTo above parent parentKey rootKey).HasNames property where
  name := hchild.name
  columns :=
    forall_mem_columns_fitTo hchild.columns fun key hkey _ => hchild.columns key hkey

namespace Diagram

variable {diagram : Diagram} {schema : Schema}

theorem hasNames_linkedTable {element : Element} (hid : property surrogateKey.name)
    (helement : property element.storedName)
    (hattributes : ∀ typed ∈ diagram.attributesOf element, property typed.column) :
    (diagram.linkedTable element).HasNames property where
  name := helement
  columns column hmem := by
    rw [columns_linkedTable] at hmem
    rcases mem_declaredColumns_cases hmem with rfl | ⟨typed, htyped, _, rfl⟩
    · exact hid
    · exact hattributes typed htyped

/-- What the stored names of elements and attributes have in common, all names have. -/
theorem hasNames_of_schema (haccepted : diagram.schema = .ok schema)
    (hkept : KeptByNaming property) (hid : property surrogateKey.name)
    (helements : ∀ element ∈ diagram.storedElements, property element.storedName)
    (hattributes : ∀ element ∈ diagram.storedElements, ∀ typed ∈ diagram.attributesOf element,
      property typed.column) :
    schema.AllTables (Table.HasNames property) :=
  allTables_of_elements haccepted hkept.keptByAdditions
    (fun element helement => hasNames_linkedTable hid (helements element helement)
      (hattributes element helement))
    fun htable _ => htable.fitTo

end Diagram

end ClassDiagram
