import ClassDiagram.Proofs.Derivation.StoredNames
import ClassDiagram.Proofs.Java.AssociationStems
import ClassDiagram.Proofs.Java.JavaNames

/-!
# Tables whose names a field can have

In a derived schema the names are those of elements and attributes, joined and numbered. As long as
the names in the diagram can be names of fields, those in the schema can be, and so can the stems
under which tables refer to each other. Whatever is joined or numbered is no reserved word, so such
a word comes from one element or attribute alone.
-/

namespace ClassDiagram

/-- The table, its columns and its associations have names that a field can be named after. The key
of a child refers to its parent, but stands for no association. -/
structure Table.NamesFields (origin : String → Prop) (table : Table) : Prop where
  name : IsStoredName origin table.name
  columns : ∀ column ∈ table.columns, IsStoredName origin column.name
  associations : ∀ column ∈ table.columns, column.primaryKey = false ∨ table.isJoin = true →
    ∀ reference, column.references = some reference →
      IsStoredName origin (associationStem column.name reference.column)

variable {origin : String → Prop}

/-- Stored names stay stored names when they are joined and numbered. -/
theorem keptByNaming_isStoredName : KeptByNaming (IsStoredName origin) where
  joined hleft hright := hleft.join hright
  numbered hbase n := hbase.numbered n

theorem Table.NamesFields.hasNames {table : Table} (hnames : table.NamesFields origin) :
    table.HasNames (IsStoredName origin) :=
  ⟨hnames.name, hnames.columns⟩

/-! ## References -/

/-- The stem is the name of the table, with the number of the column if it has one. -/
theorem isStoredName_referenceStem {referenced : Table}
    (hreferenced : referenced.NamesFields origin) (key : Column)
    (taken : List String) :
    IsStoredName origin
      (associationStem (freshName (referenceName referenced key) taken) key.name) := by
  have hname := hreferenced.name
  rcases freshName_cases (referenceName referenced key) taken with heq | ⟨n, heq⟩
  · rw [heq, referenceName, associationStem_reference hname.ne_empty]
    exact hname
  · have hdigits : isDigits (toString n).toList = true :=
      List.all_eq_true.2 fun c hc => Text.isDigit_of_mem_toString hc
    rw [heq, referenceName, associationStem_numbered hname.ne_empty _ hdigits]
    exact hname.numbered n

theorem namesFields_keptByAdditions : KeptByAdditions (Table.NamesFields origin) where
  foreignKey := by
    intro owner referenced key helement howner hreferenced hkey nullable unique
    have hnamed := keptByNaming_isStoredName.keptByAdditions.foreignKey helement howner.hasNames
      hreferenced.hasNames hkey nullable unique
    refine ⟨hnamed.name, hnamed.columns, ?_⟩
    rw [List.forall_mem_append, List.forall_mem_singleton]
    refine ⟨howner.associations, fun _ reference hreference => ?_⟩
    cases hreference
    exact isStoredName_referenceStem hreferenced key _
  joinTable := by
    intro first second firstKey secondKey hfirst hsecond hfirstKey hsecondKey taken
    have hnamed := keptByNaming_isStoredName.keptByAdditions.joinTable hfirst.hasNames
      hsecond.hasNames hfirstKey hsecondKey taken
    refine ⟨hnamed.name, hnamed.columns, ?_⟩
    rw [joinTableOf, List.forall_mem_cons, List.forall_mem_singleton]
    constructor
    · intro _ reference hreference
      cases hreference
      exact isStoredName_referenceStem hfirst firstKey []
    · intro _ reference hreference
      cases hreference
      exact isStoredName_referenceStem hsecond secondKey [_]

/-! ## Elements -/

/-- What refers to a parent is the key of its child. -/
theorem Table.NamesFields.fitTo {child : Table} (hchild : child.NamesFields origin)
    (helement : child.isJoin = false) (above : List Table) (parent : Table)
    (parentKey rootKey : Column) :
    (child.fitTo above parent parentKey rootKey).NamesFields origin where
  name := hchild.name
  columns := (hchild.hasNames.fitTo above parent parentKey rootKey).columns
  associations := forall_mem_columns_fitTo hchild.associations fun key _ hprimary hplain => by
    rcases hplain with hplain | hjoin
    · cases hprimary.symm.trans hplain
    · cases helement.symm.trans hjoin

namespace Diagram

variable {diagram : Diagram} {schema : Schema}

/-- Fields can be named after the classes and their attributes. -/
structure NamesFields (diagram : Diagram) : Prop where
  classes : ∀ element ∈ diagram.storedElements, NamesField element.storedName
  attributes : ∀ element ∈ diagram.storedElements, ∀ typed ∈ diagram.attributesOf element,
    NamesField typed.column

/-- A class or an attribute has this name in camel case. -/
def GivesName (diagram : Diagram) (name : String) : Prop :=
  ∃ element ∈ diagram.storedElements, fieldName element.storedName = name ∨
    ∃ typed ∈ diagram.attributesOf element, fieldName typed.column = name

theorem namesFields_linkedTable (hnames : diagram.NamesFields) {element : Element}
    (helement : element ∈ diagram.storedElements) :
    (diagram.linkedTable element).NamesFields diagram.GivesName := by
  have helementName : IsStoredName diagram.GivesName element.storedName :=
    { toNamesField := hnames.classes element helement
      lower := Text.isLowerCase_snakeCase _
      reserved := fun _ => ⟨element, helement, .inl rfl⟩ }
  have hcolumnNames : ∀ typed ∈ diagram.attributesOf element,
      IsStoredName diagram.GivesName typed.column := fun typed htyped =>
    { toNamesField := hnames.attributes element helement typed htyped
      lower := Text.isLowerCase_snakeCase _
      reserved := fun _ => ⟨element, helement, .inr ⟨typed, htyped, rfl⟩⟩ }
  have hnamed := hasNames_linkedTable isStoredName_id helementName hcolumnNames
  refine ⟨hnamed.name, hnamed.columns, fun column hmem _ reference hreference => ?_⟩
  -- what an element declares refers to nothing
  rw [columns_linkedTable] at hmem
  rcases mem_declaredColumns_cases hmem with rfl | ⟨typed, -, _, rfl⟩
  · cases hreference
  · cases hreference

/-- The names of a derived schema are as good as those of the diagram. -/
theorem namesFields_of_schema (haccepted : diagram.schema = .ok schema)
    (hnames : diagram.NamesFields) : schema.AllTables (Table.NamesFields diagram.GivesName) :=
  allTables_of_elements haccepted namesFields_keptByAdditions
    (fun _ helement => namesFields_linkedTable hnames helement)
    fun htable helement => htable.fitTo helement

end Diagram

end ClassDiagram
