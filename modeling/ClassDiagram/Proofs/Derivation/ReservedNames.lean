import ClassDiagram.Proofs.Derivation.StoredNames
import ClassDiagram.Sql.Dialect

/-!
# Reserved words in a derived schema

Reserved words have no marks in them, so no name is one that is joined from others. The columns that
are keys or refer to keys have such names, or are just called `id`. Only attributes can give a
column the name of a reserved word, and only if they are not the key.
-/

namespace ClassDiagram

open Text

/-! ## Joined names -/

theorem isReserved_joined (left right : String) : isReserved (left ++ "_" ++ right) = false := by
  have hwords : ∀ word ∈ reservedWords, '_' ∉ word.toList := by decide
  rw [isReserved, ← Bool.not_eq_true, List.contains_iff_mem]
  intro hword
  refine hwords _ hword ?_
  rw [lowercased, String.toList_ofList]
  exact List.mem_flatMap.2 ⟨'_', by simp, by decide⟩

theorem keptByNaming_unreserved : KeptByNaming fun name => isReserved name = false where
  joined _ _ := isReserved_joined _ _
  numbered _ _ := isReserved_joined _ _

theorem isReserved_reference (referenced : Table) (key : Column) (taken : List String) :
    isReserved (freshName (referenceName referenced key) taken) = false :=
  keptByNaming_unreserved.fresh (isReserved_joined referenced.name key.name) taken

/-- The names that make an attribute the key of its table are no reserved words. -/
theorem isReserved_of_namesKey {table column : String} (hkey : namesKey table column = true) :
    isReserved column = false := by
  rw [namesKey, Bool.or_eq_true, Bool.or_eq_true, beq_iff_eq, beq_iff_eq, beq_iff_eq] at hkey
  rcases hkey with (rfl | rfl) | rfl
  · decide
  · exact isReserved_joined "id" table
  · have hreserved := isReserved_joined table "id"
    rwa [String.append_assoc] at hreserved

/-! ## Keys of tables -/

/-- The column is a key or refers to one. -/
def Column.IsKeyed (column : Column) : Prop :=
  column.primaryKey = true ∨ column.references ≠ none

theorem Column.not_isKeyed_iff {column : Column} :
    ¬ column.IsKeyed ↔ column.primaryKey = false ∧ column.references = none := by
  rw [IsKeyed, not_or, Bool.not_eq_true, not_not]

/-- No reserved word names a key of the table, or a column that refers to one. -/
def Table.HasUnreservedKeys (table : Table) : Prop :=
  ∀ column ∈ table.columns, column.IsKeyed → isReserved column.name = false

theorem unreservedKeys_keptByAdditions : KeptByAdditions Table.HasUnreservedKeys where
  foreignKey := by
    intro owner referenced key helement howner hreferenced hkey nullable unique
    rw [Table.HasUnreservedKeys, List.forall_mem_append, List.forall_mem_singleton]
    exact ⟨howner, fun _ => isReserved_reference referenced key _⟩
  joinTable := by
    intro first second firstKey secondKey hfirst hsecond hfirstKey hsecondKey taken
    rw [Table.HasUnreservedKeys, joinTableOf, List.forall_mem_cons, List.forall_mem_singleton]
    exact ⟨fun _ => isReserved_reference first firstKey _,
      fun _ => isReserved_reference second secondKey _⟩

theorem Table.HasUnreservedKeys.fitTo {child : Table} (hchild : child.HasUnreservedKeys)
    (above : List Table) (parent : Table) (parentKey rootKey : Column) :
    (child.fitTo above parent parentKey rootKey).HasUnreservedKeys :=
  forall_mem_columns_fitTo hchild fun key hkey hprimary _ => hchild key hkey (.inl hprimary)

theorem namesKey_of_mem_attributeColumns {table : String} {attributes : List TypedAttribute}
    {column : Column} (hmem : column ∈ attributeColumns table attributes)
    (hkey : column.primaryKey = true) : namesKey table column.name = true := by
  induction attributes with
  | nil => cases hmem
  | cons typed rest ih =>
    cases hnames : namesKey table typed.column with
    | true =>
      rw [attributeColumns_cons_key hnames, List.mem_cons, List.mem_map] at hmem
      rcases hmem with rfl | ⟨other, -, rfl⟩
      · exact hnames
      · cases hkey
    | false =>
      rw [attributeColumns_cons_plain hnames, List.mem_cons] at hmem
      rcases hmem with rfl | hrest
      · cases hkey
      · exact ih hrest

/-! ## Derived schemas -/

namespace Diagram

variable {diagram : Diagram} {schema : Schema}

theorem unreservedKeys_linkedTable (diagram : Diagram) (element : Element) :
    (diagram.linkedTable element).HasUnreservedKeys := by
  have hattributes : ∀ column ∈ attributeColumns element.storedName (diagram.attributesOf element),
      column.IsKeyed → isReserved column.name = false := by
    intro column hcolumn hkeyed
    rcases hkeyed with hkey | hreference
    · exact isReserved_of_namesKey (namesKey_of_mem_attributeColumns hcolumn hkey)
    · exact absurd (references_of_mem_attributeColumns hcolumn) hreference
  intro column hmem
  rw [columns_linkedTable, declaredColumns] at hmem
  split at hmem
  · exact hattributes column hmem
  · rcases List.mem_cons.1 hmem with rfl | hdeclared
    · exact fun _ => isReserved_of_namesKey (namesKey_id element.storedName)
    · exact hattributes column hdeclared

theorem unreservedKeys_of_schema (haccepted : diagram.schema = .ok schema) :
    schema.AllTables Table.HasUnreservedKeys :=
  allTables_of_elements haccepted unreservedKeys_keptByAdditions
    (fun element _ => unreservedKeys_linkedTable diagram element)
    fun htable _ => htable.fitTo

end Diagram

end ClassDiagram
