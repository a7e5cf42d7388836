import ClassDiagram.Schema.Derivation
import ClassDiagram.Proofs.Catalog

/-!
# Columns of one element

The columns that an element declares, told without the order in which they are made: the first
attribute with a key name is the key, and every attribute gives one column. The derivation makes
these columns exactly if all declarations can be read and all column names are different.
-/

namespace ClassDiagram

/-- An attribute with what its type stands for. -/
abbrev TypedAttribute := Attribute × Typing

namespace TypedAttribute

def column (typed : TypedAttribute) : String :=
  columnName typed.1.name

/-- The column of an attribute that is not the key. -/
def plain (typed : TypedAttribute) : Column :=
  declaredColumn typed.1 typed.2 false

/-- The column of an attribute that is the key. -/
def key (typed : TypedAttribute) : Column :=
  declaredColumn typed.1 typed.2 true

end TypedAttribute

/-- The columns of attributes, of which the first with a key name is the key. -/
def attributeColumns (table : String) (attributes : List TypedAttribute) : List Column :=
  let key? := attributes.findIdx? fun typed => namesKey table typed.column
  attributes.mapIdx fun place typed => declaredColumn typed.1 typed.2 (key? == some place)

section AttributeColumns

variable {table : String} {typed : TypedAttribute}

@[simp]
theorem attributeColumns_nil (table : String) : attributeColumns table [] = [] := rfl

theorem attributeColumns_cons_key (hkey : namesKey table typed.column = true)
    (rest : List TypedAttribute) :
    attributeColumns table (typed :: rest) = typed.key :: rest.map TypedAttribute.plain := by
  simp only [attributeColumns, List.findIdx?_cons, hkey, if_true, List.mapIdx_cons, BEq.rfl,
    TypedAttribute.key, List.cons.injEq, true_and]
  apply List.ext_getElem
  · simp
  · simp [TypedAttribute.plain]

theorem attributeColumns_cons_plain (hplain : namesKey table typed.column = false)
    (rest : List TypedAttribute) :
    attributeColumns table (typed :: rest) = typed.plain :: attributeColumns table rest := by
  simp only [attributeColumns, List.findIdx?_cons, hplain, List.mapIdx_cons, TypedAttribute.plain]
  cases rest.findIdx? fun typed => namesKey table typed.column <;> simp

theorem map_name_attributeColumns (table : String) (attributes : List TypedAttribute) :
    (attributeColumns table attributes).map Column.name =
      attributes.map TypedAttribute.column := by
  apply List.ext_getElem
  · simp [attributeColumns]
  · simp [attributeColumns, declaredColumn, TypedAttribute.column]

theorem references_of_mem_attributeColumns {attributes : List TypedAttribute} {column : Column}
    (hmem : column ∈ attributeColumns table attributes) : column.references = none := by
  obtain ⟨place, hplace, rfl⟩ := List.mem_mapIdx.1 hmem
  rfl

/-- There is one key if an attribute has a key name, and none otherwise. -/
theorem length_keys_attributeColumns (table : String) (attributes : List TypedAttribute) :
    ((attributeColumns table attributes).filter Column.primaryKey).length =
      if attributes.any fun typed => namesKey table typed.column then 1 else 0 := by
  induction attributes with
  | nil => rfl
  | cons typed rest ih =>
    cases hkey : namesKey table typed.column with
    | true =>
      have hplain : (rest.map TypedAttribute.plain).filter Column.primaryKey = [] := by
        rw [List.filter_eq_nil_iff, List.forall_mem_map]
        exact fun _ _ => Bool.false_ne_true
      rw [attributeColumns_cons_key hkey, List.filter_cons_of_pos rfl, hplain, List.any_cons, hkey,
        Bool.true_or, if_pos rfl, List.length_singleton]
    | false =>
      rw [attributeColumns_cons_plain hkey, List.filter_cons_of_neg Bool.false_ne_true, ih,
        List.any_cons, hkey, Bool.false_or]

theorem any_primaryKey_attributeColumns (table : String) (attributes : List TypedAttribute) :
    (attributeColumns table attributes).any Column.primaryKey =
      attributes.any fun typed => namesKey table typed.column := by
  have hlength := length_keys_attributeColumns table attributes
  cases hany : attributes.any fun typed => namesKey table typed.column with
  | true =>
    rw [hany, if_pos rfl] at hlength
    obtain ⟨column, hmem⟩ := List.exists_mem_of_length_pos (hlength ▸ Nat.one_pos)
    exact List.any_eq_true.2 ⟨column, List.mem_filter.1 hmem⟩
  | false =>
    rw [hany, if_neg Bool.false_ne_true, List.length_eq_zero_iff, List.filter_eq_nil_iff] at hlength
    exact List.any_eq_false.2 hlength

end AttributeColumns

/-! ## Reading the declarations -/

namespace Element

variable {element : Element} {enums : Catalog EnumType} {table : String}

/-- The attributes among declarations that can be read. -/
def typedAttributes (element : Element) (enums : Catalog EnumType) (declarations : List String) :
    List TypedAttribute :=
  declarations.filterMap fun declaration => (element.readAttribute enums declaration).toOption

theorem typedAttributes_cons_ok {declaration : String} {typed : TypedAttribute}
    (hread : element.readAttribute enums declaration = .ok typed) (rest : List String) :
    element.typedAttributes enums (declaration :: rest) =
      typed :: element.typedAttributes enums rest := by
  simp [typedAttributes, hread, Except.toOption]

theorem declaredColumns_cons_error {declaration : String} {fault : ModelFault}
    (hread : element.readAttribute enums declaration = .error fault) (columns : List Column)
    (rest : List String) :
    (element.declaredColumns enums table columns (declaration :: rest)).2 ≠ [] := by
  simp [declaredColumns, hread]

theorem declaredColumns_cons_used {declaration : String} {typed : TypedAttribute}
    {columns : List Column} (hread : element.readAttribute enums declaration = .ok typed)
    (hused : typed.column ∈ columns.map Column.name) (rest : List String) :
    (element.declaredColumns enums table columns (declaration :: rest)).2 ≠ [] := by
  have hany : (columns.any fun column => column.name == columnName typed.1.name) = true := by
    simpa [TypedAttribute.column] using hused
  simp only [declaredColumns, hread, hany, if_true]
  simp

theorem declaredColumns_cons_new {declaration : String} {typed : TypedAttribute}
    {columns : List Column} (hread : element.readAttribute enums declaration = .ok typed)
    (hnew : typed.column ∉ columns.map Column.name) (rest : List String) :
    element.declaredColumns enums table columns (declaration :: rest) =
      element.declaredColumns enums table
        (columns ++ [declaredColumn typed.1 typed.2
          (!columns.any Column.primaryKey && namesKey table typed.column)]) rest := by
  have hany : (columns.any fun column => column.name == columnName typed.1.name) = false := by
    rw [List.any_eq_false]
    intro column hmem heq
    rw [beq_iff_eq] at heq
    exact hnew (List.mem_map.2 ⟨column, hmem, heq⟩)
  simp only [declaredColumns, hread, hany, Bool.false_eq_true, if_false]
  rfl

theorem declaredColumns_faults_eq_nil_iff (columns : List Column) (declarations : List String) :
    (element.declaredColumns enums table columns declarations).2 = [] ↔
      (∀ declaration ∈ declarations, ∃ typed,
        element.readAttribute enums declaration = .ok typed) ∧
      ((element.typedAttributes enums declarations).map TypedAttribute.column).Nodup ∧
      ∀ typed ∈ element.typedAttributes enums declarations,
        typed.column ∉ columns.map Column.name := by
  induction declarations generalizing columns with
  | nil => simp [declaredColumns, typedAttributes]
  | cons declaration rest ih =>
    cases hread : element.readAttribute enums declaration with
    | error fault => simp [declaredColumns_cons_error hread, hread]
    | ok typed =>
      by_cases hused : TypedAttribute.column typed ∈ columns.map Column.name
      · simp only [declaredColumns_cons_used hread hused, false_iff, typedAttributes_cons_ok hread,
          List.forall_mem_cons]
        exact fun hall => hall.2.2.1 hused
      · have htaken : ∀ primaryKey name,
            name ∈ (columns ++ [declaredColumn typed.1 typed.2 primaryKey]).map Column.name ↔
              name = TypedAttribute.column typed ∨ name ∈ columns.map Column.name := by
          intro primaryKey name
          rw [List.map_append, List.mem_append, or_comm, List.map_singleton, List.mem_singleton]
          rfl
        rw [declaredColumns_cons_new hread hused, ih, typedAttributes_cons_ok hread,
          List.forall_mem_cons,
          Catalog.nodup_and_new_cons_iff TypedAttribute.column (· ∈ columns.map Column.name)]
        simp only [htaken, hread, Except.ok.injEq, exists_eq', true_and, hused, not_false_eq_true]

/-- The columns that attributes add behind others, of which one may be the key already. -/
def addedColumns (table : String) (columns : List Column) (attributes : List TypedAttribute) :
    List Column :=
  if columns.any Column.primaryKey then attributes.map TypedAttribute.plain
  else attributeColumns table attributes

theorem append_addedColumns_cons (columns : List Column) (typed : TypedAttribute)
    (rest : List TypedAttribute) :
    columns ++ addedColumns table columns (typed :: rest) =
      (columns ++ [declaredColumn typed.1 typed.2
        (!columns.any Column.primaryKey && namesKey table typed.column)]) ++
        addedColumns table (columns ++ [declaredColumn typed.1 typed.2
          (!columns.any Column.primaryKey && namesKey table typed.column)]) rest := by
  cases hany : columns.any Column.primaryKey with
  | true => simp [addedColumns, hany, TypedAttribute.plain]
  | false =>
    cases hkey : namesKey table typed.column with
    | true =>
      simp [addedColumns, hany, attributeColumns_cons_key hkey, TypedAttribute.key, declaredColumn]
    | false =>
      simp [addedColumns, hany, attributeColumns_cons_plain hkey, TypedAttribute.plain,
        declaredColumn]

theorem declaredColumns_fst {columns : List Column} {declarations : List String}
    (hfaults : (element.declaredColumns enums table columns declarations).2 = []) :
    (element.declaredColumns enums table columns declarations).1 =
      columns ++ addedColumns table columns (element.typedAttributes enums declarations) := by
  induction declarations generalizing columns with
  | nil => simp [declaredColumns, typedAttributes, addedColumns]
  | cons declaration rest ih =>
    cases hread : element.readAttribute enums declaration with
    | error fault => exact absurd hfaults (declaredColumns_cons_error hread columns rest)
    | ok typed =>
      by_cases hused : TypedAttribute.column typed ∈ columns.map Column.name
      · exact absurd hfaults (declaredColumns_cons_used hread hused rest)
      · rw [declaredColumns_cons_new hread hused] at hfaults ⊢
        rw [ih hfaults, typedAttributes_cons_ok hread, append_addedColumns_cons]

end Element

end ClassDiagram
