import ClassDiagram.Proofs.Hierarchy.Fitting
import ClassDiagram.Proofs.Schema.KeyTypes

/-!
# A hierarchy after fitting

Before the children are fitted no column refers to another one and every table has one key. After
that the key of a child refers to the key of its parent, at every depth both have the types of the
root's key, and the schema keeps the rules.
-/

namespace ClassDiagram

theorem mem_modifyFirstKey {change : Column → Column} {columns : List Column} {column : Column}
    (hmem : column ∈ modifyFirstKey change columns) :
    column ∈ columns ∨ ∃ key ∈ columns, key.primaryKey = true ∧ column = change key := by
  rcases modifyFirstKey_cases change columns with
    ⟨-, heq⟩ | ⟨before, key, after, rfl, -, hkey, heq⟩
  · exact .inl (heq ▸ hmem)
  · rw [heq, List.mem_append, List.mem_cons] at hmem
    rcases hmem with hbefore | rfl | hafter
    · exact .inl (List.mem_append_left _ hbefore)
    · exact .inr ⟨key, List.mem_append_right _ List.mem_cons_self, hkey, rfl⟩
    · exact .inl (List.mem_append_right _ (List.mem_cons_of_mem key hafter))

theorem length_keys_modifyFirstKey (change : Column → Column)
    (hkey : ∀ column, (change column).primaryKey = column.primaryKey) (columns : List Column) :
    ((modifyFirstKey change columns).filter Column.primaryKey).length =
      (columns.filter Column.primaryKey).length := by
  rcases modifyFirstKey_cases change columns with ⟨-, heq⟩ | ⟨_, key, _, rfl, -, hfirst, heq⟩
  · rw [heq]
  · simp [heq, hkey, hfirst]

namespace Table

variable {child parent : Table} {above : List Table} {parentKey rootKey : Column}

theorem columnNames_fitTo_sublist (child parent : Table) (above : List Table)
    (parentKey rootKey : Column) :
    (child.fitTo above parent parentKey rootKey).columnNames.Sublist child.columnNames := by
  rw [columnNames, fitTo, map_name_modifyFirstKey (childKey parent parentKey rootKey)
    fun _ => rfl]
  exact List.filter_sublist.map Column.name

theorem length_keyColumns_fitTo (child parent : Table) (above : List Table)
    (parentKey rootKey : Column) :
    (child.fitTo above parent parentKey rootKey).keyColumns.length = child.keyColumns.length := by
  rw [keyColumns, fitTo, length_keys_modifyFirstKey
    (childKey parent parentKey rootKey) (fun _ => rfl), List.filter_filter, keyColumns]
  congr 2
  funext column
  cases column.primaryKey <;> simp

/-- A column of a fitted table is one of its own or its new key. -/
theorem mem_columns_fitTo {column : Column}
    (hmem : column ∈ (child.fitTo above parent parentKey rootKey).columns) :
    column ∈ child.columns ∨ ∃ key ∈ child.columns, key.primaryKey = true ∧
      column = childKey parent parentKey rootKey key := by
  rcases mem_modifyFirstKey hmem with hold | ⟨key, hkey, hchanged⟩
  · exact .inl (List.mem_filter.1 hold).1
  · exact .inr ⟨key, (List.mem_filter.1 hkey).1, hchanged⟩

theorem forall_mem_columns_fitTo {property : Column → Prop}
    (hcolumns : ∀ column ∈ child.columns, property column)
    (hkeys : ∀ key ∈ child.columns, key.primaryKey = true →
      property (childKey parent parentKey rootKey key)) :
    ∀ column ∈ (child.fitTo above parent parentKey rootKey).columns, property column := by
  intro column hmem
  rcases mem_columns_fitTo hmem with hold | ⟨key, hkey, hprimary, rfl⟩
  · exact hcolumns column hold
  · exact hkeys key hkey hprimary

end Table

namespace Schema

/-- Tables of elements with their parents, of which none has been fitted yet. -/
structure Flat (schema : Schema) : Prop where
  stored : schema.StoredByName
  acyclic : schema.Acyclic
  element : ∀ name table, schema.table? name = some table → table.isJoin = false
  distinct : ∀ name table, schema.table? name = some table → table.columnNames.Nodup
  key : ∀ name table, schema.table? name = some table → table.keyColumns.length = 1
  bare : ∀ name table, schema.table? name = some table → ∀ column ∈ table.columns,
    column.references = none
  parents : ∀ name table, schema.table? name = some table → ∀ parent,
    table.parent = some parent → parent ∈ schema.tables.names

/-- The schema with all tables fitted to their declared ancestors. -/
def fitted (schema : Schema) : Schema :=
  { schema with tables := schema.tables.map schema.fit }

/-- The table at the top of the hierarchy to which a table belongs. -/
def rootOf (schema : Schema) (table : Table) : Table :=
  (schema.ancestors table.name).getLast?.getD table

variable {schema : Schema}

theorem table?_fitted (schema : Schema) (name : String) :
    schema.fitted.table? name = (schema.table? name).map schema.fit :=
  Catalog.find?_map schema.tables schema.fit name

theorem names_fitted (schema : Schema) : schema.fitted.tables.names = schema.tables.names :=
  Catalog.names_map schema.tables schema.fit

namespace Flat

variable {name : String} {table : Table}

theorem exists_primaryKey (hflat : schema.Flat) (hfind : schema.table? name = some table) :
    ∃ key, table.primaryKey? = some key := by
  apply Table.HasProperKey.exists_primaryKey
  rw [Table.HasProperKey, hflat.element name table hfind, if_neg Bool.false_ne_true]
  exact hflat.key name table hfind

theorem exists_parent (hflat : schema.Flat) (hfind : schema.table? name = some table)
    {parentName : String} (hparent : table.parent = some parentName) :
    ∃ parent, schema.table? parentName = some parent ∧
      schema.ancestors table.name = parent :: schema.ancestors parent.name := by
  obtain ⟨parent, hparentFind⟩ :=
    Catalog.mem_names_iff.1 (hflat.parents name table hfind parentName hparent)
  refine ⟨parent, hparentFind, ?_⟩
  rw [hflat.stored name table hfind, hflat.stored parentName parent hparentFind]
  exact ancestors_eq_cons hflat.acyclic hflat.stored
    (hasParent_iff.2 ⟨table, hfind, hparent⟩) hparentFind

theorem ancestors_eq_nil (hflat : schema.Flat) (hfind : schema.table? name = some table)
    (hparent : table.parent = none) : schema.ancestors table.name = [] := by
  apply ancestors_eq_nil_of_parent?_eq_none
  rw [hflat.stored name table hfind, parent?, hfind, Option.bind_some, hparent]

theorem rootOf_eq_self (hflat : schema.Flat) (hfind : schema.table? name = some table)
    (hparent : table.parent = none) : schema.rootOf table = table := by
  rw [rootOf, hflat.ancestors_eq_nil hfind hparent]
  rfl

/-- A child belongs to the hierarchy of its parent. -/
theorem rootOf_eq_rootOf_parent {parent : Table}
    (hancestors : schema.ancestors table.name = parent :: schema.ancestors parent.name) :
    schema.rootOf table = schema.rootOf parent := by
  rw [rootOf, hancestors, List.getLast?_cons, Option.getD_some, rootOf]

theorem exists_rootOf (hflat : schema.Flat) (hfind : schema.table? name = some table) :
    ∃ rootName, schema.table? rootName = some (schema.rootOf table) := by
  cases hlast : (schema.ancestors table.name).getLast? with
  | none =>
    rw [rootOf, hlast]
    exact ⟨name, hfind⟩
  | some root =>
    obtain ⟨rootName, -, hroot⟩ := (mem_ancestors_iff hflat.acyclic hflat.stored).1
      (List.mem_of_getLast? hlast)
    rw [rootOf, hlast]
    exact ⟨rootName, hroot⟩

theorem fit_eq_self (hflat : schema.Flat) (hfind : schema.table? name = some table)
    (hparent : table.parent = none) : schema.fit table = table := by
  rw [fit, hflat.ancestors_eq_nil hfind hparent, Table.fitBelow_nil]

/-- A root stays as it is; a child is fitted to its parent and to its root. -/
theorem fit_cases (hflat : schema.Flat) (hfind : schema.table? name = some table) :
    (table.parent = none ∧ schema.fit table = table) ∨
      ∃ parentName parent parentKey rootKey, table.parent = some parentName ∧
        schema.table? parentName = some parent ∧
        schema.ancestors table.name = parent :: schema.ancestors parent.name ∧
        parent.primaryKey? = some parentKey ∧
        (schema.rootOf table).primaryKey? = some rootKey ∧
        schema.fit table =
          table.fitTo (schema.ancestors table.name) parent parentKey rootKey := by
  cases hparent : table.parent with
  | none => exact .inl ⟨rfl, hflat.fit_eq_self hfind hparent⟩
  | some parentName =>
    obtain ⟨parent, hparentFind, hancestors⟩ := hflat.exists_parent hfind hparent
    obtain ⟨parentKey, hparentKey⟩ := hflat.exists_primaryKey hparentFind
    obtain ⟨rootName, hroot⟩ := hflat.exists_rootOf hfind
    obtain ⟨rootKey, hrootKey⟩ := hflat.exists_primaryKey hroot
    refine .inr ⟨parentName, parent, parentKey, rootKey, rfl, hparentFind, hancestors, hparentKey,
      hrootKey, ?_⟩
    have hlast : (schema.ancestors table.name).getLast? = some (schema.rootOf table) := by
      rw [rootOf, hancestors, List.getLast?_cons, Option.getD_some]
    have hhead : (schema.ancestors table.name).head? = some parent := by rw [hancestors]; rfl
    simp [fit, Table.fitBelow, hhead, hlast, hparentKey, hrootKey]

/-- Down a whole hierarchy the keys have the types of the root's key and their own names. -/
theorem primaryKey?_fit (hflat : schema.Flat) (hfind : schema.table? name = some table)
    {rootKey : Column} (hrootKey : (schema.rootOf table).primaryKey? = some rootKey) :
    ∃ key, (schema.fit table).primaryKey? = some key ∧ key.HasTypeOf rootKey ∧
      table.primaryKey?.map Column.name = some key.name := by
  obtain ⟨declared, hdeclared⟩ := hflat.exists_primaryKey hfind
  rcases hflat.fit_cases hfind with ⟨hparent, heq⟩ |
    ⟨_, parent, parentKey, rootKey', -, -, -, -, hrootKey', heq⟩
  · rw [hflat.rootOf_eq_self hfind hparent] at hrootKey
    exact ⟨rootKey, by rw [heq, hrootKey], ⟨rfl, rfl⟩, by rw [hrootKey]; rfl⟩
  · cases hrootKey.symm.trans hrootKey'
    refine ⟨childKey parent parentKey rootKey declared, ?_, ⟨rfl, rfl⟩, by rw [hdeclared]; rfl⟩
    rw [heq, Table.primaryKey?_fitTo, hdeclared, Option.map_some]

/-- A child is fitted to the key that its parent has after fitting. -/
theorem fit_eq_fitTo_parent (hflat : schema.Flat) (hfind : schema.table? name = some table)
    {parentName : String} (hparent : table.parent = some parentName) :
    ∃ parent key, schema.table? parentName = some parent ∧
      schema.fitted.keyOf? parentName = some key ∧
      schema.fit table = table.fitTo (schema.ancestors table.name) parent key key := by
  rcases hflat.fit_cases hfind with ⟨hnone, -⟩ |
    ⟨parentName', parent, parentKey, rootKey, hparent', hparentFind, hancestors, hparentKey,
      hrootKey, heq⟩
  · cases hnone.symm.trans hparent
  · cases hparent'.symm.trans hparent
    rw [rootOf_eq_rootOf_parent hancestors] at hrootKey
    obtain ⟨key, hkey, htypes, hname⟩ := hflat.primaryKey?_fit hparentFind hrootKey
    rw [hparentKey, Option.map_some, Option.some.injEq] at hname
    have hchild : childKey parent parentKey rootKey = childKey parent key key := by
      funext declared
      simp only [childKey, hname, htypes.sqlType, htypes.javaType]
    refine ⟨parent, key, hparentFind, keyOf?_eq_some_iff.2 ⟨schema.fit parent, ?_, hkey⟩, ?_⟩
    · rw [table?_fitted, hparentFind, Option.map_some]
    · rw [heq, Table.fitTo, hchild, Table.fitTo]

theorem isJoin_fit (hflat : schema.Flat) (hfind : schema.table? name = some table) :
    (schema.fit table).isJoin = false := by
  rw [Table.isJoin, fit, Table.fitBelow_elementId]
  exact hflat.element name table hfind

/-- The key of a child has the types of the key of its parent. -/
theorem fitted_keysAgree (hflat : schema.Flat) : schema.fitted.KeysAgree := by
  intro name fittedTable hfitted column hmem reference hreference
  rw [table?_fitted, Option.map_eq_some_iff] at hfitted
  obtain ⟨table, hfind, rfl⟩ := hfitted
  cases hparent : table.parent with
  | none =>
    rw [hflat.fit_eq_self hfind hparent] at hmem
    simp [hflat.bare name table hfind column hmem] at hreference
  | some parentName =>
    obtain ⟨parent, parentKey, hparentFind, hparentKey, heq⟩ :=
      hflat.fit_eq_fitTo_parent hfind hparent
    rw [heq] at hmem
    rcases Table.mem_columns_fitTo hmem with hold | ⟨key, -, -, rfl⟩
    · simp [hflat.bare name table hfind column hold] at hreference
    · obtain rfl : { table := parent.name, column := parentKey.name } = reference :=
        Option.some.inj hreference
      obtain ⟨target, htarget, hkey⟩ := keyOf?_eq_some_iff.1 hparentKey
      have hfitted : schema.fitted.table? parentName = some (schema.fit parent) := by
        rw [table?_fitted, hparentFind, Option.map_some]
      cases htarget.symm.trans hfitted
      exact ⟨schema.fit parent, parentKey, hflat.stored parentName parent hparentFind ▸ hfitted,
        hflat.isJoin_fit hparentFind, hkey, rfl, rfl, rfl⟩

theorem fitted_tableKeepsRules (hflat : schema.Flat) {fittedTable : Table}
    (hfitted : schema.fitted.table? name = some fittedTable) :
    schema.fitted.TableKeepsRules name fittedTable := by
  have hreferences := hflat.fitted_keysAgree name fittedTable hfitted
  rw [table?_fitted, Option.map_eq_some_iff] at hfitted
  obtain ⟨table, hfind, rfl⟩ := hfitted
  refine {
    stored := ?_
    distinct := ?_
    references := fun column hmem reference hreference =>
      (hreferences column hmem reference hreference).resolves
    key := ?_
    parent := ?_ }
  · rw [fit, Table.fitBelow_name, hflat.stored name table hfind]
  · rcases hflat.fit_cases hfind with ⟨-, heq⟩ | ⟨_, parent, parentKey, rootKey, -, -, -, -, -, heq⟩
    · rw [heq]
      exact hflat.distinct name table hfind
    · rw [heq]
      exact (hflat.distinct name table hfind).sublist (table.columnNames_fitTo_sublist _ _ _ _)
  · rw [Table.HasProperKey, hflat.isJoin_fit hfind, if_neg Bool.false_ne_true]
    rcases hflat.fit_cases hfind with ⟨-, heq⟩ | ⟨_, parent, parentKey, rootKey, -, -, -, -, -, heq⟩
    · rw [heq]
      exact hflat.key name table hfind
    · rw [heq, Table.length_keyColumns_fitTo]
      exact hflat.key name table hfind
  · intro parent hparent
    rw [fit, Table.fitBelow_parent] at hparent
    rw [names_fitted]
    exact hflat.parents name table hfind parent hparent

theorem fitted_keepsRules (hflat : schema.Flat) (hlinks : schema.links = []) :
    schema.fitted.KeepsRules where
  tables := fun _ _ hfitted => hflat.fitted_tableKeepsRules hfitted
  links := by simp [fitted, hlinks]

end Flat

theorem KeepsRules.storedByName (hrules : schema.KeepsRules) : schema.StoredByName :=
  fun name table hfind => (hrules.tables name table hfind).stored

end Schema

end ClassDiagram
