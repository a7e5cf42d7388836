import ClassDiagram.Proofs.Hierarchy.Ascent

/-!
# Fitting children, in any order

Children are fitted one after the other to ancestors of which some have been fitted before. In a
schema without cycles that makes no difference: a column that an ancestor has lost is declared still
farther up, and a key keeps its name. All children therefore end up as if each had been fitted to
the ancestors as they were declared.
-/

namespace ClassDiagram

/-- A table fitted to the tables above it, unless there are none or a key is missing. -/
def Table.fitBelow (child : Table) (above : List Table) : Table :=
  (do
    let parent ← above.head?
    let root ← above.getLast?
    let parentKey ← parent.primaryKey?
    let rootKey ← root.primaryKey?
    return child.fitTo above parent parentKey rootKey).getD child

/-- The names of the columns beside the key. -/
def Table.plainNames (table : Table) : List String :=
  (table.columns.filter fun column => !column.primaryKey).map Column.name

theorem mem_inheritedNames_iff {above : List Table} {name : String} :
    name ∈ inheritedNames above ↔ ∃ table ∈ above, name ∈ table.plainNames := by
  simp only [inheritedNames, Table.plainNames, List.mem_map, List.mem_flatMap]
  constructor
  · rintro ⟨column, ⟨table, htable, hcolumn⟩, hname⟩
    exact ⟨table, htable, column, hcolumn, hname⟩
  · rintro ⟨table, htable, column, hcolumn, hname⟩
    exact ⟨column, ⟨table, htable, hcolumn⟩, hname⟩

@[simp]
theorem inheritedNames_nil : inheritedNames [] = [] := rfl

theorem mem_inheritedNames_cons {table : Table} {above : List Table} {name : String} :
    name ∈ inheritedNames (table :: above) ↔
      name ∈ table.plainNames ∨ name ∈ inheritedNames above := by
  simp [mem_inheritedNames_iff]

/-! ## Columns of a fitted table -/

section Columns

variable (change : Column → Column)

/-- What is not a key stays, and so does what follows the first key. -/
theorem modifyFirstKey_cases (columns : List Column) :
    ((∀ column ∈ columns, column.primaryKey = false) ∧ modifyFirstKey change columns = columns) ∨
      ∃ before key after, columns = before ++ key :: after ∧
        (∀ column ∈ before, column.primaryKey = false) ∧ key.primaryKey = true ∧
        modifyFirstKey change columns = before ++ change key :: after := by
  induction columns with
  | nil => exact .inl ⟨nofun, rfl⟩
  | cons column rest ih =>
    cases hcolumn : column.primaryKey with
    | true => exact .inr ⟨[], column, rest, rfl, nofun, hcolumn, if_pos hcolumn⟩
    | false =>
      have hlater : modifyFirstKey change (column :: rest) =
          column :: modifyFirstKey change rest := by
        rw [modifyFirstKey, hcolumn, if_neg Bool.false_ne_true]
      rw [hlater]
      rcases ih with ⟨hplain, heq⟩ | ⟨before, key, after, rfl, hbefore, hkey, heq⟩
      · exact .inl ⟨List.forall_mem_cons.2 ⟨hcolumn, hplain⟩, by rw [heq]⟩
      · exact .inr ⟨column :: before, key, after, rfl, List.forall_mem_cons.2 ⟨hcolumn, hbefore⟩,
          hkey, by rw [heq, List.cons_append]⟩

theorem find?_modifyFirstKey
    (hkey : ∀ column, (change column).primaryKey = column.primaryKey) (columns : List Column) :
    (modifyFirstKey change columns).find? Column.primaryKey =
      (columns.find? Column.primaryKey).map change := by
  rcases modifyFirstKey_cases change columns with
    ⟨hplain, heq⟩ | ⟨before, key, after, rfl, hbefore, hfirst, heq⟩
  · rw [heq, List.find?_eq_none.2 (by simpa using hplain), Option.map_none]
  · have hnone : before.find? Column.primaryKey = none :=
      List.find?_eq_none.2 (by simpa using hbefore)
    simp [heq, hnone, hkey, hfirst]

theorem filter_modifyFirstKey
    (hkey : ∀ column, (change column).primaryKey = column.primaryKey) (columns : List Column) :
    (modifyFirstKey change columns).filter (fun column => !column.primaryKey) =
      columns.filter fun column => !column.primaryKey := by
  rcases modifyFirstKey_cases change columns with ⟨-, heq⟩ | ⟨_, key, _, rfl, -, hfirst, heq⟩
  · rw [heq]
  · simp [heq, hkey, hfirst]

theorem map_name_modifyFirstKey (hname : ∀ column, (change column).name = column.name)
    (columns : List Column) :
    (modifyFirstKey change columns).map Column.name = columns.map Column.name := by
  rcases modifyFirstKey_cases change columns with ⟨-, heq⟩ | ⟨_, key, _, rfl, -, -, heq⟩
  · rw [heq]
  · simp [heq, hname]

end Columns

namespace Table

variable {child : Table} {above : List Table}

/-- All that fitting a table can do to it. -/
theorem fitBelow_cases (child : Table) (above : List Table) :
    child.fitBelow above = child ∨
      ∃ parent root parentKey rootKey, above.head? = some parent ∧ above.getLast? = some root ∧
        parent.primaryKey? = some parentKey ∧ root.primaryKey? = some rootKey ∧
        child.fitBelow above = child.fitTo above parent parentKey rootKey := by
  cases hhead : above.head? with
  | none => simp [fitBelow, hhead]
  | some parent =>
    cases hlast : above.getLast? with
    | none => simp [fitBelow, hlast]
    | some root =>
      cases hparent : parent.primaryKey? with
      | none => simp [fitBelow, hhead, hlast, hparent]
      | some parentKey =>
        cases hroot : root.primaryKey? with
        | none => simp [fitBelow, hhead, hlast, hroot]
        | some rootKey =>
          exact .inr ⟨parent, root, parentKey, rootKey, rfl, rfl, hparent, hroot,
            by simp [fitBelow, hhead, hlast, hparent, hroot]⟩

@[simp]
theorem fitBelow_nil (child : Table) : child.fitBelow [] = child := rfl

/-- Only the columns of a table are fitted. -/
theorem exists_fitBelow_eq (child : Table) (above : List Table) :
    ∃ columns, child.fitBelow above = { child with columns } := by
  rcases child.fitBelow_cases above with heq | ⟨_, _, _, _, -, -, -, -, heq⟩
  · exact ⟨child.columns, heq⟩
  · exact ⟨_, heq⟩

@[simp]
theorem fitBelow_name (child : Table) (above : List Table) :
    (child.fitBelow above).name = child.name := by
  obtain ⟨columns, heq⟩ := child.exists_fitBelow_eq above
  rw [heq]

@[simp]
theorem fitBelow_parent (child : Table) (above : List Table) :
    (child.fitBelow above).parent = child.parent := by
  obtain ⟨columns, heq⟩ := child.exists_fitBelow_eq above
  rw [heq]

@[simp]
theorem fitBelow_elementId (child : Table) (above : List Table) :
    (child.fitBelow above).elementId = child.elementId := by
  obtain ⟨columns, heq⟩ := child.exists_fitBelow_eq above
  rw [heq]

theorem primaryKey?_fitTo (child : Table) (above : List Table) (parent : Table)
    (parentKey rootKey : Column) :
    (child.fitTo above parent parentKey rootKey).primaryKey? =
      child.primaryKey?.map (childKey parent parentKey rootKey) := by
  rw [primaryKey?, fitTo, find?_modifyFirstKey (childKey parent parentKey rootKey)
    (fun _ => rfl), primaryKey?, List.find?_filter]
  congr 2
  funext column
  cases column.primaryKey <;> simp

/-- The key of a fitted table has the name that it had before. -/
theorem map_name_primaryKey?_fitBelow (child : Table) (above : List Table) :
    (child.fitBelow above).primaryKey?.map Column.name = child.primaryKey?.map Column.name := by
  rcases child.fitBelow_cases above with heq | ⟨_, _, _, _, -, -, -, -, heq⟩
  · rw [heq]
  · rw [heq, primaryKey?_fitTo, Option.map_map]
    rfl

theorem mem_plainNames_fitTo (parent : Table) (parentKey rootKey : Column) {name : String} :
    name ∈ (child.fitTo above parent parentKey rootKey).plainNames ↔
      name ∈ child.plainNames ∧ name ∉ inheritedNames above := by
  rw [plainNames, fitTo, filter_modifyFirstKey (childKey parent parentKey rootKey)
    fun _ => rfl]
  simp only [plainNames, List.mem_map, List.mem_filter, Bool.or_eq_true, Bool.not_eq_true',
    List.contains_eq_mem, decide_eq_false_iff_not]
  constructor
  · rintro ⟨column, ⟨⟨hmem, hkept⟩, hplain⟩, hname⟩
    rw [hplain] at hkept
    exact ⟨⟨column, ⟨hmem, hplain⟩, hname⟩, hname ▸ hkept.resolve_left Bool.false_ne_true⟩
  · rintro ⟨⟨column, ⟨hmem, hplain⟩, hname⟩, hfree⟩
    exact ⟨column, ⟨⟨hmem, .inr (hname ▸ hfree)⟩, hplain⟩, hname⟩

/-- Beside what is inherited a fitted table has the same plain columns as before. -/
theorem mem_plainNames_fitBelow_or {name : String} :
    name ∈ (child.fitBelow above).plainNames ∨ name ∈ inheritedNames above ↔
      name ∈ child.plainNames ∨ name ∈ inheritedNames above := by
  rcases child.fitBelow_cases above with heq | ⟨_, _, _, _, -, -, -, -, heq⟩
  · rw [heq]
  · rw [heq, mem_plainNames_fitTo]
    by_cases hmem : name ∈ inheritedNames above <;> simp [hmem]

/-- What counts for a child is what is inherited, the names of the parent and its key, and the
root. -/
theorem fitBelow_map (child : Table) {change : Table → Table}
    (hinherited : ∀ name, name ∈ inheritedNames (above.map change) ↔ name ∈ inheritedNames above)
    (hname : ∀ table ∈ above, (change table).name = table.name)
    (hkey : ∀ table ∈ above,
      (change table).primaryKey?.map Column.name = table.primaryKey?.map Column.name)
    (hroot : ∀ root, above.getLast? = some root → change root = root) :
    child.fitBelow (above.map change) = child.fitBelow above := by
  cases hhead : above.head? with
  | none => rw [List.head?_eq_none_iff.1 hhead, List.map_nil]
  | some parent =>
    cases hlast : above.getLast? with
    | none => rw [List.getLast?_eq_none_iff.1 hlast, List.map_nil]
    | some root =>
      have hmem : parent ∈ above := List.mem_of_mem_head? hhead
      have hparentKey := hkey parent hmem
      cases hparent : parent.primaryKey? with
      | none =>
        rw [hparent, Option.map_none, Option.map_eq_none_iff] at hparentKey
        simp [fitBelow, hhead, hlast, hparent, hparentKey]
      | some parentKey =>
        rw [hparent, Option.map_some, Option.map_eq_some_iff] at hparentKey
        obtain ⟨newKey, hnew, hnewName⟩ := hparentKey
        cases hrootKey : root.primaryKey? with
        | none => simp [fitBelow, hhead, hlast, hroot root hlast, hrootKey]
        | some rootKey =>
          have hchild : childKey (change parent) newKey rootKey =
              childKey parent parentKey rootKey := by
            funext key
            simp [childKey, hname parent hmem, hnewName]
          simp [fitBelow, hhead, hlast, hparent, hnew, hroot root hlast, hrootKey, fitTo,
            hinherited, hchild]

end Table

/-! ## The order of the children -/

namespace Schema

variable {schema : Schema}

/-- A table as it is fitted to its declared ancestors. -/
def fit (schema : Schema) (table : Table) : Table :=
  table.fitBelow (schema.ancestors table.name)

theorem fitChild?_getD (schema : Schema) (name : String) :
    (schema.fitChild? name).getD schema =
      { schema with
        tables := schema.tables.modify name fun child =>
          child.fitBelow (schema.ancestors name) } := by
  cases hhead : (schema.ancestors name).head? with
  | none => simp [fitChild?, Table.fitBelow, hhead]
  | some parent =>
    cases hlast : (schema.ancestors name).getLast? with
    | none => simp [fitChild?, Table.fitBelow, hlast]
    | some root =>
      cases hparent : parent.primaryKey? with
      | none => simp [fitChild?, Table.fitBelow, hhead, hlast, hparent]
      | some parentKey =>
        cases hroot : root.primaryKey? <;>
          simp [fitChild?, Table.fitBelow, hhead, hlast, hparent, hroot]

theorem Ascent.map {other : Schema} {change : Table → Table}
    (htables : ∀ name, other.table? name = (schema.table? name).map change)
    (hparent : ∀ table, (change table).parent = table.parent)
    {current : Option String} {above : List Table} (hascent : schema.Ascent current above) :
    other.Ascent current (above.map change) := by
  induction hascent with
  | root => exact .root
  | missing hmissing => exact .missing (by rw [htables, hmissing, Option.map_none])
  | @step name table rest hfind _ ih =>
    refine Ascent.step (by rw [htables, hfind, Option.map_some]) ?_
    rw [hparent]
    exact ih

theorem Ascent.ancestors_eq (hacyclic : schema.Acyclic) (hstored : schema.StoredByName)
    {current : Option String} {table : Table} {above : List Table}
    (hascent : schema.Ascent current (table :: above)) :
    schema.ancestors table.name = above := by
  cases hascent with
  | step hfind habove =>
    apply ancestors_eq_of_ascent hacyclic hstored
    rwa [hstored _ _ hfind, parent?, hfind]

/-- The root of a hierarchy has no ancestors. -/
theorem Ascent.ancestors_getLast (hacyclic : schema.Acyclic) (hstored : schema.StoredByName)
    {current : Option String} {above : List Table} {root : Table}
    (hascent : schema.Ascent current above) (hlast : above.getLast? = some root) :
    schema.ancestors root.name = [] := by
  induction hascent with
  | root => simp at hlast
  | missing => simp at hlast
  | @step name table rest hfind habove ih =>
    cases rest with
    | nil =>
      rw [List.getLast?_singleton, Option.some.injEq] at hlast
      exact hlast ▸ (Ascent.step hfind habove).ancestors_eq hacyclic hstored
    | cons next rest => exact ih (by rwa [List.getLast?_cons_cons] at hlast)

/-- A table, fitted if it is one of those whose turn has come. -/
def fitAmong (schema : Schema) (done : List String) (table : Table) : Table :=
  if table.name ∈ done then schema.fit table else table

/-- The schema in which some of the tables have been fitted. -/
def partlyFitted (schema : Schema) (done : List String) : Schema :=
  { schema with tables := schema.tables.map (schema.fitAmong done) }

@[simp]
theorem fitAmong_name (done : List String) (table : Table) :
    (schema.fitAmong done table).name = table.name := by
  rw [fitAmong]
  split <;> simp [fit]

@[simp]
theorem fitAmong_parent (done : List String) (table : Table) :
    (schema.fitAmong done table).parent = table.parent := by
  rw [fitAmong]
  split <;> simp [fit]

theorem map_name_primaryKey?_fitAmong (done : List String) (table : Table) :
    (schema.fitAmong done table).primaryKey?.map Column.name =
      table.primaryKey?.map Column.name := by
  rw [fitAmong]
  split
  · exact table.map_name_primaryKey?_fitBelow _
  · rfl

theorem table?_partlyFitted (done : List String) (name : String) :
    (schema.partlyFitted done).table? name = (schema.table? name).map (schema.fitAmong done) :=
  Catalog.find?_map schema.tables _ name

theorem parent?_partlyFitted (done : List String) (name : String) :
    (schema.partlyFitted done).parent? name = schema.parent? name := by
  rw [parent?, table?_partlyFitted, parent?]
  cases schema.table? name <;> simp

theorem StoredByName.partlyFitted (hstored : schema.StoredByName) (done : List String) :
    (schema.partlyFitted done).StoredByName := by
  intro name table hfind
  rw [table?_partlyFitted, Option.map_eq_some_iff] at hfind
  obtain ⟨before, hbefore, rfl⟩ := hfind
  rw [fitAmong_name, hstored name before hbefore]

theorem Acyclic.partlyFitted (hacyclic : schema.Acyclic) (done : List String) :
    (schema.partlyFitted done).Acyclic := by
  have hsame : (schema.partlyFitted done).HasParent = schema.HasParent := by
    funext child parent
    rw [HasParent, parent?_partlyFitted, HasParent]
  rw [Acyclic, hsame]
  exact hacyclic

theorem ancestors_partlyFitted (hacyclic : schema.Acyclic) (hstored : schema.StoredByName)
    (done : List String) (name : String) :
    (schema.partlyFitted done).ancestors name =
      (schema.ancestors name).map (schema.fitAmong done) := by
  apply ancestors_eq_of_ascent (hacyclic.partlyFitted done) (hstored.partlyFitted done)
  rw [parent?_partlyFitted]
  exact (ascent_ancestors hacyclic hstored name).map (table?_partlyFitted done)
    (fitAmong_parent done)

/-- The topmost table that declares a name never loses it, so what is inherited stays the same
while tables are fitted. -/
theorem Ascent.mem_inheritedNames_map (hacyclic : schema.Acyclic)
    (hstored : schema.StoredByName) (done : List String) {current : Option String}
    {above : List Table} (hascent : schema.Ascent current above) (name : String) :
    name ∈ inheritedNames (above.map (schema.fitAmong done)) ↔ name ∈ inheritedNames above := by
  induction hascent with
  | root => rfl
  | missing => rfl
  | @step _ table rest hfind habove ih =>
    have hrest : schema.ancestors table.name = rest :=
      (Ascent.step hfind habove).ancestors_eq hacyclic hstored
    rw [List.map_cons, mem_inheritedNames_cons, mem_inheritedNames_cons, ih, fitAmong]
    split
    · rw [fit, hrest]
      exact Table.mem_plainNames_fitBelow_or
    · rfl

/-- When the turn of a child comes, it makes no difference which ancestors have been fitted. -/
theorem fitBelow_ancestors_partlyFitted (hacyclic : schema.Acyclic)
    (hstored : schema.StoredByName) (done : List String) (child : Table) (name : String) :
    child.fitBelow ((schema.partlyFitted done).ancestors name) =
      child.fitBelow (schema.ancestors name) := by
  have hascent := ascent_ancestors hacyclic hstored name
  rw [ancestors_partlyFitted hacyclic hstored]
  refine child.fitBelow_map (hascent.mem_inheritedNames_map hacyclic hstored done)
    (fun table _ => fitAmong_name done table)
    (fun table _ => map_name_primaryKey?_fitAmong done table) ?_
  intro root hlast
  rw [fitAmong]
  split
  · rw [fit, hascent.ancestors_getLast hacyclic hstored hlast, Table.fitBelow_nil]
  · rfl

theorem fitChild?_partlyFitted (hacyclic : schema.Acyclic) (hstored : schema.StoredByName)
    {done : List String} {name : String} (hnew : name ∉ done) :
    ((schema.partlyFitted done).fitChild? name).getD (schema.partlyFitted done) =
      schema.partlyFitted (done ++ [name]) := by
  rw [fitChild?_getD]
  simp only [fitBelow_ancestors_partlyFitted hacyclic hstored]
  suffices htables : ((schema.tables.map (schema.fitAmong done)).modify name fun child =>
      child.fitBelow (schema.ancestors name)) =
        schema.tables.map (schema.fitAmong (done ++ [name])) by
    simp only [partlyFitted, htables]
  apply Catalog.eq_of_find?_eq
  · simp
  · intro other
    rw [Catalog.find?_modify, Catalog.find?_map, Catalog.find?_map]
    cases hfind : schema.tables.find? other with
    | none => simp
    | some table =>
      have hname : table.name = other := hstored other table hfind
      by_cases hother : other = name
      · subst hother
        simp [fitAmong, hname, hnew, fit]
      · simp [fitAmong, hname, hother]

theorem foldl_fitChild?_partlyFitted (hacyclic : schema.Acyclic)
    (hstored : schema.StoredByName) (names done : List String)
    (hdistinct : (done ++ names).Nodup) :
    names.foldl (fun fitted name => (fitted.fitChild? name).getD fitted)
      (schema.partlyFitted done) = schema.partlyFitted (done ++ names) := by
  induction names generalizing done with
  | nil => rw [List.append_nil, List.foldl_nil]
  | cons name rest ih =>
    have hnew : name ∉ done := fun hmem => hdistinct.disjoint hmem List.mem_cons_self
    rw [List.foldl_cons, fitChild?_partlyFitted hacyclic hstored hnew,
      ih (done ++ [name]) (by simpa using hdistinct), List.append_assoc, List.singleton_append]

theorem names_eq_map_values (hstored : schema.StoredByName) :
    schema.tables.names = schema.tables.values.map Table.name := by
  rw [Catalog.names, Catalog.values, List.map_map]
  apply List.map_congr_left
  intro entry hentry
  exact (hstored entry.1 entry.2 (Catalog.find?_eq_some_iff.2 hentry)).symm

theorem mem_values_iff_table? (hstored : schema.StoredByName) {table : Table} :
    table ∈ schema.tables.values ↔ schema.table? table.name = some table := by
  rw [Catalog.mem_values_iff]
  constructor
  · rintro ⟨name, hfind⟩
    exact hstored name table hfind ▸ hfind
  · exact fun hfind => ⟨table.name, hfind⟩

theorem nodup_childNames (hstored : schema.StoredByName) : schema.childNames.Nodup := by
  have hnames := schema.tables.nodup_names
  rw [names_eq_map_values hstored] at hnames
  exact hnames.sublist (List.filter_sublist.map Table.name)

/-- Fitting the children one after the other fits each to its declared ancestors. -/
theorem fitChildren_eq (hacyclic : schema.Acyclic) (hstored : schema.StoredByName) :
    schema.fitChildren = { schema with tables := schema.tables.map schema.fit } := by
  have hstart : schema.partlyFitted [] = schema := by
    have htables : schema.tables.map (schema.fitAmong []) = schema.tables :=
      Catalog.ext (by simp [Catalog.map, fitAmong])
    simp only [partlyFitted, htables]
  have hfold := foldl_fitChild?_partlyFitted hacyclic hstored schema.childNames []
    (by simpa using nodup_childNames hstored)
  rw [hstart, List.nil_append] at hfold
  rw [fitChildren, hfold, partlyFitted]
  congr 1
  apply Catalog.map_congr
  intro table htable
  rw [fitAmong]
  split
  · rfl
  · rename_i hroot
    obtain ⟨name, hfind⟩ := Catalog.mem_values_iff.1 htable
    have hfind' : schema.table? name = some table := hfind
    have hparent : schema.parent? table.name = none := by
      rw [hstored name table hfind, parent?, hfind', Option.bind_some,
        ← Option.not_isSome_iff_eq_none]
      exact fun hsome => hroot (List.mem_map_of_mem (List.mem_filter.2 ⟨htable, hsome⟩))
    rw [fit, ancestors_eq_nil_of_parent?_eq_none hparent, Table.fitBelow_nil]

end Schema

end ClassDiagram
