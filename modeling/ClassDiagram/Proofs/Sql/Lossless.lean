import ClassDiagram.Proofs.Derivation.Regularity
import ClassDiagram.Proofs.Sql.Increment
import ClassDiagram.Proofs.Sql.Texts

/-!
# Scripts tell schemas apart

If the PostgreSQL scripts of two derived schemas have the same text, their tables are the same, one
after the other, as far as they are stored. The flags of a column follow from its marks, since the
columns are regular, and its reference from the clauses of all statements, wherever they stand.
-/

namespace ClassDiagram

open Text

/-! ## What is stored -/

/-- The columns are stored alike. -/
structure Column.SameStorage (left right : Column) : Prop where
  name : left.name = right.name
  sqlType : left.sqlType = right.sqlType
  nullable : left.nullable = right.nullable
  primaryKey : left.primaryKey = right.primaryKey
  unique : left.unique = right.unique
  generated : left.generated = right.generated
  references : left.references = right.references

/-- The tables are stored alike: they have columns that are, in the same order. -/
structure Table.SameStorage (left right : Table) : Prop where
  name : left.name = right.name
  isJoin : left.isJoin = right.isJoin
  columns : List.Forall₂ Column.SameStorage left.columns right.columns

/-- What the script of a derived schema relies on in its tables. -/
structure Table.IsWritable (table : Table) : Prop where
  regular : table.IsRegular
  types : table.HasSqlTypes
  columns : table.columns ≠ []
  distinct : table.columnNames.Nodup
  references : ∀ column ∈ table.columns, ∀ reference ∈ column.references, reference.IsPlain

theorem Diagram.isWritable_of_schema {diagram : Diagram} {schema : Schema}
    (haccepted : diagram.schema = .ok schema) {name : String} {table : Table}
    (hfind : schema.table? name = some table) : table.IsWritable where
  regular := isRegular_of_schema haccepted name table hfind
  types := hasSqlTypes_of_schema haccepted name table hfind
  columns := by
    obtain ⟨key, hkey⟩ :=
      ((sound_of_schema haccepted).rules.tables name table hfind).key.exists_primaryKey
    exact List.ne_nil_of_mem (List.mem_of_find?_eq_some hkey)
  distinct := ((sound_of_schema haccepted).rules.tables name table hfind).distinct
  references := by
    intro column hcolumn reference hreference
    obtain ⟨target, htarget, hname⟩ := ((sound_of_schema haccepted).rules.tables name table
      hfind).references column hcolumn reference hreference
    have hregular := isRegular_of_schema haccepted _ target htarget
    have hstored := (sound_of_schema haccepted).rules.storedByName _ target htarget
    obtain ⟨key, hkey, hkeyName⟩ := List.mem_map.1 hname
    exact ⟨hstored ▸ hregular.name, hkeyName ▸ (hregular.columns key hkey).name⟩

/-! ## Statements of derived schemas -/

theorem isPlain_columnClause {table : Table} (hwritable : table.IsWritable)
    (pending : List String) {column : Column} (hcolumn : column ∈ table.columns) :
    (columnClause table pending column).IsPlain where
  name := (hwritable.regular.columns column hcolumn).name
  sqlType := hwritable.types column hcolumn
  reference reference hreference :=
    hwritable.references column hcolumn reference (Option.mem_filter_iff.1 hreference).1

theorem isPlain_creation {table : Table} (hwritable : table.IsWritable) (pending : List String) :
    (creation pending table).IsPlain := by
  refine ⟨hwritable.regular.name, fun column hcolumn => (hwritable.regular.columns column
    hcolumn).name, mt List.map_eq_nil_iff.1 hwritable.columns, ?_⟩
  rw [List.forall_mem_map]
  exact fun column hcolumn => isPlain_columnClause hwritable pending hcolumn

theorem isPlain_of_mem_deferredKeys {table : Table} (hwritable : table.IsWritable)
    {pending : List String} {statement : Statement}
    (hmem : statement ∈ deferredKeys pending table) : statement.IsPlain := by
  obtain ⟨column, hcolumn, hstatement⟩ := List.mem_filterMap.1 hmem
  obtain ⟨reference, hreference, rfl⟩ := Option.map_eq_some_iff.1 hstatement
  exact ⟨hwritable.regular.name, (hwritable.regular.columns column hcolumn).name,
    hwritable.references column hcolumn reference (Option.mem_filter_iff.1 hreference).1⟩

namespace Schema

variable {schema : Schema} {names : List String}

theorem isPlain_of_mem_statements
    (hwritable : ∀ table ∈ schema.creationOrder names, table.IsWritable) {statement : Statement}
    (hmem : statement ∈ schema.statements names) : statement.IsPlain := by
  have hsteps : ∀ step ∈ schema.creationSteps names, step.1.IsWritable := by
    intro step hstep
    apply hwritable
    rw [← map_fst_creationSteps]
    exact List.mem_map_of_mem hstep
  rw [statements_eq, List.mem_append, List.mem_map, List.mem_flatMap] at hmem
  rcases hmem with ⟨step, hstep, rfl⟩ | ⟨step, hstep, hstatement⟩
  · exact isPlain_creation (hsteps step hstep) step.2
  · exact isPlain_of_mem_deferredKeys (hsteps step hstep) hstatement

/-- The script of a whole schema creates all tables. -/
theorem creationOrder_names_perm (hstored : schema.StoredByName) :
    (schema.creationOrder schema.tables.names).Perm schema.tables.values := by
  have hall : schema.tables.values.filter (fun table =>
      schema.tables.names.contains table.name) = schema.tables.values := by
    rw [List.filter_eq_self]
    intro table htable
    rw [List.contains_eq_mem, decide_eq_true_eq, names_eq_map_values hstored]
    exact List.mem_map_of_mem htable
  have hperm := schema.creationOrder_perm schema.tables.names
  rwa [hall] at hperm

/-- Enumerations have no statements. -/
theorem script_congr {later : Schema} (htables : schema.tables = later.tables)
    (hlinks : schema.links = later.links) (dialect : Dialect) :
    schema.script dialect = later.script dialect := by
  cases schema
  cases later
  cases htables
  cases hlinks
  rfl

end Schema

/-! ## Flags -/

/-- The marks tell the flags of a regular column; in a join table all columns are keys. -/
theorem Column.flags_eq_of_marks {left right : Column} (hleft : left.IsRegular)
    (hright : right.IsRegular) {join : Bool}
    (hkeys : join = true → left.primaryKey = true ∧ right.primaryKey = true)
    (hmarks : left.marks join = right.marks join) :
    left.nullable = right.nullable ∧ left.primaryKey = right.primaryKey ∧
      left.unique = right.unique ∧ left.generated = right.generated := by
  simp only [Column.marks, Marks.mk.injEq] at hmarks
  obtain ⟨hidentity, hkey, hrequired, hunique⟩ := hmarks
  have hprimary : left.primaryKey = right.primaryKey := by
    cases join with
    | true => rw [(hkeys rfl).1, (hkeys rfl).2]
    | false => simpa only [Bool.not_false, Bool.and_true] using hkey
  cases hfirst : left.primaryKey with
  | true =>
    have hsecond := hprimary.symm.trans hfirst
    obtain ⟨hleftNullable, hleftUnique⟩ := hleft.key hfirst
    obtain ⟨hrightNullable, hrightUnique⟩ := hright.key hsecond
    rw [hfirst, hsecond, Bool.true_and, Bool.true_and] at hidentity
    exact ⟨hleftNullable.trans hrightNullable.symm, hsecond.symm,
      hleftUnique.trans hrightUnique.symm, hidentity⟩
  | false =>
    have hsecond := hprimary.symm.trans hfirst
    have hungenerated : ∀ {column : Column}, column.IsRegular → column.primaryKey = false →
        column.generated = false := fun hregular hnone =>
      Bool.eq_false_iff.2 fun hgenerated => Bool.eq_false_iff.1 hnone (hregular.generated hgenerated)
    simp only [hfirst, hsecond, Bool.false_and, Bool.not_false, Bool.true_and, Bool.and_true,
      Bool.not_inj_iff] at hrequired hunique
    exact ⟨hrequired, hsecond.symm, hunique,
      (hungenerated hleft hfirst).trans (hungenerated hright hsecond).symm⟩

/-! ## References -/

theorem Table.mem_keyClauses_iff_references {tables : List Table}
    (hnames : (tables.map Table.name).Nodup) {table : Table} (htable : table ∈ tables)
    (hdistinct : table.columnNames.Nodup) {column : Column} (hcolumn : column ∈ table.columns)
    {reference : ColumnReference} :
    { table := table.name, column := column.name, reference } ∈ tables.flatMap Table.keyClauses ↔
      column.references = some reference := by
  rw [List.mem_flatMap]
  simp only [Table.mem_keyClauses_iff, KeyClause.mk.injEq]
  constructor
  · rintro ⟨other, hother, second, hsecond, found, hfound, htableName, hcolumnName, rfl⟩
    obtain rfl := List.inj_on_of_nodup_map hnames htable hother htableName
    obtain rfl := List.inj_on_of_nodup_map hdistinct hcolumn hsecond hcolumnName
    exact hfound
  · exact fun hreference => ⟨table, htable, column, hcolumn, reference, hreference, rfl, rfl, rfl⟩

theorem keyClauses_eq_of_sameText {left right : Statement} (hsame : left.SameText right) :
    left.keyClauses = right.keyClauses := by
  cases hsame with
  | addForeignKey => rfl
  | @createTable table other clauses others hname hjoin hcolumns =>
    rw [Statement.keyClauses, Statement.keyClauses]
    induction hcolumns with
    | nil => rfl
    | cons hcolumn hrest ih =>
      rw [List.filterMap_cons, List.filterMap_cons, hcolumn.column.name, hcolumn.reference,
        ih, hname]

theorem flatMap_keyClauses_eq_of_sameText {script others : List Statement}
    (hsame : List.Forall₂ Statement.SameText script others) :
    script.flatMap Statement.keyClauses = others.flatMap Statement.keyClauses := by
  induction hsame with
  | nil => rfl
  | cons hstatement hrest ih =>
    rw [List.flatMap_cons, List.flatMap_cons, keyClauses_eq_of_sameText hstatement, ih]

/-- Two tables are written alike, up to the references of their columns. -/
structure Table.SameText (left right : Table) : Prop where
  name : left.name = right.name
  isJoin : left.isJoin = right.isJoin
  columns : List.Forall₂ (Column.SameText left.isJoin right.isJoin) left.columns right.columns

theorem sameText_created {script others : List Statement}
    (hscript : ∀ table clauses, .createTable table clauses ∈ script →
      clauses.map ColumnClause.column = table.columns)
    (hothers : ∀ table clauses, .createTable table clauses ∈ others →
      clauses.map ColumnClause.column = table.columns)
    (hsame : List.Forall₂ Statement.SameText script others) :
    List.Forall₂ Table.SameText (script.filterMap Statement.created?)
      (others.filterMap Statement.created?) := by
  induction hsame with
  | nil => exact .nil
  | @cons statement other rest later hstatement hrest ih =>
    have hcreated := ih (fun table clauses hmem => hscript table clauses (List.mem_cons_of_mem _ hmem))
      fun table clauses hmem => hothers table clauses (List.mem_cons_of_mem _ hmem)
    cases hstatement with
    | addForeignKey => exact hcreated
    | createTable hname hjoin hcolumns =>
      refine .cons ⟨hname, hjoin, ?_⟩ hcreated
      rw [← hscript _ _ List.mem_cons_self, ← hothers _ _ List.mem_cons_self,
        List.forall₂_map_left_iff, List.forall₂_map_right_iff]
      exact hcolumns.imp fun _ _ hline => hline.column

/-! ## Tables -/

theorem forall₂_imp_of_mem {α β : Type} {weak strong : α → β → Prop} {items : List α}
    {others : List β}
    (himplies : ∀ item ∈ items, ∀ other ∈ others, weak item other → strong item other)
    (hweak : List.Forall₂ weak items others) : List.Forall₂ strong items others := by
  rw [List.forall₂_iff_zip] at hweak ⊢
  refine ⟨hweak.1, fun hmem => ?_⟩
  obtain ⟨hitem, hother⟩ := List.of_mem_zip hmem
  exact himplies _ hitem _ hother (hweak.2 hmem)

/-- Tables that are written alike are stored alike if the foreign keys in both lists are the same. -/
theorem sameStorage_of_sameText {tables others : List Table}
    (htables : ∀ table ∈ tables, table.IsWritable) (hothers : ∀ table ∈ others, table.IsWritable)
    (hnames : (tables.map Table.name).Nodup) (hotherNames : (others.map Table.name).Nodup)
    (hkeys : ∀ clause, clause ∈ tables.flatMap Table.keyClauses ↔
      clause ∈ others.flatMap Table.keyClauses)
    (hsame : List.Forall₂ Table.SameText tables others) :
    List.Forall₂ Table.SameStorage tables others := by
  refine forall₂_imp_of_mem (fun table htable other hother halike => ?_) hsame
  have hwritable := htables table htable
  have hotherWritable := hothers other hother
  refine ⟨halike.name, halike.isJoin, forall₂_imp_of_mem ?_ halike.columns⟩
  intro column hcolumn second hsecond hline
  have hprimary : table.isJoin = true → column.primaryKey = true ∧ second.primaryKey = true := by
    intro hjoin
    exact ⟨hwritable.regular.join hjoin column hcolumn,
      hotherWritable.regular.join (halike.isJoin ▸ hjoin) second hsecond⟩
  obtain ⟨hnullable, hkey, hunique, hgenerated⟩ := Column.flags_eq_of_marks
    (hwritable.regular.columns column hcolumn) (hotherWritable.regular.columns second hsecond)
    hprimary (halike.isJoin ▸ hline.marks)
  refine ⟨hline.name, hline.sqlType, hnullable, hkey, hunique, hgenerated, ?_⟩
  -- the line of a column shows its reference only if that need not wait for another table
  apply Option.ext
  intro reference
  rw [← Table.mem_keyClauses_iff_references hnames htable hwritable.distinct hcolumn,
    ← Table.mem_keyClauses_iff_references hotherNames hother hotherWritable.distinct hsecond,
    hkeys, halike.name, hline.name]

namespace Diagram

variable {diagram other : Diagram} {schema later : Schema}

theorem isWritable_of_mem_creationOrder (haccepted : diagram.schema = .ok schema)
    (names : List String) : ∀ table ∈ schema.creationOrder names, table.IsWritable := by
  intro table htable
  obtain ⟨name, hfind⟩ := Catalog.mem_values_iff.1 (Schema.mem_creationOrder_iff.1 htable).1
  exact isWritable_of_schema haccepted hfind

/-- The PostgreSQL script of an accepted diagram tells all that its tables store. If two diagrams
have the same script, it creates the same tables, in the same order, and these have the same
columns with the same types, flags and references. -/
theorem sameStorage_of_script_eq (haccepted : diagram.schema = .ok schema)
    (hother : other.schema = .ok later) :
    (∃ text, schema.script .postgresql = .ok text) ∧
      (schema.creationOrder schema.tables.names).Perm schema.tables.values ∧
      (schema.script .postgresql = later.script .postgresql →
        List.Forall₂ Table.SameStorage (schema.creationOrder schema.tables.names)
          (later.creationOrder later.tables.names)) := by
  have hrules := (sound_of_schema haccepted).rules
  have hotherRules := (sound_of_schema hother).rules
  refine ⟨⟨_, (hasSqlTypes_of_schema haccepted).scriptFor_eq _ _⟩,
    Schema.creationOrder_names_perm hrules.storedByName, fun hscript => ?_⟩
  have hwritable := isWritable_of_mem_creationOrder haccepted schema.tables.names
  have hotherWritable := isWritable_of_mem_creationOrder hother later.tables.names
  have hstatements := sameText_of_scriptText_eq
    (fun _ hmem => Schema.isPlain_of_mem_statements hwritable hmem)
    (fun _ hmem => Schema.isPlain_of_mem_statements hotherWritable hmem) hscript
  have hcreated := sameText_created (fun _ _ hmem => Schema.columns_of_createTable_mem hmem)
    (fun _ _ hmem => Schema.columns_of_createTable_mem hmem) hstatements
  rw [Schema.created_statements, Schema.created_statements] at hcreated
  refine sameStorage_of_sameText hwritable hotherWritable
    (Schema.nodup_names_creationOrder hrules.storedByName _)
    (Schema.nodup_names_creationOrder hotherRules.storedByName _) (fun clause => ?_) hcreated
  rw [← (Schema.keyClauses_statements schema _).mem_iff,
    ← (Schema.keyClauses_statements later _).mem_iff,
    flatMap_keyClauses_eq_of_sameText hstatements]

/-- The shop with other roles, which no table stores. -/
def shopOfClerks : Diagram :=
  { shop with
    elements := shop.elements.map fun element =>
      if element.kind = .enumKind then { element with attributes := ["CLERK"] } else element }

theorem sameStorage_shopOfClerks :
    shopOfClerks.schema = .ok shopOfClerks.draft.schema ∧
      shop.draft.schema.script .postgresql = shopOfClerks.draft.schema.script .postgresql ∧
      List.Forall₂ Table.SameStorage
        (shop.draft.schema.creationOrder shop.draft.schema.tables.names)
        (shopOfClerks.draft.schema.creationOrder shopOfClerks.draft.schema.tables.names) := by
  obtain ⟨hfaults, htables, hlinks⟩ : shopOfClerks.draft.faults = [] ∧
      shop.draft.schema.tables = shopOfClerks.draft.schema.tables ∧
      shop.draft.schema.links = shopOfClerks.draft.schema.links := by
    decide +kernel
  have hother : shopOfClerks.schema = .ok shopOfClerks.draft.schema :=
    schema_eq_ok_iff.2 ⟨hfaults, rfl⟩
  have hscript := Schema.script_congr htables hlinks .postgresql
  exact ⟨hother, hscript, (sameStorage_of_script_eq shop_schema hother).2.2 hscript⟩

end Diagram

end ClassDiagram
