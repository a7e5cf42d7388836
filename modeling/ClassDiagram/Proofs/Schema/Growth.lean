import ClassDiagram.Schema.Derivation
import ClassDiagram.Proofs.Fresh
import ClassDiagram.Proofs.Schema.KeyTypes

/-!
# Growth by relationships

A relationship adds either a foreign key to one of its tables or a join table between them. Both
only grow a schema: tables keep what they have and get further columns that are no keys. What has
been said of keys, references and links therefore stays true, and the schema goes on keeping the
rules.
-/

namespace ClassDiagram

/-! ## What is added -/

/-- The foreign key that an owner gets, under a name that the owner does not use. -/
def Table.foreignKeyTo (owner referenced : Table) (key : Column) (nullable unique : Bool) :
    Column :=
  { referenceColumn (freshName (referenceName referenced key) owner.columnNames) referenced key with
    nullable, unique }

def foreignKeyLink (id : String) (owner referenced : Table) (column : Column) : Link :=
  { id
    kind := .foreignKey
    owner := owner.name
    referenced := referenced.name
    joinTable := none
    column := some column.name }

/-- A key column of a join table, under a name that is not taken. -/
def Table.joinKeyTo (side : Table) (key : Column) (taken : List String) : Column :=
  { referenceColumn (freshName (referenceName side key) taken) side key with primaryKey := true }

/-- The join table whose key columns refer to two tables in this order. -/
def joinTableOf (name : String) (first second : Table) (firstKey secondKey : Column) : Table :=
  let firstColumn := first.joinKeyTo firstKey []
  { name
    columns := [firstColumn, second.joinKeyTo secondKey [firstColumn.name]]
    elementId := none
    parent := none
    isAbstract := false
    methods := [] }

def joinTableLink (id : String) (source target : Table) (joinTable : String) : Link :=
  { id
    kind := .joinTable
    owner := source.name
    referenced := target.name
    joinTable := some joinTable
    column := none }

theorem foreignKeyAddition_eq {referenced : Table} {key : Column}
    (hkey : referenced.primaryKey? = some key) (id : String) (owner : Table)
    (cardinality : Cardinality) (unique : Bool) :
    foreignKeyAddition id owner referenced cardinality unique =
      let column := owner.foreignKeyTo referenced key (cardinality == .zeroOrOne) unique
      .ok (.foreignKey (foreignKeyLink id owner referenced column) column) := by
  have hread : referenced.key = .ok key := by simp only [Table.key, hkey]
  simp only [foreignKeyAddition, foreignKeyColumn, hread]
  rfl

theorem joinColumn_eq {side : Table} {key : Column} (hkey : side.primaryKey? = some key)
    (taken : List String) : joinColumn side taken = .ok (side.joinKeyTo key taken) := by
  have hread : side.key = .ok key := by simp only [Table.key, hkey]
  simp only [joinColumn, hread]
  rfl

theorem joinTableName_comm (left right : String) :
    joinTableName left right = joinTableName right left := by
  rw [joinTableName, joinTableName]
  by_cases hle : left ≤ right
  · by_cases hge : right ≤ left
    · rw [String.le_antisymm hle hge]
    · rw [if_pos hle, if_neg hge]
  · rw [if_neg hle, if_pos ((String.le_total left right).resolve_left hle)]

/-- The join table refers to the table with the smaller name first. -/
theorem joinTableAddition_cases {source target : Table} {sourceKey targetKey : Column}
    (hsource : source.primaryKey? = some sourceKey)
    (htarget : target.primaryKey? = some targetKey) (id : String) :
    ∃ first second firstKey secondKey,
      ((first, firstKey) = (source, sourceKey) ∧ (second, secondKey) = (target, targetKey) ∨
        (first, firstKey) = (target, targetKey) ∧ (second, secondKey) = (source, sourceKey)) ∧
      ∀ taken, joinTableAddition id source target taken =
        let name := freshName (joinTableName source.name target.name) taken
        .ok (.joinTable (joinTableLink id source target name)
          (joinTableOf name first second firstKey secondKey)) := by
  by_cases hle : source.name ≤ target.name
  · refine ⟨source, target, sourceKey, targetKey, .inl ⟨rfl, rfl⟩, fun taken => ?_⟩
    simp only [joinTableAddition, joinTableBetween, hle, if_true, joinColumn_eq hsource,
      joinColumn_eq htarget, bind, Except.bind]
    rfl
  · refine ⟨target, source, targetKey, sourceKey, .inr ⟨rfl, rfl⟩, fun taken => ?_⟩
    simp only [joinTableAddition, joinTableBetween, hle, if_false, joinColumn_eq hsource,
      joinColumn_eq htarget, bind, Except.bind]
    rfl

/-- All that a relationship with readable cardinalities can add between two tables with keys. -/
theorem Relationship.addition_cases {relationship : Relationship} {source target : Table}
    {sourceKey targetKey : Column} (hsource : source.primaryKey? = some sourceKey)
    (htarget : target.primaryKey? = some targetKey) {sourceEnd targetEnd : Cardinality}
    (hends : relationship.cardinalities = .ok (sourceEnd, targetEnd)) :
    (targetEnd.isSingle = true ∧ ∀ taken, relationship.addition source target taken =
      let column := source.foreignKeyTo target targetKey (targetEnd == .zeroOrOne)
        sourceEnd.isSingle
      .ok (.foreignKey (foreignKeyLink relationship.id source target column) column)) ∨
    (targetEnd.isSingle = false ∧ sourceEnd.isSingle = true ∧
      ∀ taken, relationship.addition source target taken =
        let column := target.foreignKeyTo source sourceKey (sourceEnd == .zeroOrOne) false
        .ok (.foreignKey (foreignKeyLink relationship.id target source column) column)) ∨
    (targetEnd.isSingle = false ∧ sourceEnd.isSingle = false ∧
      ∀ taken, relationship.addition source target taken =
        joinTableAddition relationship.id source target taken) := by
  cases htargetEnd : targetEnd.isSingle with
  | true =>
    left
    refine ⟨rfl, fun taken => ?_⟩
    cases hsourceEnd : sourceEnd.isSingle <;>
      simp only [Relationship.addition, hends, bind, Except.bind, htargetEnd, hsourceEnd,
        foreignKeyAddition_eq htarget]
  | false =>
    right
    cases hsourceEnd : sourceEnd.isSingle with
    | true =>
      left
      refine ⟨rfl, rfl, fun taken => ?_⟩
      simp only [Relationship.addition, hends, bind, Except.bind, htargetEnd, hsourceEnd,
        foreignKeyAddition_eq hsource]
    | false =>
      right
      refine ⟨rfl, rfl, fun taken => ?_⟩
      simp only [Relationship.addition, hends, bind, Except.bind, htargetEnd, hsourceEnd]

/-- Further columns stand behind the key. -/
theorem Table.primaryKey?_append {table : Table} {key : Column}
    (hkey : table.primaryKey? = some key) (added : List Column) :
    ({ table with columns := table.columns ++ added } : Table).primaryKey? = some key := by
  rw [primaryKey?] at hkey ⊢
  rw [List.find?_append, hkey, Option.some_or]

/-- A column with a new name is found under it. -/
theorem Table.column?_append_self (table : Table) {column : Column}
    (hnew : column.name ∉ table.columnNames) :
    ({ table with columns := table.columns ++ [column] } : Table).column? column.name =
      some column := by
  have hnone : table.columns.find? (fun other => other.name == column.name) = none := by
    rw [List.find?_eq_none]
    intro other hmem heq
    rw [beq_iff_eq] at heq
    exact hnew (heq ▸ List.mem_map_of_mem hmem)
  rw [column?, List.find?_append, hnone]
  simp

namespace Schema

variable {schema before after : Schema}

/-! ## Growth -/

/-- Every table is kept, at most with further columns that are no keys, and every new table is a
join table. -/
structure GrowsTo (before after : Schema) : Prop where
  kept : ∀ name table, before.table? name = some table → ∃ added,
    after.table? name = some { table with columns := table.columns ++ added } ∧
      ∀ column ∈ added, column.primaryKey = false
  joins : ∀ name table, after.table? name = some table → name ∉ before.tables.names →
    table.isJoin = true ∧ table.parent = none

theorem GrowsTo.refl (schema : Schema) : schema.GrowsTo schema where
  kept := fun _ _ hfind => ⟨[], by simp [hfind], by simp⟩
  joins := fun _ _ hfind hnew => absurd (Catalog.mem_names_of_find? hfind) hnew

theorem GrowsTo.mem_names (hgrows : before.GrowsTo after) {name : String}
    (hname : name ∈ before.tables.names) : name ∈ after.tables.names := by
  obtain ⟨table, hfind⟩ := Catalog.mem_names_iff.1 hname
  obtain ⟨added, hafter, -⟩ := hgrows.kept name table hfind
  exact Catalog.mem_names_of_find? hafter

theorem GrowsTo.trans {between : Schema} (hfirst : before.GrowsTo between)
    (hsecond : between.GrowsTo after) : before.GrowsTo after := by
  refine ⟨fun name table hfind => ?_, fun name table hfind hnew => ?_⟩
  · obtain ⟨added, hbetween, hplain⟩ := hfirst.kept name table hfind
    obtain ⟨further, hafter, hplain'⟩ := hsecond.kept name _ hbetween
    refine ⟨added ++ further, by simpa using hafter, fun column hmem => ?_⟩
    rcases List.mem_append.1 hmem with hadded | hfurther
    · exact hplain column hadded
    · exact hplain' column hfurther
  · by_cases hknown : name ∈ between.tables.names
    · obtain ⟨known, hbetween⟩ := Catalog.mem_names_iff.1 hknown
      obtain ⟨added, hafter, -⟩ := hsecond.kept name known hbetween
      obtain rfl := Option.some.inj (hafter.symm.trans hfind)
      exact hfirst.joins name known hbetween hnew
    · exact hsecond.joins name table hfind hknown

/-- The table under this name is that of an element. -/
def HasElementTable (schema : Schema) (name : String) : Prop :=
  ∃ table, schema.table? name = some table ∧ table.isJoin = false

theorem GrowsTo.hasElementTable (hgrows : before.GrowsTo after) {name : String}
    (helement : before.HasElementTable name) : after.HasElementTable name := by
  obtain ⟨table, hfind, helement⟩ := helement
  obtain ⟨added, hafter, -⟩ := hgrows.kept name table hfind
  exact ⟨_, hafter, helement⟩

theorem GrowsTo.matchesKey (hgrows : before.GrowsTo after) {column : Column}
    {reference : ColumnReference} (hmatches : before.MatchesKey column reference) :
    after.MatchesKey column reference := by
  obtain ⟨target, key, hfind, helement, hkey, hname, htypes⟩ := hmatches
  obtain ⟨added, hafter, -⟩ := hgrows.kept _ target hfind
  exact ⟨_, key, hafter, helement, Table.primaryKey?_append hkey added, hname, htypes⟩

theorem GrowsTo.linkKeepsRules (hgrows : before.GrowsTo after) {link : Link}
    (hlink : before.LinkKeepsRules link) : after.LinkKeepsRules link := by
  refine ⟨hgrows.mem_names hlink.owner, hgrows.mem_names hlink.referenced, ?_⟩
  have hkept := hlink.kept
  cases hkind : link.kind with
  | foreignKey =>
    simp only [hkind] at hkept ⊢
    obtain ⟨name, owner, column, reference, hname, howner, hcolumn, hreference, htable⟩ := hkept
    obtain ⟨added, hafter, -⟩ := hgrows.kept _ owner howner
    refine ⟨name, _, column, reference, hname, hafter, ?_, hreference, htable⟩
    rw [Table.column?] at hcolumn ⊢
    rw [List.find?_append, hcolumn, Option.some_or]
  | joinTable =>
    simp only [hkind] at hkept ⊢
    obtain ⟨name, table, hname, htable, hjoin⟩ := hkept
    obtain ⟨added, hafter, -⟩ := hgrows.kept _ table htable
    exact ⟨name, _, hname, hafter, hjoin⟩

/-! ## Sound schemas -/

/-- The references of a table are of the right types. -/
def TableKeysAgree (schema : Schema) (table : Table) : Prop :=
  ∀ column ∈ table.columns, ∀ reference, column.references = some reference →
    schema.MatchesKey column reference

/-- A schema that keeps the rules and whose references are of the right types. -/
structure Sound (schema : Schema) : Prop where
  rules : schema.KeepsRules
  types : schema.KeysAgree

theorem Sound.table_name (hsound : schema.Sound) {name : String} {table : Table}
    (hfind : schema.table? name = some table) : table.name = name :=
  (hsound.rules.tables name table hfind).stored

theorem Sound.exists_primaryKey (hsound : schema.Sound) {name : String} {table : Table}
    (hfind : schema.table? name = some table) : ∃ key, table.primaryKey? = some key :=
  (hsound.rules.tables name table hfind).key.exists_primaryKey

theorem GrowsTo.tableKeysAgree (hgrows : before.GrowsTo after) {table : Table}
    (htypes : before.TableKeysAgree table) : after.TableKeysAgree table :=
  fun column hmem reference hreference =>
    hgrows.matchesKey (htypes column hmem reference hreference)

theorem GrowsTo.tableKeepsRules (hgrows : before.GrowsTo after) {name : String} {table : Table}
    (hrules : before.TableKeepsRules name table) (htypes : before.TableKeysAgree table) :
    after.TableKeepsRules name table where
  stored := hrules.stored
  distinct := hrules.distinct
  references := fun column hmem reference hreference =>
    (hgrows.matchesKey (htypes column hmem reference hreference)).resolves
  key := hrules.key
  parent := fun parent hparent => hgrows.mem_names (hrules.parent parent hparent)

/-- A sound schema stays sound if it grows, and what is new in it keeps the rules. -/
theorem Sound.of_growsTo (hsound : before.Sound) (hgrows : before.GrowsTo after)
    (htables : ∀ name table, after.table? name = some table →
      before.table? name = some table ∨
        after.TableKeepsRules name table ∧ after.TableKeysAgree table)
    (hlinks : ∀ link ∈ after.links, link ∈ before.links ∨ after.LinkKeepsRules link) :
    after.Sound := by
  refine ⟨⟨fun name table hfind => ?_, fun link hlink => ?_⟩, fun name table hfind => ?_⟩
  · rcases htables name table hfind with hold | ⟨hrules, -⟩
    · exact hgrows.tableKeepsRules (hsound.rules.tables name table hold)
        (hsound.types name table hold)
    · exact hrules
  · rcases hlinks link hlink with hold | hnew
    · exact hgrows.linkKeepsRules (hsound.rules.links link hold)
    · exact hnew
  · rcases htables name table hfind with hold | ⟨-, htypes⟩
    · exact hgrows.tableKeysAgree (hsound.types name table hold)
    · exact htypes

/-! ## Adding a foreign key -/

theorem table?_add_foreignKey (schema : Schema) (link : Link) (column : Column) (name : String) :
    (schema.add (.foreignKey link column)).table? name =
      if name = link.owner then
        (schema.table? name).map fun owner => { owner with columns := owner.columns ++ [column] }
      else schema.table? name :=
  Catalog.find?_modify schema.tables link.owner name _

theorem names_add_foreignKey (schema : Schema) (link : Link) (column : Column) :
    (schema.add (.foreignKey link column)).tables.names = schema.tables.names :=
  Catalog.names_modify schema.tables link.owner _

theorem growsTo_add_foreignKey (link : Link) {column : Column}
    (hplain : column.primaryKey = false) :
    schema.GrowsTo (schema.add (.foreignKey link column)) := by
  refine ⟨fun name table hfind => ?_, fun name table hfind hnew => ?_⟩
  · by_cases hname : name = link.owner
    · refine ⟨[column], by rw [table?_add_foreignKey, if_pos hname, hfind, Option.map_some], ?_⟩
      intro added hmem
      rw [List.mem_singleton.1 hmem, hplain]
    · exact ⟨[], by rw [table?_add_foreignKey, if_neg hname, hfind, List.append_nil], by simp⟩
  · have hknown := Catalog.mem_names_of_find? hfind
    rw [names_add_foreignKey] at hknown
    exact absurd hknown hnew

/-- A table keeps the rules with one more column that has a new name and is a proper reference. -/
theorem TableKeepsRules.append {name : String} {table : Table}
    (hrules : schema.TableKeepsRules name table) {column : Column}
    (hnew : column.name ∉ table.columnNames) (hplain : column.primaryKey = false)
    (hreferences : ∀ reference, column.references = some reference → schema.Resolves reference) :
    schema.TableKeepsRules name { table with columns := table.columns ++ [column] } where
  stored := hrules.stored
  distinct := by
    have hnames : ({ table with columns := table.columns ++ [column] } : Table).columnNames =
        table.columnNames ++ [column.name] := by simp [Table.columnNames]
    rw [hnames, ← List.concat_eq_append]
    exact hrules.distinct.concat hnew
  references := by
    intro other hmem
    rcases List.mem_append.1 hmem with hold | hlast
    · exact hrules.references other hold
    · exact List.mem_singleton.1 hlast ▸ hreferences
  key := by
    have hkeys : ({ table with columns := table.columns ++ [column] } : Table).keyColumns =
        table.keyColumns := by simp [Table.keyColumns, hplain]
    have hjoin : ({ table with columns := table.columns ++ [column] } : Table).isJoin =
        table.isJoin := rfl
    rw [Table.HasProperKey, hkeys, hjoin]
    exact hrules.key
  parent := hrules.parent

/-- A column that has been made for the key of a table matches it. -/
theorem matchesKey_referenceColumn (column : Column) {referenced : Table} {key : Column}
    (hfind : schema.table? referenced.name = some referenced)
    (helement : referenced.isJoin = false) (hkey : referenced.primaryKey? = some key)
    (hreferences : column.references = some { table := referenced.name, column := key.name })
    (htypes : column.HasTypeOf key) {reference : ColumnReference}
    (hreference : column.references = some reference) : schema.MatchesKey column reference := by
  cases hreferences.symm.trans hreference
  exact ⟨referenced, key, hfind, helement, hkey, rfl, htypes⟩

theorem Sound.add_foreignKey (hsound : schema.Sound) {owner referenced : Table} {key : Column}
    (howner : schema.table? owner.name = some owner)
    (hreferenced : schema.table? referenced.name = some referenced)
    (helement : referenced.isJoin = false) (hkey : referenced.primaryKey? = some key)
    (id : String) (nullable unique : Bool) :
    let column := owner.foreignKeyTo referenced key nullable unique
    (schema.add (.foreignKey (foreignKeyLink id owner referenced column) column)).Sound := by
  intro column
  generalize hlink : foreignKeyLink id owner referenced column = link
  have hlinkOwner : link.owner = owner.name := hlink ▸ rfl
  have hgrows : schema.GrowsTo (schema.add (.foreignKey link column)) :=
    growsTo_add_foreignKey link rfl
  have hnew : column.name ∉ owner.columnNames := freshName_not_mem _ _
  have hafter : (schema.add (.foreignKey link column)).table? owner.name =
      some { owner with columns := owner.columns ++ [column] } := by
    rw [table?_add_foreignKey, if_pos hlinkOwner.symm, howner, Option.map_some]
  have hmatches : ∀ reference, column.references = some reference →
      (schema.add (.foreignKey link column)).MatchesKey column reference :=
    fun reference hreference => hgrows.matchesKey
      (matchesKey_referenceColumn column hreferenced helement hkey rfl ⟨rfl, rfl⟩ hreference)
  refine hsound.of_growsTo hgrows (fun name table hfind => ?_) (fun other hother => ?_)
  · by_cases hname : name = owner.name
    · subst hname
      right
      obtain rfl := Option.some.inj (hafter.symm.trans hfind)
      refine ⟨(hgrows.tableKeepsRules (hsound.rules.tables _ owner howner)
        (hsound.types _ owner howner)).append hnew rfl
          fun reference hreference => (hmatches reference hreference).resolves, ?_⟩
      intro other hmem
      rcases List.mem_append.1 hmem with hold | hlast
      · exact hgrows.tableKeysAgree (hsound.types _ owner howner) other hold
      · exact List.mem_singleton.1 hlast ▸ hmatches
    · left
      rwa [table?_add_foreignKey, hlinkOwner, if_neg hname] at hfind
  · refine (List.mem_append.1 hother).imp_right fun hlast => ?_
    rw [List.mem_singleton.1 hlast, ← hlink]
    rw [← hlink] at hgrows hafter
    refine ⟨Catalog.mem_names_of_find? hafter,
      hgrows.mem_names (Catalog.mem_names_of_find? hreferenced),
      column.name, _, column, _, rfl, hafter, ?_, rfl, rfl⟩
    exact owner.column?_append_self hnew

/-! ## Adding a join table -/

theorem table?_add_joinTable (schema : Schema) (link : Link) (table : Table) (name : String) :
    (schema.add (.joinTable link table)).table? name =
      if name = table.name then some table else schema.table? name :=
  Catalog.find?_insert schema.tables table.name name table

theorem table?_add_joinTable_of_mem (link : Link) {table : Table}
    (hnew : table.name ∉ schema.tables.names) {name : String}
    (hname : name ∈ schema.tables.names) :
    (schema.add (.joinTable link table)).table? name = schema.table? name := by
  have hne : name ≠ table.name := fun heq => hnew (heq ▸ hname)
  rw [table?_add_joinTable, if_neg hne]

theorem growsTo_add_joinTable (link : Link) {table : Table} (hjoin : table.isJoin = true)
    (hparent : table.parent = none) (hnew : table.name ∉ schema.tables.names) :
    schema.GrowsTo (schema.add (.joinTable link table)) := by
  refine ⟨fun name other hfind => ⟨[], ?_, by simp⟩, fun name other hfind hfree => ?_⟩
  · rw [table?_add_joinTable_of_mem link hnew (Catalog.mem_names_of_find? hfind), hfind,
      List.append_nil]
  · rw [table?_add_joinTable] at hfind
    split at hfind
    · cases hfind
      exact ⟨hjoin, hparent⟩
    · exact absurd (Catalog.mem_names_of_find? hfind) hfree

/-- A join table has two keys with different names, and both are references. -/
theorem joinTableOf_keepsRules {name : String} {first second : Table}
    {firstKey secondKey : Column}
    (htypes : schema.TableKeysAgree (joinTableOf name first second firstKey secondKey)) :
    schema.TableKeepsRules name (joinTableOf name first second firstKey secondKey) where
  stored := rfl
  distinct := by
    have hne : (second.joinKeyTo secondKey [(first.joinKeyTo firstKey []).name]).name ∉
        [(first.joinKeyTo firstKey []).name] := freshName_not_mem _ _
    rw [List.mem_singleton] at hne
    simpa [joinTableOf, Table.columnNames] using Ne.symm hne
  references := fun column hmem reference hreference =>
    (htypes column hmem reference hreference).resolves
  key := by
    simp [Table.HasProperKey, joinTableOf, Table.isJoin, Table.keyColumns, Table.joinKeyTo,
      Column.isForeignKey, referenceColumn]
  parent := by
    intro parent hparent
    cases hparent

theorem Sound.add_joinTable (hsound : schema.Sound) {first second : Table}
    {firstKey secondKey : Column} (hfirst : schema.table? first.name = some first)
    (hsecond : schema.table? second.name = some second)
    (hfirstElement : first.isJoin = false) (hsecondElement : second.isJoin = false)
    (hfirstKey : first.primaryKey? = some firstKey)
    (hsecondKey : second.primaryKey? = some secondKey) {name : String}
    (hnew : name ∉ schema.tables.names) (id : String) {source target : Table}
    (hsource : source.name ∈ schema.tables.names) (htarget : target.name ∈ schema.tables.names) :
    (schema.add (.joinTable (joinTableLink id source target name)
      (joinTableOf name first second firstKey secondKey))).Sound := by
  generalize hlink : joinTableLink id source target name = link
  generalize hjoin : joinTableOf name first second firstKey secondKey = join
  have hname : join.name = name := hjoin ▸ rfl
  have hgrows : schema.GrowsTo (schema.add (.joinTable link join)) :=
    growsTo_add_joinTable link (hjoin ▸ rfl) (hjoin ▸ rfl) (hname ▸ hnew)
  have hafter : (schema.add (.joinTable link join)).table? name = some join := by
    rw [table?_add_joinTable, if_pos hname.symm]
  have htypes : (schema.add (.joinTable link join)).TableKeysAgree join := by
    intro column hmem reference hreference
    rw [← hjoin] at hmem
    apply hgrows.matchesKey
    rcases List.mem_cons.1 hmem with hhead | hrest
    · subst hhead
      exact matchesKey_referenceColumn (first.joinKeyTo firstKey _) hfirst hfirstElement
        hfirstKey rfl ⟨rfl, rfl⟩ hreference
    · cases List.mem_singleton.1 hrest
      exact matchesKey_referenceColumn (second.joinKeyTo secondKey _) hsecond hsecondElement
        hsecondKey rfl ⟨rfl, rfl⟩ hreference
  have hrules : (schema.add (.joinTable link join)).TableKeepsRules name join := by
    rw [← hjoin] at htypes ⊢
    exact joinTableOf_keepsRules htypes
  refine hsound.of_growsTo hgrows (fun other table hfind => ?_) (fun other hother => ?_)
  · by_cases hother : other = name
    · subst hother
      right
      obtain rfl := Option.some.inj (hafter.symm.trans hfind)
      exact ⟨hrules, htypes⟩
    · left
      rwa [table?_add_joinTable, hname, if_neg hother] at hfind
  · refine (List.mem_append.1 hother).imp_right fun hlast => ?_
    rw [List.mem_singleton.1 hlast, ← hlink]
    rw [← hlink] at hgrows hafter
    exact ⟨hgrows.mem_names hsource, hgrows.mem_names htarget, name, join, rfl, hafter,
      hjoin ▸ rfl⟩

end Schema

end ClassDiagram
