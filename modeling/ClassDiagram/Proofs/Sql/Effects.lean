import ClassDiagram.Proofs.Sql.Identifiers

/-!
# Effects of a script

What a script does is read off the words in front of its names, whatever statements it was written
for. A script creates every listed table once with all its columns, in an order that is told from
the schema alone, and each reference of a column stands in one REFERENCES clause. A clause inside a
table names one that is there by then; the other clauses follow when all tables are there.
-/

namespace ClassDiagram

open Text

/-! ## Reading a script -/

/-- What a script does, one thing after the other. -/
inductive Effect where
  | create (table : String)
  | column (table name : String)
  /-- A foreign key that is stated with its column. -/
  | inlineKey (clause : KeyClause)
  /-- A foreign key that is added to a table that is there. -/
  | addedKey (clause : KeyClause)
  deriving DecidableEq, Repr

namespace Effect

def table? : Effect → Option String
  | create table => some table
  | _ => none

def column? : Effect → Option (String × String)
  | column table name => some (table, name)
  | _ => none

def key? : Effect → Option KeyClause
  | inlineKey clause | addedKey clause => some clause
  | _ => none

variable {effects : List Effect}

theorem mem_filterMap_table?_iff {name : String} :
    name ∈ effects.filterMap table? ↔ create name ∈ effects := by
  rw [List.mem_filterMap]
  constructor
  · rintro ⟨effect, hmem, hname⟩
    cases effect with
    | create => exact Option.some.inj hname ▸ hmem
    | _ => cases hname
  · exact fun hmem => ⟨_, hmem, rfl⟩

theorem mem_filterMap_column?_iff {table name : String} :
    (table, name) ∈ effects.filterMap column? ↔ column table name ∈ effects := by
  rw [List.mem_filterMap]
  constructor
  · rintro ⟨effect, hmem, hname⟩
    cases effect with
    | column =>
      cases hname
      exact hmem
    | _ => cases hname
  · exact fun hmem => ⟨_, hmem, rfl⟩

end Effect

/-- The effects of a script from a place inside the given column of the given table. -/
def effectsFrom (table column : String) : List (TextPiece String) → List Effect
  | .fixed "CREATE TABLE " :: .name created :: rest =>
    .create created :: effectsFrom created "" rest
  | .fixed "    " :: .name own :: rest => .column table own :: effectsFrom table own rest
  | .fixed "REFERENCES " :: .name target :: .fixed " (" :: .name key :: .fixed ")" :: rest =>
    .inlineKey { table, column, reference := { table := target, column := key } } ::
      effectsFrom table column rest
  | .fixed "ALTER TABLE " :: .name altered :: .fixed " ADD FOREIGN KEY (" :: .name own ::
      .fixed ") " :: .fixed "REFERENCES " :: .name target :: .fixed " (" :: .name key ::
      .fixed ")" :: rest =>
    .addedKey
        { table := altered, column := own, reference := { table := target, column := key } } ::
      effectsFrom table column rest
  | _ :: rest => effectsFrom table column rest
  | [] => []

/-- The effects of a script, read from its beginning. -/
def effectsIn (pieces : List (TextPiece String)) : List Effect :=
  effectsFrom "" "" pieces

section Reading

variable (table column : String) (rest : List (TextPiece String))

@[simp]
theorem effectsFrom_create (created : String) :
    effectsFrom table column (.fixed "CREATE TABLE " :: .name created :: rest) =
      .create created :: effectsFrom created "" rest := by
  rw [effectsFrom]

@[simp]
theorem effectsFrom_column (own : String) :
    effectsFrom table column (.fixed "    " :: .name own :: rest) =
      .column table own :: effectsFrom table own rest := by
  rw [effectsFrom]

theorem effectsFrom_reference (reference : ColumnReference) :
    effectsFrom table column (reference.pieces ++ rest) =
      .inlineKey { table, column, reference } :: effectsFrom table column rest := by
  rw [ColumnReference.pieces]
  simp only [List.cons_append, List.nil_append]
  rw [effectsFrom]

@[simp]
theorem effectsFrom_name (name : String) :
    effectsFrom table column (.name name :: rest) = effectsFrom table column rest := by
  rw [effectsFrom] <;> nofun

/-- Words in front of other words say nothing. -/
@[simp]
theorem effectsFrom_fixed_fixed (words others : String) :
    effectsFrom table column (.fixed words :: .fixed others :: rest) =
      effectsFrom table column (.fixed others :: rest) := by
  rw [effectsFrom] <;> nofun

/-- Only four words say something about the name behind them. -/
theorem effectsFrom_fixed {words : String}
    (hwords : words ∉ ["CREATE TABLE ", "    ", "REFERENCES ", "ALTER TABLE "]) :
    effectsFrom table column (.fixed words :: rest) = effectsFrom table column rest := by
  simp only [List.mem_cons, List.not_mem_nil, or_false, not_or] at hwords
  rw [effectsFrom] <;> simp_all

end Reading

/-- Separators say nothing. -/
theorem effectsFrom_intercalate {words : String}
    (hwords : words ∉ ["CREATE TABLE ", "    ", "REFERENCES ", "ALTER TABLE "])
    (table column : String) (parts : List (List (TextPiece String)))
    (rest : List (TextPiece String)) :
    effectsFrom table column ([.fixed words].intercalate parts ++ rest) =
      effectsFrom table column (parts.flatMap (fun part => .fixed words :: part) ++ rest) := by
  by_cases hparts : parts = []
  · rw [hparts]
    rfl
  · have hseparated := append_intercalate [TextPiece.fixed words] hparts
    simp only [List.cons_append, List.nil_append] at hseparated
    rw [← hseparated, List.cons_append, effectsFrom_fixed _ _ _ hwords]

/-! ## Effects of statements -/

def ColumnClause.effects (table : String) (clause : ColumnClause) : List Effect :=
  .column table clause.column.name :: (clause.inlineReference.map fun reference =>
    .inlineKey { table, column := clause.column.name, reference }).toList

def Statement.effects : Statement → List Effect
  | .createTable table clauses =>
    .create table.name :: clauses.flatMap (ColumnClause.effects table.name)
  | .addForeignKey table column reference => [.addedKey { table, column, reference }]

/-- Behind the line of a column comes a comma or the end of the table. -/
theorem effectsFrom_columnPieces (dialect : Dialect) (composite : Bool) (columns : Nat)
    (table column : String) (clause : ColumnClause) {rest : List (TextPiece String)}
    (hrest : ∃ words others, rest = .fixed words :: others) :
    effectsFrom table column (clause.pieces dialect composite columns ++ rest) =
      clause.effects table ++ effectsFrom table clause.column.name rest := by
  obtain ⟨words, others, rfl⟩ := hrest
  unfold ColumnClause.pieces ColumnClause.effects
  cases clause.inlineReference with
  | none => simp
  | some reference =>
    have hreference := effectsFrom_reference table clause.column.name (.fixed words :: others)
      reference
    rw [ColumnReference.pieces] at hreference
    simp only [List.cons_append, List.nil_append] at hreference
    simp [ColumnReference.pieces, hreference]

theorem effectsFrom_columns (dialect : Dialect) (composite : Bool) (columns : Nat)
    (table column : String) (clauses : List ColumnClause) {rest : List (TextPiece String)}
    (hrest : ∃ words others, rest = .fixed words :: others) :
    ∃ last, effectsFrom table column ((clauses.map (ColumnClause.pieces dialect composite
        columns)).flatMap (fun line => .fixed ",\n" :: line) ++ rest) =
      clauses.flatMap (ColumnClause.effects table) ++ effectsFrom table last rest := by
  induction clauses generalizing column with
  | nil => exact ⟨column, rfl⟩
  | cons clause others ih =>
    obtain ⟨last, hothers⟩ := ih clause.column.name
    refine ⟨last, ?_⟩
    rw [List.map_cons, List.flatMap_cons, List.cons_append, List.cons_append, List.append_assoc,
      effectsFrom_fixed _ _ _ (by decide), effectsFrom_columnPieces, hothers, List.flatMap_cons,
      List.append_assoc]
    cases others with
    | nil => exact hrest
    | cons => exact ⟨_, _, rfl⟩

/-- The line of a composite key names columns that are there. -/
theorem effectsFrom_compositeKeyPieces (table column : String) (keyed : Table)
    (rest : List (TextPiece String)) :
    effectsFrom table column (compositeKeyPieces keyed ++ rest) =
      effectsFrom table column rest := by
  have hnames : ∀ (keys : List Column) (rest : List (TextPiece String)),
      effectsFrom table column ((keys.map fun key => [.name key.name]).flatMap
        (fun part => .fixed ", " :: part) ++ rest) = effectsFrom table column rest := by
    intro keys rest
    induction keys with
    | nil => rfl
    | cons key others ih => simpa [effectsFrom_fixed] using ih
  rw [compositeKeyPieces, List.append_assoc, List.append_assoc, List.singleton_append,
    effectsFrom_fixed _ _ _ (by decide), effectsFrom_intercalate (by decide), hnames,
    List.singleton_append, effectsFrom_fixed _ _ _ (by decide)]

/-- Behind the columns of a table nothing is said that is new. -/
theorem effectsFrom_keyLines (table column : String) (created : Table)
    (rest : List (TextPiece String)) :
    effectsFrom table column ((if created.isJoin then [compositeKeyPieces created] else []).flatMap
        (fun line => .fixed ",\n" :: line) ++ .fixed "\n);" :: rest) =
      effectsFrom table column rest := by
  have hend : effectsFrom table column (.fixed "\n);" :: rest) = effectsFrom table column rest :=
    effectsFrom_fixed _ _ _ (by decide)
  split
  · rw [List.flatMap_singleton, List.cons_append, effectsFrom_fixed _ _ _ (by decide),
      effectsFrom_compositeKeyPieces, hend]
  · exact hend

/-- A statement says the same wherever it stands. -/
theorem effectsFrom_pieces (dialect : Dialect) (statement : Statement) (table column : String)
    (rest : List (TextPiece String)) :
    ∃ last own, effectsFrom table column (statement.pieces dialect ++ rest) =
      statement.effects ++ effectsFrom last own rest := by
  cases statement with
  | createTable created clauses =>
    have hbehind : ∃ words others,
        (if created.isJoin then [compositeKeyPieces created] else []).flatMap
          (fun line => .fixed ",\n" :: line) ++ .fixed "\n);" :: rest = .fixed words :: others := by
      split <;> exact ⟨_, _, rfl⟩
    obtain ⟨last, hcolumns⟩ := effectsFrom_columns dialect created.isJoin
      (nameWidth dialect clauses) created.name "" clauses hbehind
    rw [effectsFrom_keyLines] at hcolumns
    refine ⟨created.name, last, ?_⟩
    simp only [Statement.pieces, List.append_assoc, List.cons_append, List.nil_append]
    rw [effectsFrom_create, effectsFrom_fixed _ _ _ (by decide),
      effectsFrom_intercalate (by decide), List.flatMap_append, List.append_assoc, hcolumns]
    rfl
  | addForeignKey altered own reference =>
    refine ⟨table, column, ?_⟩
    simp only [Statement.pieces, ColumnReference.pieces, List.cons_append, List.nil_append]
    rw [effectsFrom, effectsFrom_fixed _ _ _ (by decide)]
    rfl

theorem effectsIn_scriptPieces (dialect : Dialect) (script : List Statement) :
    effectsIn (scriptPieces dialect script) = script.flatMap Statement.effects := by
  have hscript : ∀ (table column : String) (rest : List (TextPiece String)),
      ∃ last own, effectsFrom table column ((script.map (Statement.pieces dialect)).flatMap
          (fun part => .fixed "\n\n" :: part) ++ rest) =
        script.flatMap Statement.effects ++ effectsFrom last own rest := by
    induction script with
    | nil => exact fun table column rest => ⟨table, column, rfl⟩
    | cons statement others ih =>
      intro table column rest
      obtain ⟨last, own, hstatement⟩ := effectsFrom_pieces dialect statement table column
        ((others.map (Statement.pieces dialect)).flatMap
          (fun part => .fixed "\n\n" :: part) ++ rest)
      obtain ⟨final, column', hothers⟩ := ih last own rest
      refine ⟨final, column', ?_⟩
      rw [List.map_cons, List.flatMap_cons, List.cons_append, List.cons_append, List.append_assoc,
        effectsFrom_fixed _ _ _ (by decide), hstatement, hothers, List.flatMap_cons,
        List.append_assoc]
  obtain ⟨last, own, hpieces⟩ := hscript "" "" [.fixed "\n"]
  rw [effectsIn, scriptPieces]
  split
  · rename_i hnone
    rw [hnone]
    rfl
  · rw [effectsFrom_intercalate (by decide), hpieces, effectsFrom_fixed _ _ _ (by decide),
      effectsFrom, List.append_nil]

/-- An item of what is put together from several sources comes from one of them. -/
theorem exists_source_of_flatMap {α β : Type} {parts : α → List β} {sources : List α}
    {before after : List β} {item : β} (hall : sources.flatMap parts = before ++ item :: after) :
    ∃ earlier source later front back, sources = earlier ++ source :: later ∧
      parts source = front ++ item :: back ∧ before = earlier.flatMap parts ++ front ∧
      after = back ++ later.flatMap parts := by
  induction sources generalizing before with
  | nil => simp at hall
  | cons first rest ih =>
    have hrest : ∀ more, before = parts first ++ more →
        rest.flatMap parts = more ++ item :: after →
        ∃ earlier source later front back, first :: rest = earlier ++ source :: later ∧
          parts source = front ++ item :: back ∧ before = earlier.flatMap parts ++ front ∧
          after = back ++ later.flatMap parts := by
      intro more hbefore hmore
      obtain ⟨earlier, source, later, front, back, rfl, hsource, rfl, hafter⟩ := ih hmore
      refine ⟨first :: earlier, source, later, front, back, rfl, hsource, ?_, hafter⟩
      rw [hbefore, List.flatMap_cons, List.append_assoc]
    rw [List.flatMap_cons, List.append_eq_append_iff] at hall
    rcases hall with ⟨more, hbefore, hmore⟩ | ⟨more, hfirst, hafter⟩
    · exact hrest more hbefore hmore
    · cases more with
      | nil => exact hrest [] (by simpa using hfirst.symm) hafter.symm
      | cons other back =>
        obtain ⟨rfl, rfl⟩ := List.cons.inj hafter
        exact ⟨[], first, rest, before, back, rfl, hfirst, rfl, rfl⟩

namespace Statement

variable (statement : Statement) (script : List Statement)

theorem filterMap_table?_effects : statement.effects.filterMap Effect.table? =
    statement.created?.toList.map Table.name := by
  cases statement with
  | addForeignKey => rfl
  | createTable table clauses =>
    have hcolumns :
        (clauses.flatMap (ColumnClause.effects table.name)).filterMap Effect.table? = [] := by
      rw [List.filterMap_flatMap, List.flatMap_eq_nil_iff]
      intro clause _
      unfold ColumnClause.effects
      cases clause.inlineReference <;> rfl
    exact congrArg (table.name :: ·) hcolumns

theorem filterMap_key?_effects :
    statement.effects.filterMap Effect.key? = statement.keyClauses := by
  cases statement with
  | addForeignKey => rfl
  | createTable table clauses =>
    rw [effects, List.filterMap_cons_none rfl, List.filterMap_flatMap, keyClauses,
      List.filterMap_eq_flatMap_toList]
    refine List.flatMap_congr fun clause _ => ?_
    unfold ColumnClause.effects
    cases clause.inlineReference <;> rfl

theorem filterMap_column?_createTable (table : Table) (clauses : List ColumnClause) :
    (createTable table clauses).effects.filterMap Effect.column? =
      (clauses.map ColumnClause.column).map fun column => (table.name, column.name) := by
  rw [effects, List.filterMap_cons_none rfl, List.filterMap_flatMap, List.map_map,
    List.map_eq_flatMap]
  refine List.flatMap_congr fun clause _ => ?_
  unfold ColumnClause.effects
  cases clause.inlineReference <;> rfl

theorem filterMap_table?_flatMap_effects :
    (script.flatMap effects).filterMap Effect.table? =
      (script.filterMap created?).map Table.name := by
  rw [List.filterMap_flatMap, List.filterMap_eq_flatMap_toList, List.map_flatMap]
  exact List.flatMap_congr fun statement _ => statement.filterMap_table?_effects

theorem filterMap_key?_flatMap_effects :
    (script.flatMap effects).filterMap Effect.key? = script.flatMap keyClauses := by
  rw [List.filterMap_flatMap]
  exact List.flatMap_congr fun statement _ => statement.filterMap_key?_effects

theorem create_mem_flatMap_effects_iff {name : String} :
    .create name ∈ script.flatMap effects ↔ name ∈ (script.filterMap created?).map Table.name := by
  rw [← Effect.mem_filterMap_table?_iff, filterMap_table?_flatMap_effects]

end Statement

/-! ## Scripts -/

namespace Schema

variable {schema : Schema} {names : List String} {dialect : Dialect}

theorem filterMap_column?_statements (schema : Schema) (names : List String) :
    ((schema.statements names).flatMap Statement.effects).filterMap Effect.column? =
      (schema.creationOrder names).flatMap fun table =>
        table.columns.map fun column => (table.name, column.name) := by
  rw [← created_statements, List.filterMap_flatMap, List.filterMap_eq_flatMap_toList,
    List.flatMap_assoc]
  refine List.flatMap_congr fun statement hmem => ?_
  cases statement with
  | addForeignKey => rfl
  | createTable table clauses =>
    rw [Statement.filterMap_column?_createTable, columns_of_createTable_mem hmem]
    exact (List.flatMap_singleton (fun table : Table =>
      table.columns.map fun column => (table.name, column.name)) table).symm

/-- The effects create the listed tables of the schema with all their columns, state all their
foreign keys and come one after the other. -/
structure IsCreatedBy (schema : Schema) (names : List String) (tables : List Table)
    (effects : List Effect) : Prop where
  /-- Tables of elements come first, as they stand in the schema, then join tables by their
  links. -/
  order : ∃ joins, tables =
      schema.tables.values.filter (fun table => names.contains table.name && !table.isJoin) ++
        joins ∧
    joins.Perm
      (schema.tables.values.filter fun table => names.contains table.name && table.isJoin) ∧
    joins.Pairwise schema.LinkedBefore
  created : effects.filterMap Effect.table? = tables.map Table.name
  once : (effects.filterMap Effect.table?).Nodup
  columns : effects.filterMap Effect.column? =
    tables.flatMap fun table => table.columns.map fun column => (table.name, column.name)
  /-- Each reference of a created table is stated in one clause, and no other clause is there. -/
  references : (effects.filterMap Effect.key?).Perm (tables.flatMap Table.keyClauses)
  inline : ∀ before clause after, effects = before ++ .inlineKey clause :: after →
    clause.reference.table = clause.table ∨ .create clause.reference.table ∈ before ∨
      clause.reference.table ∉ names
  deferred : ∀ before clause after, effects = before ++ .addedKey clause :: after →
    (∀ table, .create table ∉ after) ∧ .create clause.table ∈ before ∧
      .create clause.reference.table ∈ before

theorem KeepsRules.isCreatedBy (hrules : schema.KeepsRules) (names : List String) :
    schema.IsCreatedBy names (schema.creationOrder names)
      ((schema.statements names).flatMap Statement.effects) where
  order := by
    let listed := schema.tables.values.filter fun table => names.contains table.name
    refine ⟨(listed.filter Table.isJoin).mergeSort fun left right =>
      schema.joinRank left ≤ schema.joinRank right, ?_, ?_, pairwise_linkedBefore
        hrules.storedByName (List.filter_sublist.trans List.filter_sublist)⟩
    · rw [creationOrder, List.filter_filter]
      simp only [Bool.and_comm, listed]
    · refine (List.mergeSort_perm _ _).trans ?_
      simp only [listed, List.filter_filter, Bool.and_comm]
      exact .refl _
  created := by rw [Statement.filterMap_table?_flatMap_effects, created_statements]
  once := by
    rw [Statement.filterMap_table?_flatMap_effects, created_statements]
    exact nodup_names_creationOrder hrules.storedByName names
  columns := filterMap_column?_statements schema names
  references := by
    rw [Statement.filterMap_key?_flatMap_effects]
    exact keyClauses_statements schema names
  inline := by
    intro before clause after hall
    obtain ⟨earlier, statement, later, front, back, hsplit, hstatement, rfl, -⟩ :=
      exists_source_of_flatMap hall
    have hmem : .inlineKey clause ∈ statement.effects :=
      hstatement ▸ List.mem_append_right front List.mem_cons_self
    cases statement with
    | addForeignKey => simp [Statement.effects] at hmem
    | createTable table clauses =>
      obtain ⟨own, hown, hkey⟩ : ∃ own ∈ clauses, .inlineKey clause ∈ own.effects table.name := by
        simpa [Statement.effects] using hmem
      obtain ⟨reference, hreference, rfl⟩ : ∃ reference, own.inlineReference = some reference ∧
          { table := table.name, column := own.column.name, reference } = clause := by
        simpa [ColumnClause.effects] using hkey
      have hcases := hrules.inlineReference_cases hsplit hown hreference
      rw [← Statement.create_mem_flatMap_effects_iff] at hcases
      exact hcases.imp_right (Or.imp_left (List.mem_append_left front))
  deferred := by
    intro before clause after hall
    obtain ⟨earlier, statement, later, front, back, hsplit, hstatement, rfl, rfl⟩ :=
      exists_source_of_flatMap hall
    cases statement with
    | createTable table clauses =>
      have hmem : .addedKey clause ∈ (Statement.createTable table clauses).effects :=
        hstatement ▸ List.mem_append_right front List.mem_cons_self
      simp [Statement.effects, ColumnClause.effects] at hmem
    | addForeignKey table column reference =>
      obtain ⟨hafter, htable, hreference⟩ := addForeignKey_after_creations hsplit
      obtain ⟨rfl, rfl, rfl⟩ : front = [] ∧ clause = { table, column, reference } ∧ back = [] := by
        simpa [Statement.effects, List.singleton_eq_append_iff] using hstatement
      rw [List.append_nil, List.nil_append, Statement.create_mem_flatMap_effects_iff,
        Statement.create_mem_flatMap_effects_iff]
      refine ⟨fun name hname => ?_, htable, hreference⟩
      rw [Statement.create_mem_flatMap_effects_iff, List.filterMap_eq_nil_iff.2 hafter] at hname
      cases hname

theorem scriptFor_eq_ok_iff {text : String} :
    schema.scriptFor names dialect = .ok text ↔
      text = spelled dialect.quote (scriptPieces dialect (schema.statements names)) ∧
        ∀ table ∈ schema.tables.values, table.name ∈ names → ∀ column ∈ table.columns,
          (dialect.typeText? column.sqlType).isSome := by
  rw [← exists_scriptFor_iff]
  constructor
  · exact fun htext => ⟨scriptText_eq_spelled htext, text, htext⟩
  · rintro ⟨rfl, other, hother⟩
    rwa [← scriptText_eq_spelled hother]

/-- The script of a schema that keeps the rules, read from top to bottom, creates the listed tables
and leaves nothing out. It has a text, with the names as the dialect quotes them, unless a type has
no spelling, and each type that begins with a visible character has one. -/
theorem KeepsRules.script_runs (hrules : schema.KeepsRules) (names : List String)
    (dialect : Dialect) :
    let pieces := scriptPieces dialect (schema.statements names)
    (∃ tables, schema.IsCreatedBy names tables (effectsIn pieces)) ∧
      (∀ text, schema.scriptFor names dialect = .ok text ↔
        text = spelled dialect.quote pieces ∧
          ∀ table ∈ schema.tables.values, table.name ∈ names → ∀ column ∈ table.columns,
            (dialect.typeText? column.sqlType).isSome) ∧
      ((dialect = .mysql → ∀ table ∈ schema.tables.values, table.name ∈ names →
          ∀ column ∈ table.columns, ∀ c ∈ column.sqlType.toList.head?, isBlank c = false) →
        schema.scriptFor names dialect = .ok (spelled dialect.quote pieces)) := by
  intro pieces
  refine ⟨⟨schema.creationOrder names, ?_⟩, fun _ => scriptFor_eq_ok_iff, fun hvisible => ?_⟩
  · rw [effectsIn_scriptPieces]
    exact hrules.isCreatedBy names
  · exact scriptFor_eq_ok_iff.2 ⟨rfl, fun table htable hname column hcolumn =>
      typeText?_isSome fun hmysql => hvisible hmysql table htable hname column hcolumn⟩

/-- The tables of the shop refer to one another, and the staff to a table that comes later. -/
theorem script_runs_shop :
    let schema := Diagram.shop.draft.schema
    let pieces := scriptPieces .mysql (schema.statements schema.tables.names)
    schema.KeepsRules ∧
      (∃ tables, schema.IsCreatedBy schema.tables.names tables (effectsIn pieces)) ∧
      schema.scriptFor schema.tables.names .mysql = .ok (spelled Dialect.mysql.quote pieces) := by
  intro schema pieces
  have hrules : schema.KeepsRules := (Diagram.sound_of_schema Diagram.shop_schema).rules
  obtain ⟨hcreated, -, htext⟩ := hrules.script_runs schema.tables.names .mysql
  have hvisible : (schema.tables.values.all fun table => table.columns.all fun column =>
      column.sqlType.toList.head?.all fun c => isBlank c == false) = true := by
    decide +kernel
  simp only [List.all_eq_true, Option.all_eq_true, beq_iff_eq] at hvisible
  exact ⟨hrules, hcreated, htext fun _ table htable _ => hvisible table htable⟩

/-- A table whose key has a type that begins with two no-break spaces, of two bytes each. -/
def indentedKeySchema : Schema where
  tables := Catalog.ofList [("t",
    { name := "t"
      columns :=
        [{ name := "id"
           sqlType := "\u00a0\u00a0INT"
           javaType := "Integer"
           nullable := false
           primaryKey := true
           unique := false
           generated := false
           references := none }]
      elementId := some "t"
      parent := none
      isAbstract := false
      methods := [] })]
  links := []
  enums := Catalog.empty

/-- A schema that keeps the rules may have no script for MySQL. The third byte of the key type, as
many as its name has, is inside of a blank. -/
theorem indentedKeySchema_no_script :
    indentedKeySchema.KeepsRules ∧
      indentedKeySchema.scriptFor ["t"] .mysql = .error { sqlType := "\u00a0\u00a0INT" } :=
  ⟨faults_eq_nil_iff.1 (by decide +kernel), by decide +kernel⟩

end Schema

end ClassDiagram
