import ClassDiagram.Proofs.Outcomes
import ClassDiagram.Proofs.Sql.Statements
import ClassDiagram.Proofs.Text.Trimming

/-!
# The texts of scripts

A script has a text if the types of its columns have spellings in its dialect. Only MySQL can lack
one, for a type that begins with a blank. The text is that of the statements in their order.
-/

namespace ClassDiagram

open Text

/-! ## Types with a spelling -/

theorem dropBytes?_zero (cs : List Char) : dropBytes? 0 cs = some cs := by
  cases cs <;> rfl

theorem dropBytes?_utf8Length_append (front rest : List Char) :
    dropBytes? (utf8Length front) (front ++ rest) = some rest := by
  induction front with
  | nil => exact dropBytes?_zero rest
  | cons c front ih =>
    have hpos := c.utf8Size_pos
    rw [List.cons_append, dropBytes?, utf8Length, if_neg (by omega), if_pos (by omega),
      Nat.add_sub_cancel_left, ih]

theorem typeBase_isPrefix {cs : List Char} (hfirst : ∀ c ∈ cs.head?, isBlank c = false) :
    typeBase cs <+: cs := by
  have hfront : cs.takeWhile (fun c => c != '(') <+: cs := List.takeWhile_prefix _
  have hstart : ∀ c ∈ (cs.takeWhile fun c => c != '(').head?, isBlank c = false := by
    rw [List.head?_takeWhile]
    exact fun c hc => hfirst c (Option.mem_filter_iff.1 hc).1
  rw [typeBase, trim, trimStart_eq_self hstart]
  exact (trimEnd_isPrefix _).trans hfront

theorem typeText?_isSome {dialect : Dialect} {sqlType : String}
    (hfirst : dialect = .mysql → ∀ c ∈ sqlType.toList.head?, isBlank c = false) :
    (dialect.typeText? sqlType).isSome := by
  cases dialect with
  | generic => rfl
  | postgresql => rfl
  | mysql =>
    obtain ⟨rest, hrest⟩ := typeBase_isPrefix (hfirst rfl)
    have hdrop := dropBytes?_utf8Length_append (typeBase sqlType.toList) rest
    rw [hrest] at hdrop
    simp only [Dialect.typeText?, mysqlType?, hdrop]
    rfl

/-! ## Texts -/

theorem exists_columnLine_iff (dialect : Dialect) (composite : Bool) (columns : Nat)
    (clause : ColumnClause) :
    (∃ line, columnLine dialect composite columns clause = .ok line) ↔
      (dialect.typeText? clause.column.sqlType).isSome := by
  rw [columnLine]
  cases dialect.typeText? clause.column.sqlType <;> simp

theorem exists_text_createTable_iff {dialect : Dialect} {table : Table}
    {clauses : List ColumnClause} :
    (∃ text, (Statement.createTable table clauses).text dialect = .ok text) ↔
      ∀ column ∈ clauses.map ColumnClause.column, (dialect.typeText? column.sqlType).isSome := by
  rw [Statement.text, List.forall_mem_map]
  simp only [← exists_columnLine_iff dialect table.isJoin (nameWidth dialect clauses),
    ← exists_mapM_eq_ok_iff]
  cases clauses.mapM (columnLine dialect table.isJoin (nameWidth dialect clauses)) <;>
    simp [bind, Except.bind, pure, Except.pure]

theorem scriptText_eq_ok_iff {dialect : Dialect} {script : List Statement} {text : String} :
    scriptText dialect script = .ok text ↔
      ∃ texts, List.Forall₂ (fun statement text => statement.text dialect = .ok text) script texts ∧
        text = if texts = [] then "" else String.intercalate "\n\n" texts ++ "\n" := by
  simp only [← mapM_eq_ok_iff, ← List.isEmpty_iff]
  rw [scriptText]
  cases script.mapM (Statement.text dialect) with
  | error fault => simp [bind, Except.bind]
  | ok texts =>
    simp only [bind, Except.bind, pure, Except.pure, Except.ok.injEq, exists_eq_left']
    exact eq_comm

namespace Schema

variable {schema : Schema} {names : List String} {dialect : Dialect}

/-- A script has a text exactly if the types of all created columns have a spelling. -/
theorem exists_scriptFor_iff :
    (∃ text, schema.scriptFor names dialect = .ok text) ↔
      ∀ table ∈ schema.tables.values, table.name ∈ names → ∀ column ∈ table.columns,
        (dialect.typeText? column.sqlType).isSome := by
  have htexts : (∃ text, schema.scriptFor names dialect = .ok text) ↔
      ∀ statement ∈ schema.statements names, ∃ text, statement.text dialect = .ok text := by
    rw [← exists_mapM_eq_ok_iff]
    simp only [scriptFor, scriptText_eq_ok_iff, mapM_eq_ok_iff]
    exact ⟨fun ⟨_, texts, htexts, _⟩ => ⟨texts, htexts⟩,
      fun ⟨texts, htexts⟩ => ⟨_, texts, htexts, rfl⟩⟩
  rw [htexts]
  constructor
  · intro hall table htable hname
    have hcreated := mem_creationOrder_iff.2 ⟨htable, hname⟩
    rw [← created_statements, List.mem_filterMap] at hcreated
    obtain ⟨statement, hmem, hcreates⟩ := hcreated
    cases statement with
    | addForeignKey => cases hcreates
    | createTable created clauses =>
      cases hcreates
      rw [← columns_of_createTable_mem hmem]
      exact exists_text_createTable_iff.1 (hall _ hmem)
  · intro hspelled statement hmem
    cases statement with
    | addForeignKey => exact ⟨_, rfl⟩
    | createTable table clauses =>
      obtain ⟨htable, hname⟩ :=
        mem_creationOrder_iff.1 (mem_creationOrder_of_createTable hmem)
      rw [exists_text_createTable_iff, columns_of_createTable_mem hmem]
      exact hspelled table htable hname

end Schema

end ClassDiagram
