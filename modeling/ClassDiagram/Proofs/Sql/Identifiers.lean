import ClassDiagram.Proofs.Sql.Script
import ClassDiagram.Proofs.Text.Templates

/-!
# Identifiers in a script

A script is made of fixed words and of the names of tables and columns, each of which is written as
its dialect quotes it. Hence the names that a script writes can be told from its statements.
-/

namespace ClassDiagram

open Text

/-! ## Pieces -/

def ColumnReference.pieces (reference : ColumnReference) : List (TextPiece String) :=
  [.fixed "REFERENCES ", .name reference.table, .fixed " (", .name reference.column, .fixed ")"]

/-- The line of a column: its name, its type and marks, and what it refers to. -/
def ColumnClause.pieces (dialect : Dialect) (composite : Bool) (columns : Nat)
    (clause : ColumnClause) : List (TextPiece String) :=
  let name := clause.column.name
  let marks := constraintText dialect composite { clause with inlineReference := none }
  [.fixed "    ", .name name, .fixed (spaces (columns - width (dialect.quote name) + 1)),
      .fixed ((dialect.typeText? clause.column.sqlType).getD ""), .fixed marks]
    ++ (clause.inlineReference.map fun reference => .fixed " " :: reference.pieces).getD []

def compositeKeyPieces (table : Table) : List (TextPiece String) :=
  [.fixed "    PRIMARY KEY ("]
    ++ [.fixed ", "].intercalate (table.keyColumns.map fun column => [.name column.name])
    ++ [.fixed ")"]

def Statement.pieces (dialect : Dialect) : Statement → List (TextPiece String)
  | .createTable table clauses =>
    let composite := table.isJoin
    let lines := clauses.map (ColumnClause.pieces dialect composite (nameWidth dialect clauses))
    let keyLines := if composite then [compositeKeyPieces table] else []
    [.fixed "CREATE TABLE ", .name table.name, .fixed " (\n"]
      ++ [.fixed ",\n"].intercalate (lines ++ keyLines) ++ [.fixed "\n);"]
  | .addForeignKey table column reference =>
    [.fixed "ALTER TABLE ", .name table, .fixed " ADD FOREIGN KEY (", .name column, .fixed ") "]
      ++ reference.pieces ++ [.fixed ";"]

def scriptPieces (dialect : Dialect) (script : List Statement) : List (TextPiece String) :=
  if script = [] then []
  else [.fixed "\n\n"].intercalate (script.map (Statement.pieces dialect)) ++ [.fixed "\n"]

/-! ## Names -/

def ColumnReference.names (reference : ColumnReference) : List String :=
  [reference.table, reference.column]

def ColumnClause.names (clause : ColumnClause) : List String :=
  clause.column.name :: (clause.inlineReference.map ColumnReference.names).getD []

/-- The names that a statement writes. -/
def Statement.names : Statement → List String
  | .createTable table clauses =>
    table.name :: clauses.flatMap ColumnClause.names
      ++ if table.isJoin then table.keyColumns.map Column.name else []
  | .addForeignKey table column reference => [table, column] ++ reference.names

theorem namesIn_columnPieces (dialect : Dialect) (composite : Bool) (columns : Nat)
    (clause : ColumnClause) :
    namesIn (clause.pieces dialect composite columns) = clause.names := by
  unfold ColumnClause.pieces ColumnClause.names
  cases clause.inlineReference <;> simp [ColumnReference.pieces, ColumnReference.names]

theorem namesIn_compositeKeyPieces (table : Table) :
    namesIn (compositeKeyPieces table) = table.keyColumns.map Column.name := by
  rw [compositeKeyPieces, namesIn_append, namesIn_append, namesIn_intercalate rfl,
    List.flatMap_map]
  simp [List.map_eq_flatMap]

theorem namesIn_pieces (dialect : Dialect) (statement : Statement) :
    namesIn (statement.pieces dialect) = statement.names := by
  cases statement with
  | createTable table clauses =>
    have hclauses : (clauses.flatMap fun clause => namesIn
        (clause.pieces dialect table.isJoin (nameWidth dialect clauses))) =
        clauses.flatMap ColumnClause.names := by
      simp only [namesIn_columnPieces]
    unfold Statement.pieces Statement.names
    rw [namesIn_append, namesIn_append, namesIn_intercalate rfl, List.flatMap_append,
      List.flatMap_map, hclauses]
    cases hjoin : table.isJoin <;> simp [hjoin, namesIn_compositeKeyPieces]
  | addForeignKey table column reference =>
    simp [Statement.pieces, Statement.names, ColumnReference.pieces, ColumnReference.names]

theorem namesIn_scriptPieces (dialect : Dialect) (script : List Statement) :
    namesIn (scriptPieces dialect script) = script.flatMap Statement.names := by
  rw [scriptPieces]
  split
  · rename_i hnone
    rw [hnone, namesIn_nil, List.flatMap_nil]
  · have hstatements : (script.flatMap fun statement => namesIn (statement.pieces dialect)) =
        script.flatMap Statement.names := by
      simp only [namesIn_pieces]
    rw [namesIn_append, namesIn_intercalate rfl, List.flatMap_map, hstatements]
    simp

/-! ## Texts -/

theorem spelled_reference (dialect : Dialect) (reference : ColumnReference) :
    spelled dialect.quote reference.pieces = referenceText dialect reference := by
  simp [ColumnReference.pieces, referenceText, String.append_assoc]

/-- What a column refers to stands behind its marks. -/
theorem constraintText_eq (dialect : Dialect) (composite : Bool) (clause : ColumnClause) :
    constraintText dialect composite clause =
      constraintText dialect composite { clause with inlineReference := none } ++
        (clause.inlineReference.map fun reference =>
          " " ++ referenceText dialect reference).getD "" := by
  unfold constraintText
  simp

theorem spelled_columnPieces {dialect : Dialect} {composite : Bool} {columns : Nat}
    {clause : ColumnClause} {line : String}
    (hline : columnLine dialect composite columns clause = .ok line) :
    line = spelled dialect.quote (clause.pieces dialect composite columns) := by
  rw [columnLine] at hline
  split at hline
  · cases hline
  · rename_i typeText htype
    rw [← Except.ok.inj hline, constraintText_eq]
    unfold ColumnClause.pieces
    rw [htype]
    cases clause.inlineReference <;> simp [spelled_reference, String.append_assoc]

theorem spelled_compositeKeyPieces (dialect : Dialect) (table : Table) :
    spelled dialect.quote (compositeKeyPieces table) = compositeKeyLine dialect table := by
  unfold compositeKeyPieces compositeKeyLine
  rw [spelled_append, spelled_append, spelled_intercalate, List.map_map]
  simp [Function.comp_def, String.append_assoc]

/-- The text of a statement is that of its pieces, with names as the dialect quotes them. -/
theorem text_eq_spelled {dialect : Dialect} {statement : Statement} {text : String}
    (htext : statement.text dialect = .ok text) :
    text = spelled dialect.quote (statement.pieces dialect) := by
  cases statement with
  | createTable table clauses =>
    rw [Statement.text] at htext
    obtain ⟨lines, hlines, hok⟩ := bind_eq_ok htext
    have hspelled : lines = clauses.map fun clause => spelled dialect.quote
        (clause.pieces dialect table.isJoin (nameWidth dialect clauses)) :=
      eq_map_of_forall₂ (mapM_eq_ok_iff.1 hlines) fun _ _ => spelled_columnPieces
    rw [← Except.ok.inj hok, hspelled]
    unfold Statement.pieces
    rw [spelled_append, spelled_append, spelled_intercalate, List.map_append, List.map_map]
    cases table.isJoin <;>
      simp [Function.comp_def, spelled_compositeKeyPieces, String.append_assoc]
  | addForeignKey table column reference =>
    rw [Statement.text] at htext
    rw [← Except.ok.inj htext]
    simp [Statement.pieces, spelled_reference, String.append_assoc]

/-- A script is the text of its pieces. -/
theorem scriptText_eq_spelled {dialect : Dialect} {script : List Statement} {text : String}
    (htext : scriptText dialect script = .ok text) :
    text = spelled dialect.quote (scriptPieces dialect script) := by
  obtain ⟨texts, htexts, rfl⟩ := scriptText_eq_ok_iff.1 htext
  have hspelled : texts = script.map fun statement =>
      spelled dialect.quote (statement.pieces dialect) :=
    eq_map_of_forall₂ htexts fun _ _ => text_eq_spelled
  rw [hspelled, scriptPieces]
  by_cases hscript : script = []
  · rw [hscript]
    rfl
  · rw [if_neg hscript, if_neg (mt List.map_eq_nil_iff.1 hscript), spelled_append,
      spelled_intercalate, List.map_map]
    simp [Function.comp_def]

end ClassDiagram
