import ClassDiagram.Schema.Increment
import ClassDiagram.Sql.ColumnType
import ClassDiagram.Sql.Statement
import ClassDiagram.Text.Width

/-!
# The text of a schema script

Statements are separated by empty lines. The types of a table's columns are aligned under one
another, by the width that the names have on a display.
-/

namespace ClassDiagram

open Text

/-- A column type that has no spelling in the dialect of the script. -/
structure TypeFault where
  sqlType : String
  deriving DecidableEq, Repr

def TypeFault.message (fault : TypeFault) : String :=
  "column type `" ++ fault.sqlType ++ "` cannot be split into name and arguments"

def referenceText (dialect : Dialect) (reference : ColumnReference) : String :=
  "REFERENCES " ++ dialect.quote reference.table ++ " (" ++ dialect.quote reference.column ++ ")"

def spaces (count : Nat) : String :=
  String.ofList (List.replicate count ' ')

/-- What follows the type of a column, each part with a space before it. -/
def constraintText (dialect : Dialect) (composite : Bool) (clause : ColumnClause) : String :=
  let column := clause.column
  let identity :=
    if column.primaryKey && column.generated then
      (dialect.generatedKeyClause?.map fun text => " " ++ text).getD ""
    else ""
  let obligation :=
    if column.primaryKey && !composite then " PRIMARY KEY"
    else if !column.nullable then " NOT NULL"
    else ""
  let uniqueness := if column.unique && !column.primaryKey then " UNIQUE" else ""
  let reference :=
    (clause.inlineReference.map fun reference => " " ++ referenceText dialect reference).getD ""
  identity ++ obligation ++ uniqueness ++ reference

/-- The width of the longest column name, as it is written. -/
def nameWidth (dialect : Dialect) (clauses : List ColumnClause) : Nat :=
  (clauses.map fun clause => width (dialect.quote clause.column.name)).foldl max 0

def columnLine (dialect : Dialect) (composite : Bool) (columns : Nat) (clause : ColumnClause) :
    Except TypeFault String :=
  let name := dialect.quote clause.column.name
  match dialect.typeText? clause.column.sqlType with
  | none => .error { sqlType := clause.column.sqlType }
  | some typeText =>
    .ok ("    " ++ name ++ spaces (columns - width name + 1) ++ typeText
      ++ constraintText dialect composite clause)

/-- The line that names the columns of a composite key. -/
def compositeKeyLine (dialect : Dialect) (table : Table) : String :=
  let keys := table.keyColumns.map fun column => dialect.quote column.name
  "    PRIMARY KEY (" ++ String.intercalate ", " keys ++ ")"

def Statement.text (dialect : Dialect) : Statement → Except TypeFault String
  | .createTable table clauses => do
    let composite := table.isJoin
    let lines ← clauses.mapM (columnLine dialect composite (nameWidth dialect clauses))
    let keyLines := if composite then [compositeKeyLine dialect table] else []
    return "CREATE TABLE " ++ dialect.quote table.name ++ " (\n"
      ++ String.intercalate ",\n" (lines ++ keyLines) ++ "\n);"
  | .addForeignKey table column reference =>
    .ok ("ALTER TABLE " ++ dialect.quote table ++ " ADD FOREIGN KEY (" ++ dialect.quote column
      ++ ") " ++ referenceText dialect reference ++ ";")

/-- The statements with empty lines between them and a line end behind the last one. -/
def scriptText (dialect : Dialect) (statements : List Statement) : Except TypeFault String := do
  let texts ← statements.mapM (Statement.text dialect)
  return if texts.isEmpty then "" else String.intercalate "\n\n" texts ++ "\n"

/-- The script that creates the named tables; other tables are taken to be there. -/
def Schema.scriptFor (schema : Schema) (names : List String) (dialect : Dialect) :
    Except TypeFault String :=
  scriptText dialect (schema.statements names)

/-- The script that creates all tables. -/
def Schema.script (schema : Schema) (dialect : Dialect) : Except TypeFault String :=
  schema.scriptFor schema.tables.names dialect

/-- The script that creates the tables that the later of two schemas adds. -/
def Schema.incrementScript (base candidate : Schema) (dialect : Dialect) :
    Except TypeFault String :=
  (base.merge candidate).scriptFor ((base.newTables candidate).map Table.name) dialect

end ClassDiagram
