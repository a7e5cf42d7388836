import ClassDiagram.Schema.Basic

/-!
# Statements of a schema script

A script creates tables one after the other. A foreign key is written with its column if the table
that it refers to is there by then, or is not created by the script at all; the others are added at
the end, when every table is there.
-/

namespace ClassDiagram

/-- A column of a table that is created. -/
structure ColumnClause where
  column : Column
  /-- The reference that is written with the column. -/
  inlineReference : Option ColumnReference
  deriving DecidableEq, Repr

inductive Statement where
  | createTable (table : Table) (clauses : List ColumnClause)
  | addForeignKey (table column : String) (reference : ColumnReference)
  deriving DecidableEq, Repr

/-- The place of the first relationship that is kept in a join table; behind all of them if there
is none. -/
def Schema.joinRank (schema : Schema) (table : Table) : Nat :=
  schema.links.findIdx fun link => link.joinTable == some table.name

/-- The named tables in the order in which they are created: tables of elements, then join tables
by their relationships. -/
def Schema.creationOrder (schema : Schema) (names : List String) : List Table :=
  let named := schema.tables.values.filter fun table => names.contains table.name
  let joins := named.filter Table.isJoin
  (named.filter fun table => !table.isJoin) ++
    joins.mergeSort fun left right => schema.joinRank left ≤ schema.joinRank right

/-- The reference of a column must wait for a table that is still to be created. -/
def mustWait (table : Table) (pending : List String) (reference : ColumnReference) : Bool :=
  reference.table != table.name && pending.contains reference.table

def columnClause (table : Table) (pending : List String) (column : Column) : ColumnClause :=
  { column
    inlineReference := column.references.filter fun reference =>
      !mustWait table pending reference }

def creation (pending : List String) (table : Table) : Statement :=
  .createTable table (table.columns.map (columnClause table pending))

/-- The foreign keys of a table that are added at the end. -/
def deferredKeys (pending : List String) (table : Table) : List Statement :=
  table.columns.filterMap fun column =>
    (column.references.filter fun reference => mustWait table pending reference).map
      fun reference => .addForeignKey table.name column.name reference

/-- Every table with the names of the tables that are not yet there when it is created. -/
def withPending (pending : List String) : List Table → List (Table × List String)
  | [] => []
  | table :: rest =>
    (table, pending) :: withPending (pending.filter fun name => name != table.name) rest

/-- The statements that create the named tables of a schema. -/
def Schema.statements (schema : Schema) (names : List String) : List Statement :=
  let ordered := schema.creationOrder names
  let steps := withPending (ordered.map Table.name) ordered
  steps.map (fun step => creation step.2 step.1)
    ++ steps.flatMap fun step => deferredKeys step.2 step.1

end ClassDiagram
