import ClassDiagram.Schema.Basic
import ClassDiagram.Schema.Fault

/-!
# The rules of a schema

A schema keeps the rules if every table is stored under its own name, columns have different names
and refer to existing columns, every table of an element has one key column and every join table
two that are foreign keys, parents exist, and links name tables and columns that fit them.
`Schema.structureFaults` lists what is broken, tables first.
-/

namespace ClassDiagram

namespace Schema

/-- The reference of a column leads to a column of the schema. -/
def referenceFaults (schema : Schema) (table : Table) (column : Column) : List StructureFault :=
  match column.references with
  | none => []
  | some reference =>
    match schema.table? reference.table with
    | none => [.missingReferencedTable table.name column.name reference.table]
    | some target =>
      if target.hasColumn reference.column then []
      else
        [.missingReferencedColumn table.name column.name reference.table reference.column]

/-- The faults of columns that follow columns of the given names. -/
def columnFaults (schema : Schema) (table : Table) (seen : List String) :
    List Column → List StructureFault
  | [] => []
  | column :: rest =>
    (if seen.contains column.name then [.repeatedColumn table.name column.name] else [])
      ++ schema.referenceFaults table column
      ++ schema.columnFaults table (column.name :: seen) rest

def keyFaults (table : Table) : List StructureFault :=
  let keys := table.keyColumns
  if table.isJoin then
    if keys.length ≠ 2 ∨ keys.any fun column => !column.isForeignKey then [.joinKey table.name]
    else []
  else if keys.length ≠ 1 then [.keyCount table.name keys.length]
  else []

def parentFaults (schema : Schema) (table : Table) : List StructureFault :=
  match table.parent with
  | none => []
  | some parent =>
    if schema.tables.contains parent then [] else [.missingParent table.name parent]

def tableFaults (schema : Schema) (key : String) (table : Table) : List StructureFault :=
  (if key = table.name then [] else [.misplacedTable table.name key])
    ++ schema.columnFaults table [] table.columns
    ++ keyFaults table
    ++ schema.parentFaults table

def linkedTableFaults (schema : Schema) (link : Link) : List StructureFault :=
  [link.owner, link.referenced].filterMap fun name =>
    if schema.tables.contains name then none else some (.missingLinkedTable link.id name)

def linkColumnFaults (schema : Schema) (link : Link) : List StructureFault :=
  match link.column, schema.table? link.owner with
  | none, _ => [.noLinkColumn link.id]
  | some column, some owner =>
    let reference := (owner.column? column).bind Column.references
    if reference.map ColumnReference.table = some link.referenced then []
    else [.wrongLinkColumn link.id link.owner column link.referenced]
  | some _, none => []

def joinFaults (schema : Schema) (link : Link) : List StructureFault :=
  match link.joinTable with
  | none => [.noJoinTableName link.id]
  | some name =>
    match schema.table? name with
    | some table => if table.isJoin then [] else [.notJoinTable link.id name]
    | none => [.missingJoinTable link.id name]

def linkFaults (schema : Schema) (link : Link) : List StructureFault :=
  schema.linkedTableFaults link
    ++ match link.kind with
      | .foreignKey => schema.linkColumnFaults link
      | .joinTable => schema.joinFaults link

def structureFaults (schema : Schema) : List StructureFault :=
  (schema.tables.entries.flatMap fun entry => schema.tableFaults entry.1 entry.2)
    ++ schema.links.flatMap schema.linkFaults

/-- What is broken, as faults of a model. -/
def faults (schema : Schema) : List ModelFault :=
  schema.structureFaults.map .invalidSchema

end Schema

end ClassDiagram
