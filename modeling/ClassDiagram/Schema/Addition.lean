import ClassDiagram.Diagram
import ClassDiagram.Fresh
import ClassDiagram.Schema.Basic
import ClassDiagram.Schema.Fault

/-!
# What relationships add

Associations, aggregations and compositions are kept alike: the two cardinalities alone say
whether one of the tables gets a foreign key to the other, or a join table stands between them.
-/

namespace ClassDiagram

/-- What a relationship adds to a schema. -/
inductive Addition where
  | foreignKey (link : Link) (column : Column)
  | joinTable (link : Link) (table : Table)
  deriving DecidableEq, Repr

def Relationship.cardinalities (relationship : Relationship) :
    Except ModelFault (Cardinality × Cardinality) :=
  match Cardinality.ofText? relationship.sourceCardinality,
    Cardinality.ofText? relationship.targetCardinality with
  | some source, some target => .ok (source, target)
  | _, _ =>
    .error (.ambiguousCardinality relationship.id relationship.sourceCardinality
      relationship.targetCardinality)

def Table.key (table : Table) : Except ModelFault Column :=
  match table.primaryKey? with
  | some column => .ok column
  | none => .error (.invalidSchema (.noPrimaryKey table.name))

/-- The name that a reference to a table's key wants to have. -/
def referenceName (table : Table) (key : Column) : String :=
  table.name ++ "_" ++ key.name

/-- A column of the key's type that refers to it. -/
def referenceColumn (name : String) (referenced : Table) (key : Column) : Column :=
  { name
    sqlType := key.sqlType
    javaType := key.javaType
    nullable := false
    primaryKey := false
    unique := false
    generated := false
    references := some { table := referenced.name, column := key.name } }

def foreignKeyColumn (owner referenced : Table) (nullable unique : Bool) :
    Except ModelFault Column := do
  let key ← referenced.key
  let name := freshName (referenceName referenced key) owner.columnNames
  return { referenceColumn name referenced key with nullable, unique }

/-- The owner gets a foreign key. It may be left empty if the referenced end is optional. -/
def foreignKeyAddition (id : String) (owner referenced : Table) (cardinality : Cardinality)
    (unique : Bool) : Except ModelFault Addition := do
  let column ← foreignKeyColumn owner referenced (cardinality == .zeroOrOne) unique
  return .foreignKey
    { id
      kind := .foreignKey
      owner := owner.name
      referenced := referenced.name
      joinTable := none
      column := some column.name }
    column

/-- Both table names in lexicographic order. -/
def joinTableName (left right : String) : String :=
  if left ≤ right then left ++ "_" ++ right else right ++ "_" ++ left

def joinColumn (side : Table) (taken : List String) : Except ModelFault Column := do
  let key ← side.key
  let name := freshName (referenceName side key) taken
  return { referenceColumn name side key with primaryKey := true }

/-- A table whose key is a pair of references, first to the table with the smaller name. -/
def joinTableBetween (name : String) (source target : Table) : Except ModelFault Table := do
  let (first, second) := if source.name ≤ target.name then (source, target) else (target, source)
  let firstColumn ← joinColumn first []
  let secondColumn ← joinColumn second [firstColumn.name]
  return {
    name
    columns := [firstColumn, secondColumn]
    elementId := none
    parent := none
    isAbstract := false
    methods := [] }

def joinTableAddition (id : String) (source target : Table) (taken : List String) :
    Except ModelFault Addition := do
  let name := freshName (joinTableName source.name target.name) taken
  let table ← joinTableBetween name source target
  return .joinTable
    { id
      kind := .joinTable
      owner := source.name
      referenced := target.name
      joinTable := some name
      column := none }
    table

/-- One-to-one: the source owns the key. One-to-many: the table on the many side owns it.
Many-to-many: a join table, whose name is not among those taken. -/
def Relationship.addition (relationship : Relationship) (source target : Table)
    (taken : List String) : Except ModelFault Addition := do
  let (sourceEnd, targetEnd) ← relationship.cardinalities
  match sourceEnd.isSingle, targetEnd.isSingle with
  | true, true => foreignKeyAddition relationship.id source target targetEnd true
  | true, false => foreignKeyAddition relationship.id target source sourceEnd false
  | false, true => foreignKeyAddition relationship.id source target targetEnd false
  | false, false => joinTableAddition relationship.id source target taken

end ClassDiagram
