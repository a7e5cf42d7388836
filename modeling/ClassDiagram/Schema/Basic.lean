import ClassDiagram.Declaration
import ClassDiagram.Schema.Catalog

/-!
# Relational schemas

Tables with typed columns, the links between them that stand for relationships of the diagram, and
the enumerations. A schema that has been put together by hand may break every rule about them;
`ClassDiagram.Schema.Validity` says which rules there are.
-/

namespace ClassDiagram

structure ColumnReference where
  table : String
  column : String
  deriving DecidableEq, Repr

structure Column where
  name : String
  sqlType : String
  javaType : String
  nullable : Bool
  primaryKey : Bool
  unique : Bool
  /-- The database gives the value. -/
  generated : Bool
  references : Option ColumnReference
  deriving DecidableEq, Repr

def Column.isForeignKey (column : Column) : Bool :=
  column.references.isSome

structure Table where
  name : String
  columns : List Column
  /-- The element that the table stores; join tables have none. -/
  elementId : Option String
  /-- The table whose rows this table's rows extend. -/
  parent : Option String
  isAbstract : Bool
  methods : List Method
  deriving DecidableEq, Repr

namespace Table

def isJoin (table : Table) : Bool :=
  table.elementId.isNone

def columnNames (table : Table) : List String :=
  table.columns.map Column.name

def column? (table : Table) (name : String) : Option Column :=
  table.columns.find? fun column => column.name == name

def hasColumn (table : Table) (name : String) : Bool :=
  table.columns.any fun column => column.name == name

/-- The key column; a table of an element has one only. -/
def primaryKey? (table : Table) : Option Column :=
  table.columns.find? Column.primaryKey

def keyColumns (table : Table) : List Column :=
  table.columns.filter Column.primaryKey

end Table

inductive LinkKind where
  | foreignKey
  | joinTable
  deriving DecidableEq, Repr

/-- A relationship of the diagram as it is kept in the tables. -/
structure Link where
  id : String
  kind : LinkKind
  owner : String
  referenced : String
  joinTable : Option String
  /-- The foreign-key column of the owner. -/
  column : Option String
  deriving DecidableEq, Repr

structure EnumType where
  name : String
  constants : List String
  deriving DecidableEq, Repr

structure Schema where
  tables : Catalog Table
  links : List Link
  enums : Catalog EnumType
  deriving DecidableEq

namespace Schema

def empty : Schema :=
  { tables := Catalog.empty, links := [], enums := Catalog.empty }

def table? (schema : Schema) (name : String) : Option Table :=
  schema.tables.find? name

def hasChildren (schema : Schema) (table : String) : Bool :=
  schema.tables.values.any fun child => child.parent == some table

end Schema

end ClassDiagram
