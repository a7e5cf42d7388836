import ClassDiagram.Schema.Basic

/-!
# Growth of a schema

A later schema is compared with an earlier one by the names of its tables and enumerations. Only
what is new counts: a table that was there before stays as it was, even if its columns differ now.
-/

namespace ClassDiagram

namespace Schema

/-- The tables of the later schema whose names the earlier one lacks. -/
def newTables (base candidate : Schema) : List Table :=
  candidate.tables.values.filter fun table => !base.tables.contains table.name

/-- The names of the enumerations that the earlier schema lacks. -/
def newEnums (base candidate : Schema) : List String :=
  candidate.enums.names.filter fun name => !base.enums.contains name

/-- A link belongs to the table that keeps it: the owner of the foreign key, or the join table. -/
def isKeptIn (tables : List String) (link : Link) : Bool :=
  match link.kind with
  | .foreignKey => tables.contains link.owner
  | .joinTable => link.joinTable.any fun name => tables.contains name

/-- The earlier schema with new tables, the links kept in them, and new enumerations. -/
def mergeTables (base : Schema) (added : List Table) (candidate : Schema) : Schema :=
  { tables := added.foldl (fun tables table => tables.insert table.name table) base.tables
    links := base.links ++ candidate.links.filter (isKeptIn (added.map Table.name))
    enums := candidate.enums.entries.foldl
      (fun enums entry => if enums.contains entry.1 then enums else enums.insert entry.1 entry.2)
      base.enums }

/-- The earlier schema with all that is new in the later one. -/
def merge (base candidate : Schema) : Schema :=
  base.mergeTables (base.newTables candidate) candidate

end Schema

end ClassDiagram
