import ClassDiagram.Schema.Ancestry
import ClassDiagram.Schema.Fault

/-!
# Hierarchies of tables

Inheritance is kept in joined tables: the key of a child refers to the key of its parent, and a
child has no column that one of its ancestors declares. The parents are assigned first, edge by
edge; then cycles are broken up; then the children are fitted to their ancestors.
-/

namespace ClassDiagram

/-- A relationship that makes one table the child of another. -/
structure HierarchyEdge where
  relationship : String
  child : String
  parent : String
  deriving DecidableEq, Repr

namespace Schema

def setParent (schema : Schema) (name : String) (parent : Option String) : Schema :=
  { schema with tables := schema.tables.modify name fun table => { table with parent } }

def parent? (schema : Schema) (name : String) : Option String :=
  (schema.table? name).bind Table.parent

/-- Follows an edge, or says why it cannot be followed. -/
def followEdge (schema : Schema) (edge : HierarchyEdge) : Except ModelFault Schema :=
  if edge.child = edge.parent then
    .error (.inheritanceConflict edge.child (.ownParent edge.relationship))
  else
    match schema.parent? edge.child with
    | none => .ok (schema.setParent edge.child (some edge.parent))
    | some existing =>
      if existing = edge.parent then .ok schema
      else
        .error (.inheritanceConflict edge.child
          (.secondParent existing edge.relationship edge.parent))

/-- The schema after all edges that can be followed, and the faults of the others. -/
def followEdges (schema : Schema) : List HierarchyEdge → Schema × List ModelFault
  | [] => (schema, [])
  | edge :: rest =>
    match schema.followEdge edge with
    | .ok next => next.followEdges rest
    | .error fault =>
      let (last, faults) := schema.followEdges rest
      (last, fault :: faults)

end Schema

/-- Tables of which each is the parent of the one before, and the first of the last. -/
structure ParentCycle where
  first : String
  others : List String
  deriving DecidableEq, Repr

def ParentCycle.members (cycle : ParentCycle) : List String :=
  cycle.first :: cycle.others

def ParentCycle.fault (cycle : ParentCycle) : ModelFault :=
  .inheritanceConflict cycle.first (.cycle cycle.first cycle.others)

namespace Schema

/-- The cycle on which a table lies, if the walk along the parents comes back to it. -/
def cycleFrom (schema : Schema) (first : String) (others : List String) :
    Option String → Option ParentCycle
  | none => none
  | some name =>
    if name = first then some { first, others }
    else if hmet : name ∈ others then none
    else if hname : name ∈ schema.tables.names then
      have hfewer :
          (schema.tables.names.filter fun other => !(others ++ [name]).contains other).length
          < (schema.tables.names.filter fun other => !others.contains other).length := by
        refine length_filter_lt_length_filter ?_ hname ?_ ?_
        · intro other hkept
          simp only [List.contains_append, Bool.not_or, Bool.and_eq_true] at hkept
          exact hkept.1
        · simpa using hmet
        · simp
      schema.cycleFrom first (others ++ [name]) (schema.parent? name)
    else none
termination_by (schema.tables.names.filter fun other => !others.contains other).length
decreasing_by exact hfewer

/-- The cycles among the tables, each found at its first table. -/
def parentCycles (schema : Schema) : List ParentCycle :=
  schema.tables.names.foldl
    (fun found name =>
      if found.any fun cycle => cycle.members.contains name then found
      else found ++ (schema.cycleFrom name [] (schema.parent? name)).toList)
    []

/-- The schema in which no table that lies on a cycle has a parent. -/
def withoutCycles (schema : Schema) : Schema :=
  (schema.parentCycles.flatMap ParentCycle.members).foldl
    (fun schema name => schema.setParent name none) schema

end Schema

def modifyFirstKey (change : Column → Column) : List Column → List Column
  | [] => []
  | column :: rest =>
    if column.primaryKey then change column :: rest else column :: modifyFirstKey change rest

/-- The key of a child: it refers to the parent's key and has the type of the root's. -/
def childKey (parent : Table) (parentKey rootKey key : Column) : Column :=
  { key with
    sqlType := rootKey.sqlType
    javaType := rootKey.javaType
    nullable := false
    generated := false
    references := some { table := parent.name, column := parentKey.name } }

/-- The names of the columns that the ancestors have beside their keys. -/
def inheritedNames (ancestors : List Table) : List String :=
  (ancestors.flatMap fun table => table.columns.filter fun column => !column.primaryKey).map
    Column.name

def Table.fitTo (child : Table) (ancestors : List Table) (parent : Table)
    (parentKey rootKey : Column) : Table :=
  let inherited := inheritedNames ancestors
  let kept := child.columns.filter fun column =>
    column.primaryKey || !inherited.contains column.name
  { child with columns := modifyFirstKey (childKey parent parentKey rootKey) kept }

namespace Schema

/-- The schema with a child fitted to its ancestors, unless it has none or a key is missing. -/
def fitChild? (schema : Schema) (name : String) : Option Schema := do
  let ancestors := schema.ancestors name
  let parent ← ancestors.head?
  let root ← ancestors.getLast?
  let parentKey ← parent.primaryKey?
  let rootKey ← root.primaryKey?
  return { schema with
    tables := schema.tables.modify name fun child =>
      child.fitTo ancestors parent parentKey rootKey }

def childNames (schema : Schema) : List String :=
  (schema.tables.values.filter fun table => table.parent.isSome).map Table.name

/-- All children fitted, one after the other in the order of the tables. -/
def fitChildren (schema : Schema) : Schema :=
  schema.childNames.foldl (fun schema name => (schema.fitChild? name).getD schema) schema

end Schema

end ClassDiagram
