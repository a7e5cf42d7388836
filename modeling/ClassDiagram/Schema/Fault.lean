import ClassDiagram.Declaration

/-!
# Faults

Everything that can be wrong with a diagram or with a schema, as causes with the data that belongs
to them, and the sentences in which they are reported.
-/

namespace ClassDiagram

/-- The two ends of a relationship. -/
inductive RelationshipEnd where
  | source
  | target
  deriving DecidableEq, Repr

def RelationshipEnd.name : RelationshipEnd → String
  | .source => "source"
  | .target => "target"

/-- A broken rule about the tables and links of a schema. -/
inductive StructureFault where
  | misplacedTable (table key : String)
  | repeatedColumn (table column : String)
  | missingReferencedTable (table column referenced : String)
  | missingReferencedColumn (table column referenced referencedColumn : String)
  | joinKey (table : String)
  | keyCount (table : String) (count : Nat)
  | missingParent (table parent : String)
  | missingLinkedTable (link table : String)
  | noLinkColumn (link : String)
  | wrongLinkColumn (link owner column referenced : String)
  | noJoinTableName (link : String)
  | notJoinTable (link table : String)
  | missingJoinTable (link table : String)
  | noPrimaryKey (table : String)
  deriving DecidableEq, Repr

def StructureFault.message : StructureFault → String
  | .misplacedTable table key => s!"table `{table}` is stored under key `{key}`"
  | .repeatedColumn table column => s!"table `{table}` repeats column `{column}`"
  | .missingReferencedTable table column referenced =>
    s!"column `{table}.{column}` references missing table `{referenced}`"
  | .missingReferencedColumn table column referenced referencedColumn =>
    s!"column `{table}.{column}` references missing column `{referenced}.{referencedColumn}`"
  | .joinKey table => s!"join table `{table}` must have a composite key of two foreign keys"
  | .keyCount table count => s!"table `{table}` has {count} primary key columns, expected 1"
  | .missingParent table parent => s!"table `{table}` inherits from missing table `{parent}`"
  | .missingLinkedTable link table => s!"relationship `{link}` references missing table `{table}`"
  | .noLinkColumn link => s!"foreign-key relationship `{link}` has no column"
  | .wrongLinkColumn link owner column referenced =>
    s!"relationship `{link}` expects column `{owner}.{column}` referencing `{referenced}`"
  | .noJoinTableName link => s!"join-table relationship `{link}` has no join table name"
  | .notJoinTable link table =>
    s!"relationship `{link}` uses `{table}` which is not a join table"
  | .missingJoinTable link table =>
    s!"relationship `{link}` references missing join table `{table}`"
  | .noPrimaryKey table => s!"table `{table}` has no primary key"

/-- Why the inheritance relationships of a diagram do not form a hierarchy. -/
inductive HierarchyFault where
  | ownParent (relationship : String)
  | secondParent (existing relationship added : String)
  /-- The tables of the cycle, along the parents, beginning with the reported one. -/
  | cycle (first : String) (others : List String)
  deriving DecidableEq, Repr

def HierarchyFault.message : HierarchyFault → String
  | .ownParent relationship => s!"relationship `{relationship}` makes it its own parent"
  | .secondParent existing relationship added =>
    s!"already inherits from `{existing}`, relationship `{relationship}` adds `{added}`"
  | .cycle first others =>
    "inheritance cycle " ++ String.intercalate " -> " (first :: others ++ [first])

/-- A fault of a diagram, or of the schema that it leads to. -/
inductive ModelFault where
  | unknownType (token declaration element : String)
  | malformedAttribute (declaration element : String) (reason : DeclarationFault)
  | malformedMethod (signature element : String) (reason : DeclarationFault)
  | danglingReference (relationship : String) (endpoint : RelationshipEnd) (elementId : String)
  | ambiguousCardinality (relationship sourceCardinality targetCardinality : String)
  | duplicateTableName (table first second : String)
  | duplicateColumnName (table column : String)
  | duplicateElementId (id : String)
  | inheritanceConflict (table : String) (reason : HierarchyFault)
  | invalidSchema (reason : StructureFault)
  deriving DecidableEq, Repr

def ModelFault.message : ModelFault → String
  | .unknownType token declaration element =>
    s!"unknown type `{token}` in attribute `{declaration}` of `{element}`"
  | .malformedAttribute declaration element reason =>
    s!"malformed attribute `{declaration}` in `{element}`: " ++ reason.message
  | .malformedMethod signature element reason =>
    s!"malformed method `{signature}` in `{element}`: " ++ reason.message
  | .danglingReference relationship endpoint elementId =>
    s!"relationship `{relationship}` " ++ endpoint.name
      ++ s!" references unknown element `{elementId}`"
  | .ambiguousCardinality relationship sourceCardinality targetCardinality =>
    s!"relationship `{relationship}` has unresolvable cardinality `{sourceCardinality}` -> "
      ++ s!"`{targetCardinality}`"
  | .duplicateTableName table first second =>
    s!"elements `{first}` and `{second}` both normalize to table `{table}`"
  | .duplicateColumnName table column =>
    s!"table `{table}` declares column `{column}` more than once"
  | .duplicateElementId id => s!"element id `{id}` is used more than once"
  | .inheritanceConflict table reason =>
    s!"inheritance conflict on `{table}`: " ++ reason.message
  | .invalidSchema reason => "invalid physical model: " ++ reason.message

/-- A report of several faults, a line for each. -/
def faultReport (faults : List ModelFault) : String :=
  String.intercalate "\n" (faults.map ModelFault.message)

end ClassDiagram
