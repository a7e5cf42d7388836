/-!
# Fields of entities

The fields of an entity class, with what each of them stands for in the tables.
-/

namespace ClassDiagram

inductive FieldKind where
  | key (column : String) (generated : Bool)
  | scalar (column : String) (nullable unique enumerated : Bool)
  | manyToOne (column target : String) (nullable : Bool)
  /-- The side of a one-to-one association whose table has the foreign key. -/
  | oneToOne (column target : String) (nullable : Bool)
  | oneToOneInverse (target mappedBy : String)
  | oneToMany (target mappedBy : String)
  | manyToMany (target joinTable joinColumn inverseColumn : String)
  | manyToManyInverse (target mappedBy : String)
  /-- An association read through one key column of a join table. -/
  | joinReference (column target : String)
  deriving DecidableEq, Repr

structure Field where
  name : String
  javaType : String
  kind : FieldKind
  deriving DecidableEq, Repr

namespace Field

def isKey (field : Field) : Bool :=
  match field.kind with
  | .key .. => true
  | _ => false

/-- The column and the target of a foreign key that the entity's own table holds. -/
def foreignKey? (field : Field) : Option (String × String) :=
  match field.kind with
  | .manyToOne column target _ | .oneToOne column target _ => some (column, target)
  | _ => none

def isCollection (field : Field) : Bool :=
  match field.kind with
  | .oneToMany .. | .manyToMany .. | .manyToManyInverse .. => true
  | _ => false

end Field

def listOf (javaType : String) : String :=
  "List<" ++ javaType ++ ">"

end ClassDiagram
