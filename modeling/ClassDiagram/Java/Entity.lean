import ClassDiagram.Fresh
import ClassDiagram.Java.Field
import ClassDiagram.Conventions
import ClassDiagram.Schema.Ancestry

/-!
# Entities

Every table is seen as an entity class. Its fields come in three groups: those of its own columns,
the inverse sides of the foreign keys that refer to it, and the collections that lead through join
tables. Names that are taken give way: the fields of ancestors count as taken for their children.
-/

namespace ClassDiagram

open Text

structure Entity where
  table : Table
  fields : List Field
  deriving DecidableEq, Repr

namespace Entity

def typeName (entity : Entity) : String :=
  ClassDiagram.typeName entity.table.name

def parentType? (entity : Entity) : Option String :=
  entity.table.parent.map ClassDiagram.typeName

/-- The entity is offered by the web service: it can be found and changed by its key. -/
def isServed (entity : Entity) : Bool :=
  !entity.table.isJoin && !entity.table.isAbstract

def keyFields (entity : Entity) : List Field :=
  entity.fields.filter Field.isKey

def ownKey? (entity : Entity) : Option Field :=
  if entity.table.isJoin then none else entity.fields.find? Field.isKey

end Entity

def isDigits (text : List Char) : Bool :=
  text.all Char.isDigit

/-- What stands before a suffix, if that is not everything. -/
def stem? (suffix text : List Char) : Option (List Char) :=
  if suffix.isSuffixOf text && suffix.length < text.length then
    some (text.take (text.length - suffix.length))
  else none

/-- The name of an association, from its column and the column referred to: `user_id` gives
`user`, and `user_id_2` gives `user_2`. -/
def associationStem (column referenced : String) : String :=
  let suffix := '_' :: referenced.toList
  match stem? suffix column.toList with
  | some stem => String.ofList stem
  | none =>
    match splitLast '_' column.toList with
    | none => column ++ "_ref"
    | some (front, number) =>
      match stem? suffix front with
      | some stem =>
        if isDigits number then String.ofList (stem ++ '_' :: number) else column ++ "_ref"
      | none => column ++ "_ref"

/-- The fields made for a table, and the names that no further field of it may have. -/
structure FieldDraft where
  fields : List Field
  taken : List String

def FieldDraft.add (draft : FieldDraft) (candidates : List String) (javaType : String)
    (kind : FieldKind) : FieldDraft :=
  let name := freshAmong candidates draft.taken
  { fields := draft.fields ++ [{ name, javaType, kind }], taken := name :: draft.taken }

/-- The fields of one column: a key column of a join table gives a key and an association. -/
def FieldDraft.addColumn (schema : Schema) (table : Table) (draft : FieldDraft)
    (column : Column) : FieldDraft :=
  match column.references, column.primaryKey with
  | some reference, true =>
    let withKey := draft.add [fieldName column.name] column.javaType
      (.key column.name (column.generated && !table.isJoin))
    if table.isJoin then
      withKey.add [fieldName (associationStem column.name reference.column)]
        (typeName reference.table) (.joinReference column.name reference.table)
    else withKey
  | none, true =>
    draft.add [fieldName column.name] column.javaType (.key column.name column.generated)
  | some reference, false =>
    draft.add [fieldName (associationStem column.name reference.column)] (typeName reference.table)
      (if column.unique then .oneToOne column.name reference.table column.nullable
        else .manyToOne column.name reference.table column.nullable)
  | none, false =>
    draft.add [fieldName column.name] column.javaType
      (.scalar column.name column.nullable column.unique (schema.enums.contains column.javaType))

/-- The names of an ancestor's fields that a child inherits. -/
def inheritedFieldNames (schema : Schema) (drafts : Catalog FieldDraft) (table : Table) :
    List String :=
  (schema.ancestors table.name).flatMap fun ancestor =>
    match drafts.find? ancestor.name with
    | none => []
    | some draft => (draft.fields.filter fun field => !field.isKey).map Field.name

/-- The fields of a table's own columns, when those of its ancestors are known. -/
def columnFields (schema : Schema) (drafts : Catalog FieldDraft) (table : Table) : FieldDraft :=
  table.columns.foldl (FieldDraft.addColumn schema table)
    { fields := [], taken := inheritedFieldNames schema drafts table }

/-- The tables, ancestors before descendants. -/
def Schema.rootsFirst (schema : Schema) : List Table :=
  schema.tables.values.mergeSort fun left right =>
    (schema.ancestors left.name).length ≤ (schema.ancestors right.name).length

/-- The fields of the tables' own columns, as far as they have been made. -/
structure OwnFields where
  drafts : Catalog FieldDraft
  /-- The names of the association fields by table and column, the latest first. -/
  owned : List ((String × String) × String)

def OwnFields.addTable (schema : Schema) (known : OwnFields) (table : Table) : OwnFields :=
  let draft := columnFields schema known.drafts table
  let owned := draft.fields.filterMap fun field =>
    field.foreignKey?.map fun reference => ((table.name, reference.1), field.name)
  { drafts := known.drafts.insert table.name draft, owned := owned.reverse ++ known.owned }

def Schema.ownFields (schema : Schema) : OwnFields :=
  schema.rootsFirst.foldl (OwnFields.addTable schema) { drafts := Catalog.empty, owned := [] }

/-- An entity in the making. -/
structure EntityDraft where
  table : Table
  fields : FieldDraft

def EntityDraft.entity (draft : EntityDraft) : Entity :=
  { table := draft.table, fields := draft.fields.fields }

def EntityDraft.add (draft : EntityDraft) (candidates : List String) (javaType : String)
    (kind : FieldKind) : EntityDraft :=
  { draft with fields := draft.fields.add candidates javaType kind }

/-- The entities with the fields of their own columns. The fields go to the first table of a
name. -/
def Schema.ownEntities (schema : Schema) (drafts : Catalog FieldDraft) : Catalog EntityDraft :=
  schema.tables.values.foldl
    (fun entities table =>
      let known := (drafts.find? table.name).getD { fields := [], taken := [] }
      let fields := if entities.contains table.name then { known with fields := [] } else known
      entities.insert table.name { table, fields })
    Catalog.empty

/-- The inverse side of a foreign key, on the entity that it refers to. -/
def inverseField (table : Table) (column : Column) (mappedBy : String) (draft : EntityDraft) :
    EntityDraft :=
  let owner := fieldName table.name
  let qualified := owner ++ "By" ++ capitalized mappedBy
  if column.unique then
    draft.add [owner, qualified] (typeName table.name) (.oneToOneInverse table.name mappedBy)
  else
    draft.add [owner ++ "List", qualified ++ "List"] (listOf (typeName table.name))
      (.oneToMany table.name mappedBy)

def addInverse (owned : List ((String × String) × String)) (table : Table)
    (entities : Catalog EntityDraft) (column : Column) : Catalog EntityDraft :=
  match column.references, owned.lookup (table.name, column.name) with
  | some reference, some mappedBy =>
    entities.modify reference.table (inverseField table column mappedBy)
  | _, _ => entities

def addInverses (owned : List ((String × String) × String)) (entities : Catalog EntityDraft)
    (table : Table) : Catalog EntityDraft :=
  (table.columns.filter fun column => !column.primaryKey).foldl (addInverse owned table) entities

/-- The owner and the target of a many-to-many association. An owner that is not written, because
it was written before, cannot gain a field and gives its part to the target. -/
def joinSides (written : List String) (link : Link) : String × String :=
  if !written.contains link.owner && written.contains link.referenced then
    (link.referenced, link.owner)
  else (link.owner, link.referenced)

def refersTo (table : String) (column : Column) : Bool :=
  column.references.any fun reference => reference.table == table

/-- The key column of a join table that refers to the owner, and the first other one. -/
def joinColumns? (keys : List Column) (owner : String) : Option (Column × Column) :=
  match keys.findIdx? (refersTo owner) with
  | none => none
  | some place =>
    match keys[place]?, (keys.eraseIdx place).head? with
    | some joinColumn, some inverse => some (joinColumn, inverse)
    | _, _ => none

/-- The collections on both sides of a join table. -/
def addJoin (schema : Schema) (written : List String) (entities : Catalog EntityDraft)
    (link : Link) : Catalog EntityDraft :=
  let (owner, target) := joinSides written link
  match link.joinTable.bind schema.table? with
  | none => entities
  | some join =>
    match joinColumns? join.keyColumns owner, entities.find? owner with
    | some (joinColumn, inverse), some ownerDraft =>
      let mappedBy := freshAmong [fieldName target ++ "List"] ownerDraft.fields.taken
      let withOwner := entities.modify owner fun draft =>
        draft.add [fieldName target ++ "List"] (listOf (typeName target))
          (.manyToMany target join.name joinColumn.name inverse.name)
      let base := fieldName owner
      withOwner.modify target fun draft =>
        draft.add [base ++ "List", base ++ "By" ++ capitalized mappedBy ++ "List"]
          (listOf (typeName owner)) (.manyToManyInverse owner mappedBy)
    | _, _ => entities

def Schema.joinLinks (schema : Schema) : List Link :=
  schema.links.filter fun link => link.kind == .joinTable

/-- The entities of a schema by the names of their tables, when classes are written for some of
the tables. -/
def Schema.entities (schema : Schema) (written : List String) : Catalog Entity :=
  let own := schema.ownFields
  let withInverses :=
    schema.tables.values.foldl (addInverses own.owned) (schema.ownEntities own.drafts)
  (schema.joinLinks.foldl (addJoin schema written) withInverses).map EntityDraft.entity

end ClassDiagram
