import ClassDiagram.Diagram
import ClassDiagram.Conventions
import ClassDiagram.Schema.Hierarchy
import ClassDiagram.Schema.Addition
import ClassDiagram.Schema.Vocabulary

/-!
# From a diagram to its schema

Every class and abstract class becomes a table, every enumeration an enumeration, every structural
relationship between two tables a link. All faults are collected; a diagram with a fault has no
schema. Beside the result a journal of the decisions is kept.
-/

namespace ClassDiagram

open Text

/-- A decision taken while a schema is derived. -/
inductive DerivationNote where
  | duplicateEnum (name : String)
  | mappedElement (table : String) (columns : Nat)
  | dependency (relationship : String)
  | realizationOutside (relationship : String)
  | skippedRelationship (relationship : String) (kind : RelationshipKind)
  | joinedInheritance (table : String) (parent : Option String)
  | foreignKey (relationship owner column : String)
  | joinTable (relationship table : String)
  | rejected (faults : Nat)
  | derived (tables links enums : Nat)
  deriving DecidableEq, Repr

/-- The schema as far as it has been derived, with the faults and notes so far. -/
structure Draft where
  schema : Schema
  faults : List ModelFault
  notes : List DerivationNote

def Draft.blame (draft : Draft) (faults : List ModelFault) : Draft :=
  { draft with faults := draft.faults ++ faults }

def Draft.note (draft : Draft) (notes : List DerivationNote) : Draft :=
  { draft with notes := draft.notes ++ notes }

/-- A fault for every element whose id has been used before. -/
def duplicateIds (seen : List String) : List Element → List ModelFault
  | [] => []
  | element :: rest =>
    (if seen.contains element.id then [.duplicateElementId element.id] else [])
      ++ duplicateIds (element.id :: seen) rest

def Element.enumType (element : Element) : EnumType :=
  { name := trimmed element.className
    constants :=
      (element.attributes.filterMap fun declaration =>
        (readConstant declaration).toOption).eraseDups }

def Element.constantFaults (element : Element) : List ModelFault :=
  element.attributes.filterMap fun declaration =>
    match readConstant declaration with
    | .ok _ => none
    | .error reason => some (.malformedAttribute declaration element.className reason)

/-- Of several enumerations with one name the first counts. -/
def Draft.addEnum (draft : Draft) (element : Element) : Draft :=
  let enumType := element.enumType
  let draft := draft.blame element.constantFaults
  if draft.schema.enums.contains enumType.name then draft.note [.duplicateEnum enumType.name]
  else
    { draft with
      schema := { draft.schema with
        enums := draft.schema.enums.insert enumType.name enumType } }

/-- `id`, `id_<table>` and `<table>_id` name the key of a table. -/
def namesKey (table column : String) : Bool :=
  column == "id" || column == "id_" ++ table || column == table ++ "_id"

/-- The key of a table whose element declares none. -/
def surrogateKey : Column :=
  { name := "id"
    sqlType := "BIGINT"
    javaType := "Long"
    nullable := false
    primaryKey := true
    unique := false
    generated := true
    references := none }

/-- What a type token stands for; the enumerations of the diagram go first. -/
def typingIn? (enums : Catalog EnumType) (token : String) : Option Typing :=
  match enums.find? token with
  | some enumType => some (Typing.ofEnum enumType.name)
  | none => typing? token

def Element.readAttribute (element : Element) (enums : Catalog EnumType) (declaration : String) :
    Except ModelFault (Attribute × Typing) :=
  match Attribute.read declaration with
  | .error reason => .error (.malformedAttribute declaration element.className reason)
  | .ok declared =>
    match typingIn? enums declared.typeToken with
    | some typing => .ok (declared, typing)
    | none =>
      .error (.unknownType declared.typeToken (trimmed declaration) element.className)

def declaredColumn (declared : Attribute) (typing : Typing) (primaryKey : Bool) : Column :=
  { name := columnName declared.name
    sqlType := typing.sqlType
    javaType := typing.javaType
    nullable := !primaryKey && (declared.optional || typing.nullableByDefault)
    primaryKey
    unique := false
    generated := primaryKey && typing.isIntegral
    references := none }

/-- The columns that declarations add behind those already there, and the faults found. Only the
first column with a key name becomes the key. -/
def Element.declaredColumns (element : Element) (enums : Catalog EnumType) (table : String)
    (columns : List Column) : List String → List Column × List ModelFault
  | [] => (columns, [])
  | declaration :: rest =>
    match element.readAttribute enums declaration with
    | .error fault =>
      let (all, faults) := element.declaredColumns enums table columns rest
      (all, fault :: faults)
    | .ok (declared, typing) =>
      let name := columnName declared.name
      if columns.any fun column => column.name == name then
        let (all, faults) := element.declaredColumns enums table columns rest
        (all, .duplicateColumnName table name :: faults)
      else
        let primaryKey := !columns.any Column.primaryKey && namesKey table name
        element.declaredColumns enums table
          (columns ++ [declaredColumn declared typing primaryKey]) rest

/-- A key is put in front if there is none. -/
def withKey (columns : List Column) : List Column :=
  if columns.any Column.primaryKey then columns else surrogateKey :: columns

def Element.declaredMethods (element : Element) : List Method :=
  element.methods.filterMap fun signature => (Method.read signature).toOption

def Element.methodFaults (element : Element) : List ModelFault :=
  element.methods.filterMap fun signature =>
    match Method.read signature with
    | .ok _ => none
    | .error reason => some (.malformedMethod signature element.className reason)

def Element.table (element : Element) (enums : Catalog EnumType) : Table × List ModelFault :=
  let name := tableName element.className
  let (columns, faults) := element.declaredColumns enums name [] element.attributes
  ({ name
     columns := withKey columns
     elementId := some element.id
     parent := none
     isAbstract := element.kind == .abstractKind
     methods := element.declaredMethods },
    faults ++ element.methodFaults)

/-- A draft, and the table of every element id that has one, the latest first. -/
structure TableDraft extends Draft where
  tableOf : List (String × String)

def TableDraft.addTable (draft : TableDraft) (element : Element) : TableDraft :=
  let name := tableName element.className
  match draft.schema.table? name with
  | some existing =>
    { draft with
      toDraft := draft.blame
        [.duplicateTableName name (existing.elementId.getD "") element.id] }
  | none =>
    let (table, faults) := element.table draft.schema.enums
    let schema := { draft.schema with tables := draft.schema.tables.insert name table }
    { toDraft := ({ draft.toDraft with schema }.blame faults).note
        [.mappedElement name table.columns.length]
      tableOf := (element.id, name) :: draft.tableOf }

/-- What becomes of a relationship. -/
inductive Placement where
  | dangling (faults : List ModelFault)
  | dropped (note : DerivationNote)
  | hierarchy (edge : HierarchyEdge)
  | structural (source target : String)

def Relationship.danglingFaults (relationship : Relationship) (ids : List String) :
    List ModelFault :=
  [(RelationshipEnd.source, relationship.sourceId),
    (RelationshipEnd.target, relationship.targetId)].filterMap fun endpoint =>
      if ids.contains endpoint.2 then none
      else some (.danglingReference relationship.id endpoint.1 endpoint.2)

def Relationship.placement (relationship : Relationship) (ids : List String)
    (tableOf : List (String × String)) : Placement :=
  match relationship.danglingFaults ids with
  | fault :: faults => .dangling (fault :: faults)
  | [] =>
    match relationship.kind.family, tableOf.lookup relationship.sourceId,
      tableOf.lookup relationship.targetId with
    | .nonStructural, _, _ => .dropped (.dependency relationship.id)
    | .inheritance, some child, some parent =>
      .hierarchy { relationship := relationship.id, child, parent }
    | .inheritance, _, _ => .dropped (.realizationOutside relationship.id)
    | .structural, some source, some target => .structural source target
    | .structural, _, _ => .dropped (.skippedRelationship relationship.id relationship.kind)

def Placement.faults : Placement → List ModelFault
  | .dangling faults => faults
  | _ => []

def Placement.notes : Placement → List DerivationNote
  | .dropped note => [note]
  | _ => []

def Placement.edge? : Placement → Option HierarchyEdge
  | .hierarchy edge => some edge
  | _ => none

/-- A note for every child that has been fitted to its ancestors. -/
def fittingNotes (schema : Schema) : List DerivationNote :=
  schema.childNames.filterMap fun name =>
    (schema.fitChild? name).map fun _ => .joinedInheritance name (schema.parent? name)

def Draft.applyHierarchy (draft : Draft) (edges : List HierarchyEdge) : Draft :=
  let (linked, conflicts) := draft.schema.followEdges edges
  let cycles := linked.parentCycles.map ParentCycle.fault
  let broken := linked.withoutCycles
  { schema := broken.fitChildren
    faults := draft.faults ++ conflicts ++ cycles
    notes := draft.notes ++ fittingNotes broken }

def Schema.add (schema : Schema) : Addition → Schema
  | .foreignKey link column =>
    { schema with
      tables := schema.tables.modify link.owner fun owner =>
        { owner with columns := owner.columns ++ [column] }
      links := schema.links ++ [link] }
  | .joinTable link table =>
    { schema with
      tables := schema.tables.insert table.name table
      links := schema.links ++ [link] }

def Addition.note : Addition → DerivationNote
  | .foreignKey link column => .foreignKey link.id link.owner column.name
  | .joinTable link table => .joinTable link.id table.name

def Draft.addRelationship (draft : Draft) (relationship : Relationship)
    (source target : Table) : Draft :=
  match relationship.addition source target draft.schema.tables.names with
  | .ok addition =>
    { draft with schema := draft.schema.add addition }.note [addition.note]
  | .error fault => draft.blame [fault]

/-- A relationship and its place in the schema. -/
structure PlacedRelationship where
  relationship : Relationship
  placement : Placement

def Draft.addPlaced (draft : Draft) (placed : PlacedRelationship) : Draft :=
  match placed.placement with
  | .structural sourceName targetName =>
    match draft.schema.table? sourceName, draft.schema.table? targetName with
    | some source, some target => draft.addRelationship placed.relationship source target
    | _, _ => draft
  | _ => draft

namespace Diagram

def enumElements (diagram : Diagram) : List Element :=
  diagram.elements.filter fun element => element.kind == .enumKind

def storedElements (diagram : Diagram) : List Element :=
  diagram.elements.filter fun element => element.kind.isStored

def elementIds (diagram : Diagram) : List String :=
  diagram.elements.map Element.id

/-- The draft with all enumerations, then all tables of elements. -/
def elementDraft (diagram : Diagram) : TableDraft :=
  let start : Draft :=
    { schema := Schema.empty, faults := duplicateIds [] diagram.elements, notes := [] }
  let withEnums := diagram.enumElements.foldl Draft.addEnum start
  diagram.storedElements.foldl TableDraft.addTable { toDraft := withEnums, tableOf := [] }

def placedRelationships (diagram : Diagram) (tableOf : List (String × String)) :
    List PlacedRelationship :=
  diagram.relationships.map fun relationship =>
    { relationship, placement := relationship.placement diagram.elementIds tableOf }

/-- The draft with everything in it that the diagram says. -/
def draft (diagram : Diagram) : Draft :=
  let elements := diagram.elementDraft
  let placed := diagram.placedRelationships elements.tableOf
  let placements := placed.map PlacedRelationship.placement
  let sorted := (elements.toDraft.blame (placements.flatMap Placement.faults)).note
    (placements.flatMap Placement.notes)
  let joined := sorted.applyHierarchy (placements.filterMap Placement.edge?)
  placed.foldl Draft.addPlaced joined

end Diagram

/-- The schema of a diagram, or all its faults, with the journal of the derivation. -/
structure Derivation where
  outcome : Except (List ModelFault) Schema
  notes : List DerivationNote

def Draft.finish (draft : Draft) : Derivation :=
  if draft.faults.isEmpty then
    { outcome := .ok draft.schema
      notes := draft.notes ++
        [.derived draft.schema.tables.size draft.schema.links.length draft.schema.enums.size] }
  else
    { outcome := .error draft.faults
      notes := draft.notes ++ [.rejected draft.faults.length] }

def Diagram.derive (diagram : Diagram) : Derivation :=
  diagram.draft.finish

def Diagram.schema (diagram : Diagram) : Except (List ModelFault) Schema :=
  diagram.derive.outcome

end ClassDiagram
