import ClassDiagram.Diagram
import ClassDiagram.Json.Shape

/-!
# Diagrams in JSON

The shape in which a diagram editor hands a diagram over. An element may have a position, which
is checked and left out.
-/

namespace ClassDiagram

namespace Json

def requiredField {α : Type} (name : String) (read : α → ValueReader α) : FieldRule α :=
  { name, required := true, read }

def optionalField {α : Type} (name : String) (read : α → ValueReader α) : FieldRule α :=
  { name, required := false, read }

def positionShape : Shape Unit :=
  { name := "Position"
    fields :=
      [requiredField "x" fun _ => checkNumber,
        requiredField "y" fun _ => checkNumber]
    blank := () }

def elementShape : Shape Element :=
  { name := "Element"
    fields :=
      [requiredField "id" fun element value => do
          return { element with id := ← readString value },
        requiredField "className" fun element value => do
          return { element with className := ← readString value },
        optionalField "attributes" fun element value => do
          return { element with attributes := ← readList readString value },
        optionalField "methods" fun element value => do
          return { element with methods := ← readList readString value },
        optionalField "elementType" fun element value => do
          return { element with kind := ← readChoice ElementKind.all ElementKind.name value },
        optionalField "position" fun element value => do
          positionShape.read value
          return element]
    blank := { id := "", className := "", attributes := [], methods := [], kind := .classKind } }

def relationshipShape : Shape Relationship :=
  { name := "Relationship"
    fields :=
      [requiredField "id" fun relationship value => do
          return { relationship with id := ← readString value },
        requiredField "sourceId" fun relationship value => do
          return { relationship with sourceId := ← readString value },
        requiredField "targetId" fun relationship value => do
          return { relationship with targetId := ← readString value },
        optionalField "relationship" fun relationship value => do
          let kind ← readChoice RelationshipKind.all RelationshipKind.name value
          return { relationship with kind },
        optionalField "sourceCardinality" fun relationship value => do
          return { relationship with sourceCardinality := ← readString value },
        optionalField "targetCardinality" fun relationship value => do
          return { relationship with targetCardinality := ← readString value }]
    blank :=
      { id := ""
        sourceId := ""
        targetId := ""
        kind := .association
        sourceCardinality := ""
        targetCardinality := "" } }

def diagramShape : Shape Diagram :=
  { name := "LogicalModel"
    fields :=
      [optionalField "elements" fun diagram value => do
          return { diagram with elements := ← readList elementShape.read value },
        optionalField "relationships" fun diagram value => do
          return { diagram with relationships := ← readList relationshipShape.read value }]
    blank := { elements := [], relationships := [] } }

end Json

/-- The diagram that a JSON text describes. -/
def Diagram.ofJson (text : String) : Except Json.JsonFault Diagram :=
  Json.diagramShape.ofText text

end ClassDiagram
