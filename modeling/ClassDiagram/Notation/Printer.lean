import ClassDiagram.Diagram

/-!
# Printing the notation

The text of a diagram in the textual notation: the elements, then one block with all relationships.
The text mentions elements by their names, so it gives back a diagram whose ids are the names.
-/

namespace ClassDiagram.Notation

def kindText : ElementKind → String
  | .classKind => "class"
  | .abstractKind => "abstract class"
  | .interfaceKind => "interface"
  | .enumKind => "enum"

/-- Lines between braces, behind a head. -/
def blockText (head : String) (lines : List String) : String :=
  head ++ " \x7b\n" ++ String.join (lines.map fun line => "    " ++ line ++ "\n") ++ "\x7d\n"

def elementText (element : Element) : String :=
  blockText (kindText element.kind ++ " " ++ element.className)
    (element.attributes ++ element.methods)

/-- A cardinality between spaces; one space if there is none. -/
def cardinalityText (cardinality : String) : String :=
  if cardinality.isEmpty then " " else " " ++ cardinality ++ " "

def relationshipText (relationship : Relationship) : String :=
  relationship.sourceId ++ cardinalityText relationship.sourceCardinality ++ "--"
    ++ cardinalityText relationship.targetCardinality ++ relationship.targetId
    ++ " : " ++ relationship.kind.name ++ ";"

end ClassDiagram.Notation

namespace ClassDiagram

open Notation

/-- The text of a diagram in the notation. -/
def Diagram.toNotation (diagram : Diagram) : String :=
  String.join (diagram.elements.map elementText)
    ++ blockText "rel" (diagram.relationships.map relationshipText)

end ClassDiagram
