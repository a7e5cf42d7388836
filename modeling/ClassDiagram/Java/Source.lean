import ClassDiagram.Java.Field
import ClassDiagram.Text.Words

/-!
# Java source text

Sources are put together line by line. A block is a head, the lines inside its braces and the
closing brace. A compilation unit starts with its package and its imports, which are sorted, those
of the Java library behind the others.
-/

namespace ClassDiagram

open Text

def indent (line : String) : String :=
  if line.isEmpty then line else "    " ++ line

def block (head : String) (body : List String) : List String :=
  (head ++ " \x7b") :: body.map indent ++ ["\x7d"]

/-- The lines with a line end behind each. -/
def unlines (lines : List String) : String :=
  String.join (lines.map fun line => line ++ "\n")

/-- Lines of which all but the last are followed by a comma. -/
def separated : List String → List String
  | [] => []
  | [line] => [line]
  | line :: rest => (line ++ ",") :: separated rest

def isLibraryImport (qualified : String) : Bool :=
  "java.".toList.isPrefixOf qualified.toList

def importLine (qualified : String) : String :=
  s!"import {qualified};"

/-- The import lines in two groups, each with an empty line behind it. -/
def importLines (imports : List String) : List String :=
  let sorted := imports.eraseDups.mergeSort fun left right => left ≤ right
  let group := fun (lines : List String) => if lines.isEmpty then [] else lines ++ [""]
  group ((sorted.filter fun qualified => !isLibraryImport qualified).map importLine)
    ++ group ((sorted.filter isLibraryImport).map importLine)

def sourceFile (package : String) (imports body : List String) : String :=
  unlines ([s!"package {package};", ""] ++ importLines imports ++ body)

/-- What a class offers for the reading and writing of one of its fields. -/
structure Property where
  name : String
  javaType : String
  deriving DecidableEq, Repr

namespace Property

def getter (name : String) : String :=
  "get" ++ capitalized name

def setter (name : String) : String :=
  "set" ++ capitalized name

def declaration (property : Property) : String :=
  s!"private {property.javaType} {property.name};"

def accessors (property : Property) : List String :=
  let name := property.name
  "" :: block s!"public {property.javaType} {getter name}()" [s!"return {name};"]
    ++ "" :: block s!"public void {setter name}({property.javaType} {name})"
      [s!"this.{name} = {name};"]

end Property

def Field.property (field : Field) : Property :=
  { name := field.name, javaType := field.javaType }

end ClassDiagram
