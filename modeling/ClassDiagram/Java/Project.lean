import ClassDiagram.Identifier
import ClassDiagram.Text.Blank
import ClassDiagram.Text.Split
import ClassDiagram.Text.Words

/-!
# Java projects

A project has a name and a base package, of dotted Java identifiers, under which every generated
class lies. The sources of a package lie in the directory of its name.
-/

namespace ClassDiagram

open Text

def javaReservedWords : List String :=
  ["abstract", "assert", "boolean", "break", "byte", "case", "catch", "char", "class", "const",
    "continue", "default", "do", "double", "else", "enum", "extends", "final", "finally", "float",
    "for", "goto", "if", "implements", "import", "instanceof", "int", "interface", "long",
    "native", "new", "package", "private", "protected", "public", "return", "short", "static",
    "strictfp", "super", "switch", "synchronized", "this", "throw", "throws", "transient", "try",
    "void", "volatile", "while", "true", "false", "null"]

def isJavaName (name : List Char) : Bool :=
  isIdentifier name && !javaReservedWords.contains (String.ofList name)

structure JavaProject where
  basePackage : String
  name : String
  deriving DecidableEq, Repr

inductive ProjectFault where
  | invalidPackage (package : String)
  | invalidName (name : String)
  deriving DecidableEq, Repr

def ProjectFault.message : ProjectFault → String
  | .invalidPackage package =>
    s!"invalid base package `{package}`: expected dotted Java identifiers"
  | .invalidName name => s!"invalid project name `{name}`"

def isPackage (package : List Char) : Bool :=
  (splitEvery '.' package).all isJavaName

def isProjectName (name : List Char) : Bool :=
  !name.isEmpty && name.all fun c => isAlphanumeric c || c == '-' || c == '_'

namespace JavaProject

def defaultPackage : String := "com.example.demo"

def defaultName : String := "demo"

/-- The project of a package and a name, blanks around them left aside. -/
def of (basePackage name : String) : Except ProjectFault JavaProject :=
  let package := trim basePackage.toList
  let title := trim name.toList
  if !isPackage package then .error (.invalidPackage (String.ofList package))
  else if !isProjectName title then .error (.invalidName (String.ofList title))
  else .ok { basePackage := String.ofList package, name := String.ofList title }

def ofOptions (basePackage name : Option String) : Except ProjectFault JavaProject :=
  of (basePackage.getD defaultPackage) (name.getD defaultName)

/-- The package of one layer of the sources. -/
def package (project : JavaProject) (layer : String) : String :=
  project.basePackage ++ "." ++ layer

/-- The directory of the base package. -/
def sourceFolder (project : JavaProject) : String :=
  "src/main/java/" ++
    String.ofList (project.basePackage.toList.map fun c => if c = '.' then '/' else c)

/-- The directory of one layer of the sources. -/
def sourceDirectory (project : JavaProject) (layer : String) : String :=
  project.sourceFolder ++ "/" ++ layer

def mainClass (project : JavaProject) : String :=
  upperCamelCase project.name ++ "Application"

end JavaProject

end ClassDiagram
