import ClassDiagram.Java.Backend
import ClassDiagram.Java.Source

/-!
# Enumerations in Java
-/

namespace ClassDiagram

def Backend.enumClass (backend : Backend) (enumType : EnumType) : String :=
  let constants := separated (enumType.constants.map fun constant => "    " ++ constant)
  sourceFile (backend.project.package "enums") []
    ([s!"public enum {enumType.name} \x7b"] ++ constants ++ ["\x7d"])

end ClassDiagram
