/-!
# Defects of texts

Why a text cannot be read on.
-/

namespace ClassDiagram.Json

inductive Defect where
  | endOfText
  | malformed
  deriving DecidableEq, Repr

end ClassDiagram.Json
