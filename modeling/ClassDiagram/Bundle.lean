import ClassDiagram.Schema.Catalog

/-!
# Bundles of files

A bundle holds the texts of files by their paths. It is shown in the order of the paths.
-/

namespace ClassDiagram

abbrev Bundle := Catalog String

namespace Bundle

/-- The bundle with every file of another one, which goes before files of equal paths. -/
def extend (bundle other : Bundle) : Bundle :=
  other.entries.foldl (fun files file => files.insert file.1 file.2) bundle

/-- The files in the order of their paths. -/
def files (bundle : Bundle) : List (String × String) :=
  bundle.entries.mergeSort fun left right => left.1 ≤ right.1

def paths (bundle : Bundle) : List String :=
  bundle.files.map Prod.fst

end Bundle

end ClassDiagram
