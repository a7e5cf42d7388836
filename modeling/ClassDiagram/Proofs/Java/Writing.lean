import ClassDiagram.Proofs.Java.Files

/-!
# Choosing what is written

For which tables and enumerations classes are written decides which sources there are, not what they
say: a source is made from the schema, the project and the entities of all tables.
-/

namespace ClassDiagram.Backend

open Text

variable (backend : Backend) (written : List String) (enums : List EnumType)

/-- The same backend when classes are written for other tables and enumerations. -/
def writing : Backend :=
  { backend with written, enums }

theorem eq_writing {left right : Backend} (hschema : left.schema = right.schema)
    (hproject : left.project = right.project) (hentities : left.entities = right.entities) :
    left = right.writing left.written left.enums := by
  cases left
  cases right
  cases hschema
  cases hproject
  cases hentities
  rfl

theorem entityClass_writing :
    (backend.writing written enums).entityClass = backend.entityClass := rfl

theorem transferClass_writing :
    (backend.writing written enums).transferClass = backend.transferClass := rfl

theorem mapperClass_writing :
    (backend.writing written enums).mapperClass = backend.mapperClass := rfl

theorem repositoryInterface_writing :
    (backend.writing written enums).repositoryInterface = backend.repositoryInterface := rfl

theorem controllerClass_writing :
    (backend.writing written enums).controllerClass = backend.controllerClass := rfl

theorem wordType_writing : (backend.writing written enums).wordType = backend.wordType := rfl

theorem signatureType_of_word {token : List Char} (hsplit : splitFirst '<' (trim token) = none) :
    backend.signatureType token = backend.wordType (String.ofList (trim token)) := by
  rw [signatureType]
  split
  · rfl
  · rename_i heq
    cases hsplit.symm.trans heq

/-- A generic type with its arguments. -/
def applied (outer : String) (arguments : List WrittenType) : WrittenType :=
  { text := outer ++ "<" ++ String.intercalate ", " (arguments.map WrittenType.text) ++ ">"
    imports := arguments.flatMap WrittenType.imports
      ++ if collectionTypes.contains outer then ["java.util." ++ outer] else [] }

theorem signatureType_of_arguments {token before after : List Char}
    (hsplit : splitFirst '<' (trim token) = some (before, after)) :
    backend.signatureType token = applied (String.ofList (trim before))
      ((splitParameters 0 [] (dropClosing after)).map backend.signatureType) := by
  rw [signatureType]
  split
  · rename_i heq
    cases hsplit.symm.trans heq
  · rename_i heq
    cases hsplit.symm.trans heq
    rw [← List.attach_map_val (f := backend.signatureType)]
    rfl

theorem signatureType_writing :
    (backend.writing written enums).signatureType = backend.signatureType := by
  funext token
  induction token using signatureType.induct backend with
  | case1 token hsplit =>
    rw [signatureType_of_word _ hsplit, signatureType_of_word _ hsplit, wordType_writing]
  | case2 token before after hsplit ih =>
    rw [signatureType_of_arguments _ hsplit, signatureType_of_arguments _ hsplit,
      List.map_congr_left ih]

theorem methodStub_writing :
    (backend.writing written enums).methodStub = backend.methodStub := by
  funext typeName method
  unfold methodStub
  simp only [signatureType_writing]

theorem serviceClass_writing :
    (backend.writing written enums).serviceClass = backend.serviceClass := by
  funext entity
  unfold serviceClass
  simp only [methodStub_writing]
  rfl

/-! ## Sources side by side -/

section Append

variable (older : List String) (olderEnums : List EnumType)

theorem sources_writing_append (layer : Layer) :
    (backend.writing (older ++ written) (olderEnums ++ enums)).sources layer =
      (backend.writing older olderEnums).sources layer ++
        (backend.writing written enums).sources layer := by
  have hwritten : (backend.writing (older ++ written) (olderEnums ++ enums)).writtenEntities =
      (backend.writing older olderEnums).writtenEntities ++
        (backend.writing written enums).writtenEntities :=
    List.filterMap_append
  have hserved : (backend.writing (older ++ written) (olderEnums ++ enums)).served =
      (backend.writing older olderEnums).served ++ (backend.writing written enums).served := by
    rw [served, hwritten, List.filter_append, served, served]
  cases layer with
  | entity =>
    simp only [sources, entitySources, hwritten, List.map_append, entityClass_writing]
    rfl
  | enums =>
    simp only [sources, writing, List.map_append]
    rfl
  | transfer =>
    simp only [sources, entitySources, hserved, List.map_append, transferClass_writing]
    rfl
  | mapper =>
    simp only [sources, entitySources, hserved, List.map_append, mapperClass_writing]
    rfl
  | repository =>
    simp only [sources, entitySources, hwritten, List.map_append, repositoryInterface_writing]
    rfl
  | service =>
    simp only [sources, entitySources, hserved, List.map_append, serviceClass_writing]
    rfl
  | controller =>
    simp only [sources, entitySources, hserved, List.map_append, controllerClass_writing]
    rfl

/-- A file stays what it is if classes that stand before its own are written as well. -/
theorem find?_bundle_writing_append {path : String} (hpath : path ∈ backend.bundle.paths) :
    (backend.writing (older ++ backend.written) (olderEnums ++ backend.enums)).bundle.find? path =
      backend.bundle.find? path := by
  obtain ⟨found, hfound⟩ := Catalog.mem_names_iff.1 (mem_paths_iff.1 hpath)
  obtain ⟨layer, name, -, rfl⟩ := mem_paths_bundle_iff.1 hpath
  have hown := backend.find?_bundle layer name
  calc
    _ = _ := find?_bundle _ layer name
    _ = (Catalog.ofList (backend.sources layer)).find? _ := by
      rw [sources_writing_append, Catalog.find?_ofList_append]
      apply Option.or_of_isSome
      exact Option.isSome_of_eq_some (hown.symm.trans hfound)
    _ = _ := hown.symm

end Append

end ClassDiagram.Backend
