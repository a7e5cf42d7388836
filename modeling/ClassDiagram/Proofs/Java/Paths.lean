import ClassDiagram.Java.Layer
import ClassDiagram.Proofs.Java.KeyFields

/-!
# Paths of sources

The path of a source tells the layer and the name of its class. A bundle therefore has one path for
each layer and each class name that the layer writes, and two bundles of one project share a path
only where they share a class name within a layer.
-/

namespace ClassDiagram

/-! ## Names of classes -/

/-- The name of the class that a layer writes for an entity or an enumeration. -/
def Layer.className (layer : Layer) (name : String) : String :=
  match layer with
  | .entity | .enums => name
  | .transfer => transferType name
  | .mapper => mapperType name
  | .repository => repositoryType name
  | .service => name ++ "Service"
  | .controller => name ++ "Controller"

theorem Layer.className_injective (layer : Layer) : Function.Injective layer.className := by
  intro left right heq
  cases layer <;>
    simpa only [className, transferType, mapperType, repositoryType, String.append_left_inj]
      using heq

theorem Layer.name_injective : Function.Injective Layer.name := by
  intro left right heq
  cases left <;> cases right <;> first | rfl | exact absurd heq (by decide)

theorem Layer.slash_not_mem_name (layer : Layer) : '/' ∉ layer.name.toList := by
  cases layer <;> decide

namespace Backend

variable {backend : Backend}

/-- The entities and enumerations for which a layer has classes, by their names in Java. -/
def subjects (backend : Backend) : Layer → List String
  | .enums => backend.enums.map EnumType.name
  | .entity | .repository => backend.writtenEntities.map Entity.typeName
  | .transfer | .mapper | .service | .controller => backend.served.map Entity.typeName

theorem map_fst_sources (backend : Backend) (layer : Layer) :
    (backend.sources layer).map Prod.fst =
      (backend.subjects layer).map fun name =>
        backend.path layer.name (layer.className name) := by
  cases layer <;> simp only [sources, entitySources, subjects, List.map_map] <;> rfl

/-! ## Paths -/

/-- What stands before the first slash and what stands behind it are told by the whole. -/
theorem eq_of_append_slash_eq {left right leftRest rightRest : List Char} (hleft : '/' ∉ left)
    (hright : '/' ∉ right) (heq : left ++ '/' :: leftRest = right ++ '/' :: rightRest) :
    left = right ∧ leftRest = rightRest := by
  induction left generalizing right with
  | nil =>
    cases right with
    | nil => exact ⟨rfl, (List.cons.inj heq).2⟩
    | cons c rest => exact absurd ((List.cons.inj heq).1 ▸ List.mem_cons_self) hright
  | cons c rest ih =>
    cases right with
    | nil => exact absurd ((List.cons.inj heq).1 ▸ List.mem_cons_self) hleft
    | cons d others =>
      obtain ⟨rfl, hrest⟩ := List.cons.inj heq
      obtain ⟨rfl, htail⟩ := ih (fun hmem => hleft (List.mem_cons_of_mem _ hmem))
        (fun hmem => hright (List.mem_cons_of_mem _ hmem)) hrest
      exact ⟨rfl, htail⟩

/-- Backends of one project place a class at one path only if layer and class are the same. -/
theorem path_eq_path_iff {left right : Backend} (hproject : left.project = right.project)
    {leftLayer rightLayer : Layer} {leftName rightName : String} :
    left.path leftLayer.name leftName = right.path rightLayer.name rightName ↔
      leftLayer = rightLayer ∧ leftName = rightName := by
  constructor
  · intro heq
    simp only [path, JavaProject.sourceDirectory, hproject, String.append_assoc,
      String.append_right_inj] at heq
    have hchars := congrArg String.toList heq
    simp only [String.toList_append] at hchars
    obtain ⟨hlayer, hname⟩ := eq_of_append_slash_eq leftLayer.slash_not_mem_name
      rightLayer.slash_not_mem_name hchars
    refine ⟨Layer.name_injective (String.toList_inj.1 hlayer), ?_⟩
    exact String.toList_inj.1 (List.append_cancel_right hname)
  · rintro ⟨rfl, rfl⟩
    rw [path, path, hproject]

theorem mem_paths_iff {bundle : Bundle} {path : String} :
    path ∈ bundle.paths ↔ path ∈ bundle.names := by
  rw [Bundle.paths, Bundle.files, ((List.mergeSort_perm bundle.entries _).map Prod.fst).mem_iff,
    Catalog.names]

theorem mem_paths_bundle_iff {path : String} :
    path ∈ backend.bundle.paths ↔
      ∃ layer, ∃ name ∈ backend.subjects layer,
        backend.path layer.name (layer.className name) = path := by
  have hall : ∀ layer, layer ∈ Layer.all := by
    intro layer
    cases layer <;> decide
  rw [mem_paths_iff, bundle, Catalog.mem_names_ofList, List.map_flatMap, List.mem_flatMap]
  simp only [map_fst_sources, List.mem_map, hall, true_and]

/-- Bundles of one project share exactly the paths of the classes that both have. -/
theorem mem_paths_bundles_iff (left right : Backend) (hproject : left.project = right.project)
    (path : String) :
    path ∈ left.bundle.paths ∧ path ∈ right.bundle.paths ↔
      ∃ layer, ∃ name ∈ left.subjects layer, name ∈ right.subjects layer ∧
        left.path layer.name (layer.className name) = path := by
  rw [mem_paths_bundle_iff, mem_paths_bundle_iff]
  constructor
  · rintro ⟨⟨layer, name, hname, rfl⟩, other, otherName, hother, heq⟩
    obtain ⟨rfl, hclass⟩ := (path_eq_path_iff hproject.symm).1 heq
    exact ⟨other, name, hname, other.className_injective hclass ▸ hother, rfl⟩
  · rintro ⟨layer, name, hleft, hright, rfl⟩
    exact ⟨⟨layer, name, hleft, rfl⟩, layer, name, hright,
      (path_eq_path_iff hproject.symm).2 ⟨rfl, rfl⟩⟩

end Backend

end ClassDiagram
