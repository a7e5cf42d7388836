import ClassDiagram.Proofs.Derivation.Soundness
import ClassDiagram.Proofs.Java.Paths
import ClassDiagram.Proofs.Schema.Increment

/-!
# Sources for what is new

The sources for the new tables and enumerations of a later schema lie beside those of the earlier
one. A file is written a second time only for a new table that is another name for the class of an
old one: tables are told apart by their names in the schema, files by the names of their classes.
-/

namespace ClassDiagram

namespace Backend

variable {backend : Backend} {schema : Schema} {project : JavaProject}

theorem generate_eq_ok_iff {bundle : Bundle} :
    backend.generate = .ok bundle ↔ backend.schema.KeepsRules ∧ backend.bundle = bundle := by
  rw [generate, ← Schema.faults_eq_nil_iff]
  cases backend.schema.faults <;> simp

theorem subjects_subset_entity {layer : Layer} (hlayer : layer ≠ .enums) :
    backend.subjects layer ⊆ backend.subjects .entity := by
  intro name hname
  cases layer with
  | enums => exact absurd rfl hlayer
  | entity | repository => exact hname
  | transfer | mapper | service | controller =>
    exact List.map_subset _ (List.filter_subset_self _) hname

/-- The classes of tables are named after the tables. -/
theorem subjects_entity_restricted (hstored : schema.StoredByName) (tables enums : List String) :
    (restricted schema project tables enums).subjects .entity =
      (schema.tables.names.filter fun name => tables.contains name).map typeName := by
  have hentity : ∀ written, ∀ name ∈ schema.tables.names,
      ((schema.entities written).find? name).map Entity.typeName = some (typeName name) := by
    intro written name hname
    obtain ⟨table, hfind⟩ := Catalog.mem_names_iff.1 hname
    obtain ⟨entity, hentity, rfl, -⟩ := schema.exists_entity hstored hfind written
    rw [hentity, Option.map_some, Entity.typeName, hstored name _ hfind]
  rw [subjects, writtenEntities, List.map_filterMap]
  exact List.filterMap_eq_map_iff_forall_eq_some.2 fun name hname =>
    hentity _ name (List.mem_filter.1 hname).1

theorem subjects_enums_restricted_subset (schema : Schema) (project : JavaProject)
    (tables enums : List String) :
    (restricted schema project tables enums).subjects .enums ⊆ enums := by
  intro name hname
  obtain ⟨enumType, henum, rfl⟩ := List.mem_map.1 hname
  simpa using (List.mem_filter.1 henum).2

end Backend

namespace Schema

variable {base candidate : Schema} {project : JavaProject}

theorem mem_subjects_full_iff (hstored : base.StoredByName) (project : JavaProject)
    {name : String} :
    name ∈ (Backend.full base project).subjects .entity ↔
      ∃ old ∈ base.tables.values, typeName old.name = name := by
  have hnames : base.tables.names.filter (fun name => base.tables.names.contains name) =
      base.tables.names := by
    simp
  rw [Backend.full, Backend.subjects_entity_restricted hstored, hnames,
    names_eq_map_values hstored, List.map_map, List.mem_map]
  rfl

theorem mem_subjects_increment_iff (hstored : (base.merge candidate).StoredByName)
    (project : JavaProject) {name : String} :
    name ∈ (Backend.increment base candidate project).subjects .entity ↔
      ∃ new ∈ base.newTables candidate, typeName new.name = name := by
  rw [Backend.increment, Backend.subjects_entity_restricted hstored, List.mem_map]
  simp only [List.mem_filter, mem_names_merge_iff, List.contains_iff_mem, List.mem_map]
  constructor
  · rintro ⟨_, ⟨-, new, hnew, rfl⟩, hname⟩
    exact ⟨new, hnew, hname⟩
  · rintro ⟨new, hnew, hname⟩
    exact ⟨new.name, ⟨.inr ⟨new, hnew, rfl⟩, new, hnew, rfl⟩, hname⟩

/-- No new enumeration has the name of an old one. -/
theorem not_mem_subjects_enums {name : String}
    (hnew : name ∈ (Backend.increment base candidate project).subjects .enums) :
    name ∉ (Backend.full base project).subjects .enums := by
  intro hold
  have hnames := Backend.subjects_enums_restricted_subset _ _ _ _ hnew
  have hbase := Backend.subjects_enums_restricted_subset _ _ _ _ hold
  simp only [newEnums, List.mem_filter, Bool.not_eq_true', Catalog.contains] at hnames
  simp [hbase] at hnames

section Paths

variable (hbase : base.KeepsRules) (hmerged : (base.merge candidate).KeepsRules)

include hbase hmerged

/-- The entity class of a new table goes where that of an old table with its type name is. -/
theorem exists_path_of_typeName_eq (project : JavaProject) {new old : Table}
    (hnew : new ∈ base.newTables candidate) (hold : old ∈ base.tables.values)
    (htype : typeName new.name = typeName old.name) :
    ∃ path, path ∈ (Backend.full base project).bundle.paths ∧
      path ∈ (Backend.increment base candidate project).bundle.paths := by
  refine ⟨_, (Backend.mem_paths_bundles_iff (Backend.full base project)
    (Backend.increment base candidate project) rfl _).2 ⟨.entity, typeName old.name, ?_, ?_, rfl⟩⟩
  · exact (mem_subjects_full_iff hbase.storedByName project).2 ⟨old, hold, rfl⟩
  · exact (mem_subjects_increment_iff hmerged.storedByName project).2 ⟨new, hnew, htype⟩

theorem exists_typeName_eq_of_mem_paths {path : String}
    (hfiles : path ∈ (Backend.full base project).bundle.paths)
    (hincrement : path ∈ (Backend.increment base candidate project).bundle.paths) :
    ∃ new ∈ base.newTables candidate, ∃ old ∈ base.tables.values,
      typeName new.name = typeName old.name ∧ ∃ layer : Layer,
        path = (Backend.full base project).path layer.name
          (layer.className (typeName old.name)) := by
  obtain ⟨layer, name, hold, hnew, rfl⟩ :=
    (Backend.mem_paths_bundles_iff (Backend.full base project)
      (Backend.increment base candidate project) rfl path).1 ⟨hfiles, hincrement⟩
  have hlayer : layer ≠ .enums := by
    rintro rfl
    exact not_mem_subjects_enums hnew hold
  obtain ⟨old, holdMem, rfl⟩ := (mem_subjects_full_iff hbase.storedByName project).1
    (Backend.subjects_subset_entity hlayer hold)
  obtain ⟨new, hnewMem, htype⟩ := (mem_subjects_increment_iff hmerged.storedByName project).1
    (Backend.subjects_subset_entity hlayer hnew)
  exact ⟨new, hnewMem, old, holdMem, htype, layer, rfl⟩

end Paths

/-- What is written a second time are sources of old tables whose type names new tables have too,
and if there is such a new table then something is written a second time. -/
theorem paths_generateIncrement {files increment : Bundle}
    (hfiles : base.generate project = .ok files)
    (hincrement : base.generateIncrement candidate project = .ok increment) :
    (∀ path ∈ increment.paths, path ∈ files.paths →
      ∃ new ∈ base.newTables candidate, ∃ old ∈ base.tables.values,
        typeName new.name = typeName old.name ∧ ∃ layer : Layer,
          path = (Backend.full base project).path layer.name
            (layer.className (typeName old.name))) ∧
      ((∀ path ∈ increment.paths, path ∉ files.paths) ↔
        ∀ new ∈ base.newTables candidate, ∀ old ∈ base.tables.values,
          typeName new.name ≠ typeName old.name) := by
  obtain ⟨hbase, rfl⟩ := Backend.generate_eq_ok_iff.1 hfiles
  obtain ⟨hmerged, rfl⟩ := Backend.generate_eq_ok_iff.1 hincrement
  refine ⟨fun path hpath hbefore => exists_typeName_eq_of_mem_paths hbase hmerged hbefore hpath,
    fun hdisjoint new hnew old hold htype => ?_, fun htypes path hpath hbefore => ?_⟩
  · obtain ⟨path, hbefore, hpath⟩ :=
      exists_path_of_typeName_eq hbase hmerged project hnew hold htype
    exact hdisjoint path hpath hbefore
  · obtain ⟨new, hnew, old, hold, htype, -⟩ :=
      exists_typeName_eq_of_mem_paths hbase hmerged hbefore hpath
    exact htypes new hnew old hold htype

end Schema

namespace Diagram

/-- Classes of the given names, each with a number as its key. -/
def ofClassNames (classNames : List String) : Diagram where
  elements := classNames.map fun className =>
    { id := className
      className
      attributes := ["id: Long"]
      methods := []
      kind := .classKind }
  relationships := []

/-- A class for orders is written beside the class for users. -/
theorem paths_generateIncrement_order :
    let base := (ofClassNames ["User"]).draft.schema
    let candidate := (ofClassNames ["User", "Order"]).draft.schema
    let project : JavaProject := { basePackage := "com.example.demo", name := "demo" }
    ∃ files increment, base.generate project = .ok files ∧
      base.generateIncrement candidate project = .ok increment ∧
      ∀ path ∈ increment.paths, path ∉ files.paths := by
  intro base candidate project
  have hfiles : base.generate project = .ok (Backend.full base project).bundle :=
    Backend.generate_eq_ok_iff.2 ⟨Schema.faults_eq_nil_iff.1 (by decide +kernel), rfl⟩
  have hincrement : base.generateIncrement candidate project =
      .ok (Backend.increment base candidate project).bundle :=
    Backend.generate_eq_ok_iff.2 ⟨Schema.faults_eq_nil_iff.1 (by decide +kernel), rfl⟩
  exact ⟨_, _, hfiles, hincrement,
    (Schema.paths_generateIncrement hfiles hincrement).2.2 (by decide +kernel)⟩

/-- The tables `user1` and `user_1` are different ones, and yet both have the class `User1`. -/
theorem exists_path_written_twice :
    let base := (ofClassNames ["User1"]).draft.schema
    let candidate := (ofClassNames ["User_1"]).draft.schema
    let project : JavaProject := { basePackage := "com.example.demo", name := "demo" }
    (ofClassNames ["User1"]).schema = .ok base ∧ (ofClassNames ["User_1"]).schema = .ok candidate ∧
      ∃ files increment, base.generate project = .ok files ∧
        base.generateIncrement candidate project = .ok increment ∧
        ∃ path ∈ increment.paths, path ∈ files.paths := by
  intro base candidate project
  have hbase : base.KeepsRules := Schema.faults_eq_nil_iff.1 (by decide +kernel)
  have hmerged : (base.merge candidate).KeepsRules :=
    Schema.faults_eq_nil_iff.1 (by decide +kernel)
  have htypes : ∃ new ∈ base.newTables candidate, ∃ old ∈ base.tables.values,
      typeName new.name = typeName old.name := by
    decide +kernel
  obtain ⟨new, hnew, old, hold, htype⟩ := htypes
  obtain ⟨path, hbefore, hpath⟩ :=
    Schema.exists_path_of_typeName_eq hbase hmerged project hnew hold htype
  exact ⟨schema_eq_ok_iff.2 ⟨by decide +kernel, rfl⟩, schema_eq_ok_iff.2 ⟨by decide +kernel, rfl⟩,
    _, _, Backend.generate_eq_ok_iff.2 ⟨hbase, rfl⟩, Backend.generate_eq_ok_iff.2 ⟨hmerged, rfl⟩,
    path, hpath, hbefore⟩

end Diagram

end ClassDiagram
