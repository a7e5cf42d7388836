import ClassDiagram.Proofs.Derivation.Enumerations
import ClassDiagram.Proofs.Java.Increment

/-!
# Files of a schema

Every table has an entity class and a repository; a table that the web service offers has four more
classes; an enumeration has one. A file lies where the name of its class puts it. Different tables
whose names have one upper camel form put their classes in one place, and there the class of the
last of them stays.
-/

namespace ClassDiagram

/-- Where a project keeps the class that a layer has for a table or an enumeration, by its name in
Java. -/
def JavaProject.classPath (project : JavaProject) (layer : Layer) (name : String) : String :=
  project.sourceDirectory layer.name ++ "/" ++ layer.className name ++ ".java"

theorem Backend.path_className (backend : Backend) (layer : Layer) (name : String) :
    backend.path layer.name (layer.className name) = backend.project.classPath layer name := rfl

theorem JavaProject.classPath_eq_classPath_iff (project : JavaProject) {layer other : Layer}
    {name otherName : String} :
    project.classPath layer name = project.classPath other otherName ↔
      layer = other ∧ name = otherName := by
  have hpaths : project.classPath layer name = project.classPath other otherName ↔
      layer = other ∧ layer.className name = other.className otherName :=
    Backend.path_eq_path_iff (rfl : (Backend.full Schema.empty project).project = _)
  rw [hpaths]
  constructor
  · rintro ⟨rfl, hname⟩
    exact ⟨rfl, layer.className_injective hname⟩
  · rintro ⟨rfl, rfl⟩
    exact ⟨rfl, rfl⟩

/-- The web service offers what a table holds: single objects that can be made. -/
def Table.isServed (table : Table) : Bool :=
  !table.isJoin && !table.isAbstract

/-- The layers that have a class for a table. -/
def Table.layers (table : Table) : List Layer :=
  [.entity, .repository] ++
    if table.isServed then [.transfer, .mapper, .service, .controller] else []

theorem Table.nodup_layers (table : Table) : table.layers.Nodup := by
  rw [layers]
  split <;> decide

theorem Table.enums_not_mem_layers (table : Table) : Layer.enums ∉ table.layers := by
  rw [layers]
  split <;> decide

/-- The paths of the classes of a table. -/
def Table.files (table : Table) (project : JavaProject) : List String :=
  table.layers.map fun layer => project.classPath layer (typeName table.name)

def EnumType.file (enumType : EnumType) (project : JavaProject) : String :=
  project.classPath .enums enumType.name

/-- The paths of the classes of all tables and enumerations, one by one. -/
def Schema.files (schema : Schema) (project : JavaProject) : List String :=
  (schema.tables.values.flatMap fun table => table.files project) ++
    schema.enums.values.map fun enumType => enumType.file project

theorem Schema.filter_names_contains {schema : Schema} (hstored : schema.StoredByName) :
    schema.tables.values.filter (fun table => schema.tables.names.contains table.name) =
      schema.tables.values := by
  rw [names_eq_map_values hstored, List.filter_eq_self]
  exact fun table htable => List.contains_iff_mem.2 (List.mem_map_of_mem htable)

namespace Backend

variable {backend : Backend} {schema : Schema} {project : JavaProject} {tables enums : List String}

/-! ## Which files there are -/

/-- The entities that are written are those of the chosen tables, in the order of the schema. -/
theorem map_table_writtenEntities (hstored : schema.StoredByName) (project : JavaProject)
    (tables enums : List String) :
    (restricted schema project tables enums).writtenEntities.map Entity.table =
      schema.tables.values.filter fun table => tables.contains table.name := by
  have hentity : ∀ written, ∀ table ∈ schema.tables.values,
      ((schema.entities written).find? table.name).map Entity.table = some table := by
    intro written table hmem
    obtain ⟨name, hfind⟩ := Catalog.mem_values_iff.1 hmem
    obtain rfl := hstored name table hfind
    obtain ⟨entity, hentity, rfl, -⟩ := schema.exists_entity hstored hfind written
    rw [hentity, Option.map_some]
  rw [writtenEntities, List.map_filterMap, restricted, Schema.names_eq_map_values hstored,
    List.filter_map, List.filterMap_map]
  refine (List.filterMap_eq_map_iff_forall_eq_some.2 ?_).trans (List.map_id _)
  intro table hmem
  exact hentity _ table (List.mem_filter.1 hmem).1

theorem map_table_served (hstored : schema.StoredByName) (project : JavaProject)
    (tables enums : List String) :
    (restricted schema project tables enums).served.map Entity.table =
      (schema.tables.values.filter fun table => tables.contains table.name).filter
        Table.isServed := by
  rw [← map_table_writtenEntities hstored project tables enums, List.filter_map]
  rfl

theorem mem_subjects_restricted_iff (hstored : schema.StoredByName) {layer : Layer}
    {name : String} :
    name ∈ (restricted schema project tables enums).subjects layer ↔
      (∃ table ∈ schema.tables.values, table.name ∈ tables ∧ layer ∈ table.layers ∧
        typeName table.name = name) ∨
      layer = .enums ∧ ∃ enumType ∈ schema.enums.values, enumType.name ∈ enums ∧
        enumType.name = name := by
  have hmap := map_table_writtenEntities hstored project tables enums
  have hwritten : (restricted schema project tables enums).writtenEntities.map Entity.typeName =
      (schema.tables.values.filter fun table => tables.contains table.name).map
        fun table => typeName table.name := by
    rw [← hmap, List.map_map]
    rfl
  have hserved : (restricted schema project tables enums).served.map Entity.typeName =
      ((schema.tables.values.filter fun table => tables.contains table.name).filter
        Table.isServed).map fun table => typeName table.name := by
    rw [← map_table_served hstored project tables enums, List.map_map]
    rfl
  cases layer with
  | enums =>
    have hlayers : ∀ table : Table, Layer.enums ∈ table.layers ↔ False :=
      fun table => iff_false_intro table.enums_not_mem_layers
    simp [subjects, restricted, hlayers, and_assoc]
  | entity | repository => simp [subjects, hwritten, Table.layers, and_assoc]
  | transfer | mapper | service | controller =>
    simp [subjects, hserved, Table.layers, and_assoc, and_left_comm]

/-- The files of a backend are those of the tables and enumerations that it writes. -/
theorem mem_paths_restricted_iff (hstored : schema.StoredByName) {path : String} :
    path ∈ (restricted schema project tables enums).bundle.paths ↔
      (∃ table ∈ schema.tables.values, table.name ∈ tables ∧ path ∈ table.files project) ∨
        ∃ enumType ∈ schema.enums.values, enumType.name ∈ enums ∧
          path = enumType.file project := by
  simp only [mem_paths_bundle_iff, mem_subjects_restricted_iff hstored, path_className,
    Table.files, EnumType.file, List.mem_map]
  constructor
  · rintro ⟨layer, name, ⟨table, hmem, hname, hlayer, rfl⟩ | ⟨rfl, enumType, hmem, hname, rfl⟩, rfl⟩
    · exact .inl ⟨table, hmem, hname, layer, hlayer, rfl⟩
    · exact .inr ⟨enumType, hmem, hname, rfl⟩
  · rintro (⟨table, hmem, hname, layer, hlayer, rfl⟩ | ⟨enumType, hmem, hname, rfl⟩)
    · exact ⟨layer, _, .inl ⟨table, hmem, hname, hlayer, rfl⟩, rfl⟩
    · exact ⟨.enums, _, .inr ⟨rfl, enumType, hmem, hname, rfl⟩, rfl⟩

theorem mem_paths_full_iff (hstored : schema.StoredByName) (henums : schema.EnumsStoredByName)
    {path : String} :
    path ∈ (full schema project).bundle.paths ↔ path ∈ schema.files project := by
  have hnames : ∀ table ∈ schema.tables.values, table.name ∈ schema.tables.names := by
    intro table hmem
    rw [Schema.names_eq_map_values hstored]
    exact List.mem_map_of_mem hmem
  have henumNames : ∀ enumType ∈ schema.enums.values, enumType.name ∈ schema.enums.names := by
    intro enumType hmem
    obtain ⟨entry, hentry, rfl⟩ := List.mem_map.1 hmem
    rw [henums entry hentry]
    exact List.mem_map_of_mem hentry
  rw [full, mem_paths_restricted_iff hstored, Schema.files, List.mem_append, List.mem_flatMap,
    List.mem_map]
  apply or_congr
  · constructor
    · rintro ⟨table, hmem, -, hpath⟩
      exact ⟨table, hmem, hpath⟩
    · rintro ⟨table, hmem, hpath⟩
      exact ⟨table, hmem, hnames table hmem, hpath⟩
  · constructor
    · rintro ⟨enumType, hmem, -, rfl⟩
      exact ⟨enumType, hmem, rfl⟩
    · rintro ⟨enumType, hmem, rfl⟩
      exact ⟨enumType, hmem, henumNames enumType hmem, rfl⟩

/-! ## What the files hold -/

theorem project_of_mem_sources {layer : Layer} {source : String × String}
    (hsource : source ∈ backend.sources layer) :
    ∃ name ∈ backend.subjects layer, source.1 = backend.project.classPath layer name := by
  have hpath := List.mem_map_of_mem (f := Prod.fst) hsource
  rw [map_fst_sources, List.mem_map] at hpath
  obtain ⟨name, hname, heq⟩ := hpath
  exact ⟨name, hname, heq.symm⟩

/-- The other layers put nothing in the place of a class. -/
theorem find?_sources_of_ne {layer other : Layer} (hne : layer ≠ other) (name : String) :
    (Catalog.ofList (backend.sources other)).find? (backend.project.classPath layer name) =
      none := by
  rw [Catalog.find?_ofList_eq_none_iff, List.mem_map]
  rintro ⟨source, hsource, heq⟩
  obtain ⟨otherName, -, hpath⟩ := project_of_mem_sources hsource
  exact hne (backend.project.classPath_eq_classPath_iff.1 (heq.symm.trans hpath)).1

theorem find?_bundle (backend : Backend) (layer : Layer) (name : String) :
    backend.bundle.find? (backend.project.classPath layer name) =
      (Catalog.ofList (backend.sources layer)).find?
        (backend.project.classPath layer name) := by
  have hlayers : ∀ layers : List Layer,
      (Catalog.ofList (layers.flatMap backend.sources)).find?
          (backend.project.classPath layer name) =
        if layer ∈ layers then (Catalog.ofList (backend.sources layer)).find?
          (backend.project.classPath layer name) else none := by
    intro layers
    induction layers with
    | nil => simp [Catalog.ofList]
    | cons first rest ih =>
      rw [List.flatMap_cons, Catalog.find?_ofList_append, ih]
      by_cases hfirst : layer = first
      · subst hfirst
        rw [if_pos List.mem_cons_self]
        split
        · exact Option.or_self
        · exact Option.none_or
      · rw [find?_sources_of_ne hfirst, Option.or_none]
        simp [hfirst]
  have hmem : layer ∈ Layer.all := by
    cases layer <;> decide
  rw [bundle, hlayers, if_pos hmem]

theorem table_name_of_entity? (hstored : schema.StoredByName) {name : String} {entity : Entity}
    (hname : name ∈ schema.tables.names)
    (hfind : (restricted schema project tables enums).entity? name = some entity) :
    entity.table.name = name := by
  obtain ⟨table, htable⟩ := Catalog.mem_names_iff.1 hname
  obtain ⟨other, hother, rfl, -⟩ := schema.exists_entity hstored htable _
  obtain rfl := Option.some.inj (hfind.symm.trans hother)
  exact hstored _ _ htable

/-- Of the written tables with one name in Java the last one has its class in the bundle. -/
theorem find?_entityClass_restricted (hstored : schema.StoredByName) (project : JavaProject)
    (tables enums : List String) {before after : List Table} {table : Table}
    (hvalues : schema.tables.values.filter (fun table => tables.contains table.name) =
      before ++ table :: after)
    (hlast : ∀ other ∈ after, typeName other.name ≠ typeName table.name) :
    ∃ entity, (restricted schema project tables enums).entity? table.name = some entity ∧
      entity.table = table ∧
      (restricted schema project tables enums).bundle.find?
          (project.classPath .entity (typeName table.name)) =
        some ((restricted schema project tables enums).entityClass entity) := by
  let backend := restricted schema project tables enums
  have hmap : backend.writtenEntities.map Entity.table = before ++ table :: after := by
    rw [map_table_writtenEntities hstored, hvalues]
  obtain ⟨front, rest, hwritten, rfl, hrest⟩ := List.map_eq_append_iff.1 hmap
  obtain ⟨entity, back, rfl, rfl, rfl⟩ := List.map_eq_cons_iff.1 hrest
  have hentity : backend.entity? entity.table.name = some entity := by
    have hmem : entity ∈ backend.writtenEntities := by simp [hwritten]
    obtain ⟨name, hname, hfind⟩ := List.mem_filterMap.1 hmem
    rwa [table_name_of_entity? hstored (List.mem_filter.1 hname).1 hfind]
  refine ⟨entity, hentity, rfl, ?_⟩
  have hsources : backend.sources .entity =
      backend.entitySources .entity front id backend.entityClass ++
        (project.classPath .entity (typeName entity.table.name), backend.entityClass entity) ::
        backend.entitySources .entity back id backend.entityClass := by
    rw [sources, hwritten, entitySources, List.map_append, List.map_cons]
    rfl
  calc
    _ = _ := find?_bundle backend .entity (typeName entity.table.name)
    _ = _ := by
      rw [hsources]
      apply Catalog.find?_ofList_of_last
      rw [entitySources, List.map_map, List.mem_map]
      rintro ⟨other, hother, heq⟩
      exact hlast other.table (List.mem_map_of_mem hother)
        (project.classPath_eq_classPath_iff.1 heq).2

/-- Of the tables with one name in Java the last one has its class written. -/
theorem find?_entityClass (hstored : schema.StoredByName) (project : JavaProject)
    {before after : List Table} {table : Table}
    (hvalues : schema.tables.values = before ++ table :: after)
    (hlast : ∀ other ∈ after, typeName other.name ≠ typeName table.name) :
    ∃ entity, (full schema project).entity? table.name = some entity ∧ entity.table = table ∧
      (full schema project).bundle.find? (project.classPath .entity (typeName table.name)) =
        some ((full schema project).entityClass entity) :=
  find?_entityClass_restricted hstored project _ _
    ((Schema.filter_names_contains hstored).trans hvalues) hlast

end Backend

/-! ## Files that lie apart -/

namespace Table

theorem nodup_files (table : Table) (project : JavaProject) : (table.files project).Nodup := by
  apply table.nodup_layers.map
  intro left right heq
  exact (project.classPath_eq_classPath_iff.1 heq).1

/-- Tables have files in common exactly if they have one name in Java. -/
theorem disjoint_files_iff (left right : Table) (project : JavaProject) :
    (left.files project).Disjoint (right.files project) ↔
      typeName left.name ≠ typeName right.name := by
  have hentity : ∀ table : Table,
      project.classPath .entity (typeName table.name) ∈ table.files project :=
    fun table => List.mem_map_of_mem (by simp [layers])
  constructor
  · intro hdisjoint htype
    exact hdisjoint (hentity left) (htype ▸ hentity right)
  · intro htype path hleft hright
    obtain ⟨layer, -, rfl⟩ := List.mem_map.1 hleft
    obtain ⟨other, -, heq⟩ := List.mem_map.1 hright
    exact htype (project.classPath_eq_classPath_iff.1 heq).2.symm

theorem ne_enumFile (table : Table) {project : JavaProject} {path : String}
    (hpath : path ∈ table.files project) (enumType : EnumType) : path ≠ enumType.file project := by
  rintro rfl
  obtain ⟨layer, hlayer, heq⟩ := List.mem_map.1 hpath
  obtain ⟨rfl, -⟩ := project.classPath_eq_classPath_iff.1 heq
  exact table.enums_not_mem_layers hlayer

end Table

namespace Schema

variable {schema : Schema} {project : JavaProject}

theorem nodup_enumFiles (henums : schema.EnumsStoredByName) (project : JavaProject) :
    (schema.enums.values.map fun enumType => enumType.file project).Nodup := by
  have hnames : schema.enums.values.map EnumType.name = schema.enums.names := by
    rw [Catalog.values, Catalog.names, List.map_map]
    exact List.map_congr_left henums
  have hinjective : Function.Injective (project.classPath .enums) :=
    fun left right heq => (project.classPath_eq_classPath_iff.1 heq).2
  have hfiles := (hnames ▸ schema.enums.nodup_names).map hinjective
  rwa [List.map_map] at hfiles

/-! ## How many files there are -/

theorem length_files (schema : Schema) (project : JavaProject) :
    (schema.files project).length = 2 * schema.tables.size +
      4 * (schema.tables.values.filter Table.isServed).length + schema.enums.size := by
  have htables : ∀ tables : List Table,
      (tables.flatMap fun table => table.files project).length =
        2 * tables.length + 4 * (tables.filter Table.isServed).length := by
    intro tables
    induction tables with
    | nil => rfl
    | cons table rest ih =>
      rw [List.flatMap_cons, List.length_append, ih, Table.files, List.length_map, Table.layers,
        List.length_cons, List.filter_cons]
      cases table.isServed <;> simp <;> omega
  rw [files, List.length_append, htables, List.length_map, Catalog.size, Catalog.size,
    Catalog.values, Catalog.values, List.length_map, List.length_map]

/-- No two classes have one path exactly if no two tables have one name in Java. -/
theorem nodup_files_iff (henums : schema.EnumsStoredByName) (project : JavaProject) :
    (schema.files project).Nodup ↔
      (schema.tables.values.map fun table => typeName table.name).Nodup := by
  have htypes : (schema.tables.values.map fun table => typeName table.name).Nodup ↔
      schema.tables.values.Pairwise fun left right => typeName left.name ≠ typeName right.name :=
    List.pairwise_map
  rw [files, List.nodup_append, List.nodup_flatMap, htypes]
  constructor
  · rintro ⟨⟨-, htables⟩, -⟩
    exact htables.imp fun {left right} => (left.disjoint_files_iff right project).1
  · intro htables
    refine ⟨⟨fun table _ => table.nodup_files project, ?_⟩, nodup_enumFiles henums project, ?_⟩
    · exact htables.imp fun {left right} => (left.disjoint_files_iff right project).2
    · intro path hpath other hother
      obtain ⟨table, -, hfile⟩ := List.mem_flatMap.1 hpath
      obtain ⟨enumType, -, rfl⟩ := List.mem_map.1 hother
      exact table.ne_enumFile hfile enumType

theorem generate_eq_ok (hrules : schema.KeepsRules) (project : JavaProject) :
    schema.generate project = .ok (Backend.full schema project).bundle :=
  Backend.generate_eq_ok_iff.2 ⟨hrules, rfl⟩

/-- The bundle has one file for every path, however many classes are to lie there. -/
theorem size_bundle_full (hstored : schema.StoredByName) (henums : schema.EnumsStoredByName)
    (project : JavaProject) :
    (Backend.full schema project).bundle.size = (schema.files project).dedup.length := by
  apply Catalog.size_eq_length_dedup
  intro path
  rw [← Backend.mem_paths_iff, Backend.mem_paths_full_iff hstored henums]

end Schema

namespace Diagram

/-- A derived schema has one file for every path at which it has classes. Every class has a file of
its own exactly if the tables have different names in Java; of tables with one name in Java the
last one has its entity class written. -/
theorem schema_files {diagram : Diagram} {schema : Schema} (haccepted : diagram.schema = .ok schema)
    (project : JavaProject) :
    ∃ files, schema.generate project = .ok files ∧
      (∀ path, path ∈ files.paths ↔ path ∈ schema.files project) ∧
      files.size = (schema.files project).dedup.length ∧
      (schema.files project).length = 2 * schema.tables.size +
        4 * (schema.tables.values.filter Table.isServed).length + schema.enums.size ∧
      (files.size = (schema.files project).length ↔
        (schema.tables.values.map fun table => typeName table.name).Nodup) ∧
      ∀ before table after, schema.tables.values = before ++ table :: after →
        (∀ other ∈ after, typeName other.name ≠ typeName table.name) →
          ∃ entity, (Backend.full schema project).entity? table.name = some entity ∧
            entity.table = table ∧
            files.find? (project.classPath .entity (typeName table.name)) =
              some ((Backend.full schema project).entityClass entity) := by
  have hrules := (sound_of_schema haccepted).rules
  have hstored := hrules.storedByName
  have henums := enumsStoredByName_of_schema haccepted
  have hsize := Schema.size_bundle_full hstored henums project
  refine ⟨_, Schema.generate_eq_ok hrules project, fun path => ?_, hsize,
    schema.length_files project, ?_, fun before table after => ?_⟩
  · exact Backend.mem_paths_full_iff hstored henums
  · rw [hsize, ← Schema.nodup_files_iff henums project, ← List.dedup_eq_self]
    constructor
    · exact (List.dedup_sublist _).eq_of_length
    · exact congrArg List.length
  · exact Backend.find?_entityClass hstored project

/-- All classes of the shop have files. -/
theorem schema_files_shop :
    shop.schema = .ok shop.draft.schema ∧ ∃ files,
      shop.draft.schema.generate { basePackage := "com.example.demo", name := "demo" } =
        .ok files ∧ files.size = 17 := by
  obtain ⟨files, hfiles, -, -, hlength, hnodup, -⟩ :=
    schema_files shop_schema { basePackage := "com.example.demo", name := "demo" }
  obtain ⟨hnames, hcount⟩ : (shop.draft.schema.tables.values.map fun table =>
      typeName table.name).Nodup ∧ 2 * shop.draft.schema.tables.size +
        4 * (shop.draft.schema.tables.values.filter Table.isServed).length +
          shop.draft.schema.enums.size = 17 := by
    decide +kernel
  exact ⟨shop_schema, files, hfiles, (hnodup.2 hnames).trans (hlength.trans hcount)⟩

/-- The tables `user1` and `user_1` have twelve classes, and these six files. -/
theorem exists_class_without_file :
    let diagram := ofClassNames ["User1", "User_1"]
    let schema := diagram.draft.schema
    let project : JavaProject := { basePackage := "com.example.demo", name := "demo" }
    diagram.schema = .ok schema ∧ ∃ files, schema.generate project = .ok files ∧
      files.size = 6 ∧ 2 * schema.tables.size +
        4 * (schema.tables.values.filter Table.isServed).length + schema.enums.size = 12 := by
  intro diagram schema project
  obtain ⟨hfaults, hpaths, hcount⟩ : diagram.draft.faults = [] ∧
      (schema.files project).dedup.length = 6 ∧ 2 * schema.tables.size +
        4 * (schema.tables.values.filter Table.isServed).length + schema.enums.size = 12 := by
    decide +kernel
  have haccepted : diagram.schema = .ok schema := schema_eq_ok_iff.2 ⟨hfaults, rfl⟩
  have hrules := (sound_of_schema haccepted).rules
  have hsize := Schema.size_bundle_full hrules.storedByName
    (enumsStoredByName_of_schema haccepted) project
  exact ⟨haccepted, _, Schema.generate_eq_ok hrules project, hsize.trans hpaths, hcount⟩

end Diagram

end ClassDiagram
