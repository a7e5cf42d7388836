import ClassDiagram.Proofs.Java.Writing

/-!
# The two ways to new sources

The sources for what is new in a later schema are those that the merged schema has for the new
tables and enumerations. Both ways see the same entities, unless a join table leads from an old
table to a new one: then the way that writes the new classes only gives the part of the owner to the
new one.
-/

namespace ClassDiagram

theorem Backend.generate_eq_error_iff {backend : Backend} {faults : List ModelFault} :
    backend.generate = .error faults ↔
      backend.schema.faults ≠ [] ∧ backend.schema.faults = faults := by
  rw [generate]
  cases backend.schema.faults <;> simp

namespace Schema

/-- The entities of a schema depend on what is written only through the sides of its join
tables. -/
theorem entities_congr {schema : Schema} {left right : List String}
    (hsides : ∀ link ∈ schema.joinLinks, joinSides left link = joinSides right link) :
    schema.entities left = schema.entities right := by
  have hjoin : ∀ entities, ∀ link ∈ schema.joinLinks,
      addJoin schema left entities link = addJoin schema right entities link := by
    intro entities link hlink
    rw [addJoin, addJoin, hsides link hlink]
  unfold entities
  dsimp only
  rw [List.foldl_ext _ _ _ hjoin]

/-- The path of a class for a table or an enumeration that the earlier schema lacks. -/
def IsNewFile (base candidate : Schema) (project : JavaProject) (path : String) : Prop :=
  (∃ table ∈ (base.merge candidate).tables.values, table.name ∉ base.tables.names ∧
    path ∈ table.files project) ∨
  ∃ enumType ∈ (base.merge candidate).enums.values, enumType.name ∉ base.enums.names ∧
    path = enumType.file project

instance (base candidate : Schema) (project : JavaProject) (path : String) :
    Decidable (base.IsNewFile candidate project path) :=
  inferInstanceAs (Decidable ((∃ table ∈ (base.merge candidate).tables.values,
    table.name ∉ base.tables.names ∧ path ∈ table.files project) ∨
    ∃ enumType ∈ (base.merge candidate).enums.values, enumType.name ∉ base.enums.names ∧
      path = enumType.file project))

variable {base candidate : Schema} {project : JavaProject}

/-! ## What is written for the merged schema -/

section Stored

variable (hstored : candidate.StoredByName)

include hstored

theorem names_merge : (base.merge candidate).tables.names =
    base.tables.names ++ (base.newTables candidate).map Table.name := by
  rw [Catalog.names, entries_merge hstored, List.map_append, List.map_map]
  rfl

theorem written_increment (project : JavaProject) :
    (Backend.increment base candidate project).written =
      (base.newTables candidate).map Table.name := by
  have hold : base.tables.names.filter
      (fun name => ((base.newTables candidate).map Table.name).contains name) = [] := by
    rw [List.filter_eq_nil_iff]
    intro name hname hcontains
    obtain ⟨new, hnew, rfl⟩ := List.mem_map.1 (List.contains_iff_mem.1 hcontains)
    exact (mem_newTables_iff.1 hnew).2 hname
  rw [Backend.increment, Backend.restricted, names_merge hstored, List.filter_append, hold,
    List.nil_append, List.filter_eq_self]
  exact fun name => List.contains_iff_mem.2

theorem written_full (project : JavaProject) :
    (Backend.full (base.merge candidate) project).written =
      base.tables.names ++ (Backend.increment base candidate project).written := by
  rw [written_increment hstored, ← names_merge hstored]
  exact List.filter_eq_self.2 fun name => List.contains_iff_mem.2

end Stored

section Enums

variable (hbase : base.EnumsStoredByName) (hcandidate : candidate.EnumsStoredByName)

theorem values_enums_merge : (base.merge candidate).enums.values = base.enums.values ++
    (candidate.enums.entries.filter fun entry => !base.enums.contains entry.1).map Prod.snd := by
  rw [Catalog.values, entries_enums_merge, List.map_append, Catalog.values]

theorem mem_newEnums_iff {name : String} :
    name ∈ base.newEnums candidate ↔ name ∈ candidate.enums.names ∧ name ∉ base.enums.names := by
  rw [newEnums, List.mem_filter, Bool.not_eq_true', ← Bool.not_eq_true, Catalog.contains_iff]

include hbase hcandidate

theorem enums_increment (project : JavaProject) :
    (Backend.increment base candidate project).enums =
      (candidate.enums.entries.filter fun entry => !base.enums.contains entry.1).map
        Prod.snd := by
  have hold : base.enums.values.filter
      (fun enumType => (base.newEnums candidate).contains enumType.name) = [] := by
    rw [List.filter_eq_nil_iff]
    intro enumType hmem hcontains
    obtain ⟨entry, hentry, rfl⟩ := List.mem_map.1 hmem
    rw [List.contains_iff_mem, mem_newEnums_iff, hbase entry hentry] at hcontains
    exact hcontains.2 (List.mem_map_of_mem hentry)
  rw [Backend.increment, Backend.restricted, values_enums_merge, List.filter_append, hold,
    List.nil_append, List.filter_eq_self]
  intro enumType hmem
  obtain ⟨entry, hentry, rfl⟩ := List.mem_map.1 hmem
  obtain ⟨hentry, hnew⟩ := List.mem_filter.1 hentry
  rw [List.contains_iff_mem, hcandidate entry hentry, newEnums, List.mem_filter]
  exact ⟨List.mem_map_of_mem hentry, hnew⟩

theorem enums_full (project : JavaProject) :
    (Backend.full (base.merge candidate) project).enums =
      base.enums.values ++ (Backend.increment base candidate project).enums := by
  rw [enums_increment hbase hcandidate, ← values_enums_merge]
  apply List.filter_eq_self.2
  intro enumType hmem
  obtain ⟨entry, hentry, rfl⟩ := List.mem_map.1 hmem
  rw [List.contains_iff_mem, hbase.merge hcandidate entry hentry]
  exact List.mem_map_of_mem hentry

end Enums

/-- The files of the increment are the new ones. -/
theorem mem_paths_increment_iff (hmerged : (base.merge candidate).StoredByName)
    (hbase : base.EnumsStoredByName) (hcandidate : candidate.EnumsStoredByName) {path : String} :
    path ∈ (Backend.increment base candidate project).bundle.paths ↔
      base.IsNewFile candidate project path := by
  rw [Backend.increment, Backend.mem_paths_restricted_iff hmerged, IsNewFile]
  apply or_congr
  · apply exists_congr
    intro table
    apply and_congr_right
    intro hmem
    apply and_congr_left'
    have hname : table.name ∈ (base.merge candidate).tables.names := by
      rw [names_eq_map_values hmerged]
      exact List.mem_map_of_mem hmem
    constructor
    · intro hnew hold
      obtain ⟨new, hnew, heq⟩ := List.mem_map.1 hnew
      exact (mem_newTables_iff.1 hnew).2 (heq ▸ hold)
    · exact (mem_names_merge_iff.1 hname).resolve_left
  · apply exists_congr
    intro enumType
    apply and_congr_right
    intro hmem
    apply and_congr_left'
    rw [mem_newEnums_iff]
    refine and_iff_right_of_imp fun hnew => ?_
    rw [values_enums_merge, List.mem_append, List.mem_map, Catalog.values, List.mem_map] at hmem
    obtain ⟨entry, hentry, rfl⟩ | ⟨entry, hentry, rfl⟩ := hmem
    · rw [hbase entry hentry] at hnew
      exact absurd (List.mem_map_of_mem hentry) hnew
    · have hcandidateEntry := (List.mem_filter.1 hentry).1
      rw [hcandidate entry hcandidateEntry]
      exact List.mem_map_of_mem hcandidateEntry

/-! ## The entities of both ways -/

/-- An old table gives its part of a join table away only to a new table. -/
theorem joinSides_increment (hrules : (base.merge candidate).KeepsRules)
    {link : Link} (hlink : link ∈ (base.merge candidate).links)
    (hjoins : link.owner ∈ base.tables.names → link.referenced ∈ base.tables.names) :
    joinSides ((base.newTables candidate).map Table.name) link =
      joinSides (base.merge candidate).tables.names link := by
  have howner := (hrules.links link hlink).owner
  have hnew : ¬ (link.owner ∉ (base.newTables candidate).map Table.name ∧
      link.referenced ∈ (base.newTables candidate).map Table.name) := by
    rintro ⟨hownerOld, hreferenced⟩
    obtain ⟨new, hnew, heq⟩ := List.mem_map.1 hreferenced
    have hold := hjoins ((mem_names_merge_iff.1 howner).resolve_right hownerOld)
    exact (mem_newTables_iff.1 hnew).2 (heq ▸ hold)
  rw [joinSides, joinSides, if_neg (by simpa using hnew), if_neg (by simp [howner])]

section Merged

variable (hstored : candidate.StoredByName) (hbase : base.EnumsStoredByName)
  (hcandidate : candidate.EnumsStoredByName) (hrules : (base.merge candidate).KeepsRules)
  (hjoins : ∀ link ∈ (base.merge candidate).joinLinks,
    link.owner ∈ base.tables.names → link.referenced ∈ base.tables.names)

include hstored hrules hjoins

theorem entities_increment (project : JavaProject) :
    (Backend.increment base candidate project).entities =
      (Backend.full (base.merge candidate) project).entities := by
  change (base.merge candidate).entities (Backend.increment base candidate project).written =
    (base.merge candidate).entities (Backend.full (base.merge candidate) project).written
  apply entities_congr
  intro link hlink
  rw [written_full hstored, written_increment hstored, ← names_merge hstored]
  exact joinSides_increment hrules (List.mem_filter.1 hlink).1 (hjoins link hlink)

include hbase hcandidate

/-- The merged schema is written as the increment is, with the old classes in front. -/
theorem full_merge_eq (project : JavaProject) :
    Backend.full (base.merge candidate) project =
      (Backend.increment base candidate project).writing
        (base.tables.names ++ (Backend.increment base candidate project).written)
        (base.enums.values ++ (Backend.increment base candidate project).enums) := by
  have hentities := entities_increment hstored hrules hjoins project
  rw [← written_full hstored, ← enums_full hbase hcandidate]
  exact Backend.eq_writing rfl rfl hentities.symm

theorem find?_bundle_increment {path : String}
    (hpath : path ∈ (Backend.increment base candidate project).bundle.paths) :
    (Backend.increment base candidate project).bundle.find? path =
      (Backend.full (base.merge candidate) project).bundle.find? path := by
  rw [full_merge_eq hstored hbase hcandidate hrules hjoins,
    Backend.find?_bundle_writing_append _ _ _ hpath]

end Merged

end Schema

namespace Diagram

variable {baseDiagram candidateDiagram : Diagram} {base candidate : Schema}

/-- Sources are refused for the same faults in both ways. Otherwise the increment has the new files
only, each as it is among the sources of the merged schema, provided that no join table leads from
an old table to a new one. -/
theorem generateIncrement_agrees (hbase : baseDiagram.schema = .ok base)
    (hcandidate : candidateDiagram.schema = .ok candidate) (project : JavaProject)
    (hjoins : ∀ link ∈ (base.merge candidate).joinLinks,
      ¬ (link.owner ∈ base.tables.names ∧ link.referenced ∉ base.tables.names)) :
    (∀ faults, base.generateIncrement candidate project = .error faults ↔
      (base.merge candidate).generate project = .error faults) ∧
    ∀ files, (base.merge candidate).generate project = .ok files →
      ∃ increment, base.generateIncrement candidate project = .ok increment ∧
        ∀ path,
          (base.IsNewFile candidate project path →
            (files.find? path).isSome ∧ increment.find? path = files.find? path) ∧
          (¬ base.IsNewFile candidate project path → increment.find? path = none) := by
  constructor
  · intro faults
    have hfull : (base.merge candidate).generate project = .error faults ↔
        (base.merge candidate).faults ≠ [] ∧ (base.merge candidate).faults = faults :=
      Backend.generate_eq_error_iff
    exact Backend.generate_eq_error_iff.trans hfull.symm
  · intro files hfiles
    obtain ⟨hrules, rfl⟩ := Backend.generate_eq_ok_iff.1 hfiles
    have hstored := (sound_of_schema hcandidate).rules.storedByName
    have hbaseEnums := enumsStoredByName_of_schema hbase
    have hcandidateEnums := enumsStoredByName_of_schema hcandidate
    refine ⟨_, Backend.generate_eq_ok_iff.2 ⟨hrules, rfl⟩, fun path => ?_⟩
    rw [← Schema.mem_paths_increment_iff hrules.storedByName hbaseEnums hcandidateEnums]
    constructor
    · intro hpath
      have hagree := Schema.find?_bundle_increment hstored hbaseEnums hcandidateEnums hrules
        (fun link hlink howner => not_not.1 fun hnew => hjoins link hlink ⟨howner, hnew⟩) hpath
      obtain ⟨text, htext⟩ := Catalog.mem_names_iff.1 (Backend.mem_paths_iff.1 hpath)
      exact ⟨Option.isSome_of_eq_some (hagree.symm.trans htext), hagree⟩
    · intro hpath
      rwa [Backend.mem_paths_iff, ← Catalog.find?_eq_none_iff] at hpath

/-- Users and orders, with a join table between orders and users. -/
def orders : Diagram where
  elements := (ofClassNames ["User", "Order"]).elements
  relationships :=
    [{ id := "r1"
       sourceId := "Order"
       targetId := "User"
       kind := .association
       sourceCardinality := "*"
       targetCardinality := "*" }]

/-- Beside the users the class of the orders is written, with the side of the join table that it has
in the whole. -/
theorem generateIncrement_agrees_orders :
    let base := (ofClassNames ["User"]).draft.schema
    let candidate := orders.draft.schema
    let project : JavaProject := { basePackage := "com.example.demo", name := "demo" }
    (ofClassNames ["User"]).schema = .ok base ∧ orders.schema = .ok candidate ∧
      ∃ files increment, (base.merge candidate).generate project = .ok files ∧
        base.generateIncrement candidate project = .ok increment ∧
        (files.find? (project.classPath .entity "Order")).isSome ∧
        increment.find? (project.classPath .entity "Order") =
          files.find? (project.classPath .entity "Order") ∧
        increment.find? (project.classPath .entity "User") = none := by
  intro base candidate project
  have hbase : (ofClassNames ["User"]).schema = .ok base :=
    schema_eq_ok_iff.2 ⟨by decide +kernel, rfl⟩
  have hcandidate : orders.schema = .ok candidate := schema_eq_ok_iff.2 ⟨by decide +kernel, rfl⟩
  have hrules : (base.merge candidate).KeepsRules := Schema.faults_eq_nil_iff.1 (by decide +kernel)
  have hfiles := Schema.generate_eq_ok hrules project
  obtain ⟨increment, hincrement, hpaths⟩ :=
    (generateIncrement_agrees hbase hcandidate project (by decide +kernel)).2 _ hfiles
  have horder := (hpaths (project.classPath .entity "Order")).1 (by decide +kernel)
  have huser := (hpaths (project.classPath .entity "User")).2 (by decide +kernel)
  exact ⟨hbase, hcandidate, _, increment, hfiles, hincrement, horder.1, horder.2, huser⟩

end Diagram

end ClassDiagram
