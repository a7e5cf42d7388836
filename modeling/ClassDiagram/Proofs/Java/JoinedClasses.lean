import ClassDiagram.Proofs.Derivation.Keys
import ClassDiagram.Proofs.Java.Agreement
import ClassDiagram.Proofs.Java.SourceLines
import ClassDiagram.Proofs.Schema.Merge

/-!
# Classes with children in tables of their own

The class of a table that has children is marked: the children have tables of their own, which are
joined. Whether there are children is asked when the class is written. A new class is written with
the old and the new tables at hand, and all its children are among them. An old class was written
before, and stays without the mark if its first child is a new one.
-/

namespace ClassDiagram

/-- The annotation of a class whose children have tables of their own. -/
def joinedLine : String := "@Inheritance(strategy = InheritanceType.JOINED)"

theorem joinedLine_ne_append {word : String}
    (hopening : ¬ word.toList <+: joinedLine.toList) (rest : String) :
    joinedLine ≠ word ++ rest := by
  intro heq
  rw [heq, String.toList_append] at hopening
  exact hopening (List.prefix_append _ _)

theorem Schema.hasChildren_iff {schema : Schema} {name : String} :
    schema.hasChildren name = true ↔ ∃ child ∈ schema.tables.values, child.parent = some name := by
  simp [hasChildren]

namespace Backend

/-- The class of an entity is marked exactly if its table has children in the schema. -/
theorem joinedLine_mem_iff (backend : Backend) (entity : Entity) :
    joinedLine ∈ backend.classAnnotations entity ↔
      backend.schema.hasChildren entity.table.name = true := by
  -- the other lines open with other words
  have htable :
      joinedLine ≠ "@Table(name = \"" ++ quotedTable entity.table.name ++ "\")" := by
    rw [String.append_assoc]
    exact joinedLine_ne_append (by decide) _
  have hkeyClass : joinedLine ≠ s!"@IdClass({entity.typeName}.Key.class)" := by
    change joinedLine ≠ "@IdClass(" ++ entity.typeName ++ ".Key.class)"
    rw [String.append_assoc]
    exact joinedLine_ne_append (by decide) _
  have hparentKey : ∀ key, joinedLine ≠ parentKeyLine key := by
    intro key
    unfold parentKeyLine
    simp only [toString, String.append_assoc]
    exact joinedLine_ne_append (by decide) _
  unfold classAnnotations
  simp only [List.mem_append]
  constructor
  · rintro (((hclass | hkey) | hmark) | hparent)
    · rw [List.mem_cons, List.mem_singleton] at hclass
      exact absurd hclass (not_or_intro (by decide) htable)
    · split at hkey
      · exact absurd (List.mem_singleton.1 hkey) hkeyClass
      · cases hkey
    · split at hmark
      · assumption
      · cases hmark
    · split at hparent
      · exact absurd (List.mem_singleton.1 hparent) (hparentKey _)
      · cases hparent
  · intro hchildren
    rw [if_pos hchildren]
    exact .inl (.inr (List.mem_singleton_self _))

/-- A source has the mark in a line of its own. -/
theorem joinedLine_mem_entityLines_iff (backend : Backend) (entity : Entity) :
    joinedLine ∈ backend.entityLines entity ↔
      backend.schema.hasChildren entity.table.name = true := by
  rw [← backend.mem_classAnnotations_iff entity (by decide), joinedLine_mem_iff]

/-- The class of a table among sources. Of written tables with one name in Java the last one has its
class there. -/
structure KeepsClass (backend : Backend) (written : List Table) (sources : Bundle) (table : Table)
    (entity : Entity) : Prop where
  find : backend.entity? table.name = some entity
  own : entity.table = table
  source : backend.entityClass entity = unlines (backend.entityLines entity)
  kept : ∀ before after, written = before ++ table :: after →
    (∀ other ∈ after, typeName other.name ≠ typeName table.name) →
      sources.find? (backend.project.classPath .entity (typeName table.name)) =
        some (backend.entityClass entity)

theorem exists_keepsClass {schema : Schema} (hstored : schema.StoredByName) (project : JavaProject)
    (tables enums : List String) {table : Table}
    (hfind : schema.table? table.name = some table) :
    ∃ entity, (restricted schema project tables enums).KeepsClass
      (schema.tables.values.filter fun table => tables.contains table.name)
      (restricted schema project tables enums).bundle table entity := by
  let backend := restricted schema project tables enums
  obtain ⟨entity, hentity, hown, -⟩ := Schema.exists_entity hstored hfind backend.written
  refine ⟨entity, hentity, hown, backend.entityClass_eq entity,
    fun before after hwritten hlast => ?_⟩
  obtain ⟨found, hfound, -, hkept⟩ :=
    find?_entityClass_restricted hstored project tables enums hwritten hlast
  obtain rfl : entity = found := Option.some.inj (hentity.symm.trans hfound)
  exact hkept

theorem keepsClass_of_mem_writtenEntities {schema : Schema} (hstored : schema.StoredByName)
    (project : JavaProject) (tables enums : List String) {entity : Entity}
    (hwritten : entity ∈ (restricted schema project tables enums).writtenEntities) :
    (restricted schema project tables enums).KeepsClass
      (schema.tables.values.filter fun table => tables.contains table.name)
      (restricted schema project tables enums).bundle entity.table entity := by
  obtain ⟨name, hname, hentity⟩ := List.mem_filterMap.1 hwritten
  obtain ⟨table, hfind⟩ := Catalog.mem_names_iff.1 (List.mem_filter.1 hname).1
  obtain rfl : table.name = name := hstored name table hfind
  obtain ⟨found, hkept⟩ := exists_keepsClass hstored project tables enums hfind
  obtain rfl : entity = found := Option.some.inj (hentity.symm.trans hkept.find)
  exact hkept.own.symm ▸ hkept

end Backend

/-- A line that does not end with the mark. -/
def LacksJoined (line : String) : Prop :=
  '\n' ∉ line.toList ∧ joinedLine.toList.isSuffixOf line.toList = false

instance (line : String) : Decidable (LacksJoined line) :=
  inferInstanceAs (Decidable (_ ∧ _))

/-- A source is without the mark if none of its lines ends with it. -/
theorem Backend.not_hasLines_joinedLine {backend : Backend} {entity : Entity}
    (hlines : ∀ line ∈ backend.entityLines entity, LacksJoined line) :
    ¬ HasLines (backend.entityClass entity) [joinedLine] := by
  rw [backend.entityClass_eq]
  intro hsource
  obtain ⟨part, hpart, hsuffix⟩ :=
    exists_suffix_of_hasLines hsource (by decide) fun line hline => (hlines line hline).1
  have hlacks : LacksJoined part := by
    rcases List.mem_cons.1 hpart with rfl | hline
    · decide
    · exact hlines part hline
  rw [← List.isSuffixOf_iff_suffix, hlacks.2] at hsuffix
  cases hsuffix

/-! ## Old and new parents -/

namespace Schema

variable {base candidate : Schema}

/-- Among the tables of both schemas those with new names are the new ones. -/
theorem filter_merge_eq_newTables (hbase : base.StoredByName) (hstored : candidate.StoredByName) :
    (base.merge candidate).tables.values.filter
        (fun table => ((base.newTables candidate).map Table.name).contains table.name) =
      base.newTables candidate := by
  have hold : base.tables.values.filter
      (fun table => ((base.newTables candidate).map Table.name).contains table.name) = [] := by
    rw [List.filter_eq_nil_iff]
    intro table htable hcontains
    obtain ⟨new, hnew, heq⟩ := List.mem_map.1 (List.contains_iff_mem.1 hcontains)
    have hname : table.name ∈ base.tables.names := by
      rw [names_eq_map_values hbase]
      exact List.mem_map_of_mem htable
    exact (mem_newTables_iff.1 hnew).2 (heq ▸ hname)
  rw [values_merge hstored, List.filter_append, hold, List.nil_append, List.filter_eq_self]
  exact fun table htable => List.contains_iff_mem.2 (List.mem_map_of_mem htable)

/-- The parent of a new table is a new table too, if it is not an old one. -/
theorem exists_parent_mem_newTables (hcandidate : candidate.KeepsRules) {new : Table}
    (hnew : new ∈ base.newTables candidate) {parent : String} (hparent : new.parent = some parent)
    (hlacks : parent ∉ base.tables.names) :
    ∃ above ∈ base.newTables candidate, above.name = parent := by
  obtain ⟨hfind, -⟩ := (mem_newTables_iff_table? hcandidate.storedByName).1 hnew
  have hname := (hcandidate.tables new.name new hfind).parent parent hparent
  obtain ⟨above, habove⟩ := Catalog.mem_names_iff.1 hname
  obtain rfl := hcandidate.storedByName parent above habove
  exact ⟨above, (mem_newTables_iff_table? hcandidate.storedByName).2 ⟨habove, hlacks⟩, rfl⟩

/-- The class of a new table is marked if a new table has it as its parent. -/
theorem exists_joined_of_newParent (hbase : base.KeepsRules) (hcandidate : candidate.KeepsRules)
    (project : JavaProject) {new above : Table} (hnew : new ∈ base.newTables candidate)
    (habove : above ∈ base.newTables candidate) (hparent : new.parent = some above.name) :
    ∃ entity, (Backend.increment base candidate project).KeepsClass (base.newTables candidate)
        (Backend.increment base candidate project).bundle above entity ∧
      HasLines ((Backend.increment base candidate project).entityClass entity) [joinedLine] := by
  have hstored := hcandidate.storedByName
  obtain ⟨hfind, hlacks⟩ := (mem_newTables_iff_table? hstored).1 habove
  obtain ⟨entity, hkept⟩ := Backend.exists_keepsClass (hstored.merge hbase.storedByName) project
    ((base.newTables candidate).map Table.name) (base.newEnums candidate)
    ((table?_merge_of_new hstored hlacks).trans hfind)
  rw [filter_merge_eq_newTables hbase.storedByName hstored] at hkept
  refine ⟨entity, hkept, Backend.hasLines_entityClass _ ?_⟩
  rw [Backend.joinedLine_mem_entityLines_iff, hkept.own]
  refine hasChildren_iff.2 ⟨new, ?_, hparent⟩
  change new ∈ (base.merge candidate).tables.values
  rw [values_merge hstored]
  exact List.mem_append_right _ hnew

/-- The class of an old table is marked if it had children before. -/
theorem exists_joined_iff_of_old (hbase : base.KeepsRules) (project : JavaProject) {old : Table}
    (hfind : base.table? old.name = some old) :
    ∃ entity, (Backend.full base project).KeepsClass base.tables.values
        (Backend.full base project).bundle old entity ∧
      (joinedLine ∈ (Backend.full base project).entityLines entity ↔
        base.hasChildren old.name = true) := by
  obtain ⟨entity, hkept⟩ := Backend.exists_keepsClass hbase.storedByName project base.tables.names
    base.enums.names hfind
  rw [filter_names_contains hbase.storedByName] at hkept
  refine ⟨entity, hkept, ?_⟩
  rw [Backend.joinedLine_mem_entityLines_iff, hkept.own]
  rfl

/-- The source of a written class is in the increment. -/
theorem keepsClass_increment (hbase : base.StoredByName) (hstored : candidate.StoredByName)
    (project : JavaProject) {entity : Entity}
    (hwritten : entity ∈ (Backend.increment base candidate project).writtenEntities) :
    (Backend.increment base candidate project).KeepsClass (base.newTables candidate)
      (Backend.increment base candidate project).bundle entity.table entity := by
  have hkept := Backend.keepsClass_of_mem_writtenEntities (hstored.merge hbase) project _ _ hwritten
  rwa [filter_merge_eq_newTables hbase hstored] at hkept

theorem map_table_writtenEntities_increment (hbase : base.StoredByName)
    (hstored : candidate.StoredByName) (project : JavaProject) :
    (Backend.increment base candidate project).writtenEntities.map Entity.table =
      base.newTables candidate :=
  (Backend.map_table_writtenEntities (hstored.merge hbase) project _ _).trans
    (filter_merge_eq_newTables hbase hstored)

end Schema

/-! ## Increments of derived schemas -/

namespace Diagram

variable {baseDiagram candidateDiagram : Diagram} {base candidate : Schema}

/-- The class that a new class extends is a new one or an old one. The source of a new one is
written beside it and has the mark. That of an old one was written before, and has the mark if and
only if its table had children already. -/
theorem generateIncrement_joined (hbase : baseDiagram.schema = .ok base)
    (hcandidate : candidateDiagram.schema = .ok candidate) (project : JavaProject)
    {increment : Bundle} (hincrement : base.generateIncrement candidate project = .ok increment) :
    let backend := Backend.increment base candidate project
    let full := Backend.full base project
    ∃ files, base.generate project = .ok files ∧
      ∀ entity ∈ backend.writtenEntities,
        backend.KeepsClass (base.newTables candidate) increment entity.table entity ∧
        (backend.entityLines entity).filter (opensWith "public ") = [entity.headLine] ∧
        ∀ parent, entity.table.parent = some parent →
          (∃ front, entity.headLine = front ++ " extends " ++ typeName parent ++ " \x7b") ∧
          HasLines (backend.entityClass entity) [entity.headLine] ∧
          (parent ∉ base.tables.names → ∃ new ∈ base.newTables candidate, new.name = parent ∧
            ∃ above, backend.KeepsClass (base.newTables candidate) increment new above ∧
              HasLines (backend.entityClass above) [joinedLine]) ∧
          ∀ old, base.table? parent = some old →
            ∃ above, full.KeepsClass base.tables.values files old above ∧
              (joinedLine ∈ full.entityLines above ↔ base.hasChildren parent = true) ∧
              (base.hasChildren parent = true →
                HasLines (full.entityClass above) [joinedLine]) := by
  intro backend full
  have hbaseRules := (sound_of_schema hbase).rules
  have hcandidateRules := (sound_of_schema hcandidate).rules
  obtain ⟨-, rfl⟩ := Backend.generate_eq_ok_iff.1 hincrement
  refine ⟨_, Schema.generate_eq_ok hbaseRules project, fun entity hwritten => ?_⟩
  have hnew : entity.table ∈ base.newTables candidate := by
    rw [← Schema.map_table_writtenEntities_increment hbaseRules.storedByName
      hcandidateRules.storedByName project]
    exact List.mem_map_of_mem hwritten
  refine ⟨Schema.keepsClass_increment hbaseRules.storedByName hcandidateRules.storedByName project
    hwritten, backend.filter_public_entityLines entity, fun parent hparent => ?_⟩
  refine ⟨?_, backend.hasLines_headLine entity, fun hlacks => ?_, fun old hold => ?_⟩
  · rw [Entity.headLine, hparent]
    exact ⟨_, congrArg (· ++ " \x7b") (String.append_assoc ..).symm⟩
  · obtain ⟨above, habove, rfl⟩ :=
      Schema.exists_parent_mem_newTables hcandidateRules hnew hparent hlacks
    exact ⟨above, habove, rfl,
      Schema.exists_joined_of_newParent hbaseRules hcandidateRules project hnew habove hparent⟩
  · obtain rfl := hbaseRules.storedByName parent old hold
    obtain ⟨above, hkept, hmark⟩ := Schema.exists_joined_iff_of_old hbaseRules project hold
    exact ⟨above, hkept, hmark, fun hchildren => full.hasLines_entityClass (hmark.2 hchildren)⟩

/-- Clerks among the people. -/
def clerks : Diagram where
  elements := (ofClassNames ["Person", "Clerk"]).elements
  relationships :=
    [{ id := "r1"
       sourceId := "Clerk"
       targetId := "Person"
       kind := .inheritance
       sourceCardinality := ""
       targetCardinality := "" }]

/-- Beside the clerks the staff, and the managers among the staff. -/
def managers : Diagram where
  elements := clerks.elements ++ (ofClassNames ["Staff", "Manager"]).elements
  relationships := clerks.relationships ++
    [{ id := "r2"
       sourceId := "Staff"
       targetId := "Person"
       kind := .inheritance
       sourceCardinality := ""
       targetCardinality := "" },
      { id := "r3"
        sourceId := "Manager"
        targetId := "Staff"
        kind := .inheritance
        sourceCardinality := ""
        targetCardinality := "" }]

/-- The staff extend the people, whose class is marked for the clerks, and the managers extend the
staff, whose class is new and marked as well. -/
theorem generateIncrement_joined_managers :
    let base := clerks.draft.schema
    let candidate := managers.draft.schema
    let project : JavaProject := { basePackage := "com.example.demo", name := "demo" }
    clerks.schema = .ok base ∧ managers.schema = .ok candidate ∧
      ∃ files increment, base.generate project = .ok files ∧
        base.generateIncrement candidate project = .ok increment ∧
        (∃ above, (Backend.full base project).entity? "person" = some above ∧
          HasLines ((Backend.full base project).entityClass above) [joinedLine]) ∧
        ∃ above, (Backend.increment base candidate project).entity? "staff" = some above ∧
          HasLines ((Backend.increment base candidate project).entityClass above)
            [joinedLine] := by
  intro base candidate project
  obtain ⟨⟨hbaseFaults, hcandidateFaults, hfaults⟩, hperson, hlacks, hchildren, hstaff, hmanager⟩ :
      (clerks.draft.faults = [] ∧ managers.draft.faults = [] ∧ (base.merge candidate).faults = []) ∧
        "person" ∈ base.tables.names ∧ "staff" ∉ base.tables.names ∧
        base.hasChildren "person" = true ∧
        (∃ new ∈ base.newTables candidate, new.parent = some "person") ∧
        ∃ new ∈ base.newTables candidate, new.parent = some "staff" := by
    decide +kernel
  have hbase : clerks.schema = .ok base := schema_eq_ok_iff.2 ⟨hbaseFaults, rfl⟩
  have hcandidate : managers.schema = .ok candidate := schema_eq_ok_iff.2 ⟨hcandidateFaults, rfl⟩
  have hincrement : base.generateIncrement candidate project =
      .ok (Backend.increment base candidate project).bundle :=
    Backend.generate_eq_ok_iff.2 ⟨Schema.faults_eq_nil_iff.1 hfaults, rfl⟩
  have hwritten := Schema.map_table_writtenEntities_increment (schema_storedByName hbase)
    (schema_storedByName hcandidate) project
  obtain ⟨files, hfiles, hjoined⟩ :=
    generateIncrement_joined hbase hcandidate project hincrement
  rw [← hwritten] at hstaff hmanager
  obtain ⟨_, hmem, hstaffParent⟩ := hstaff
  obtain ⟨staff, hstaff, rfl⟩ := List.mem_map.1 hmem
  obtain ⟨_, hmem, hmanagerParent⟩ := hmanager
  obtain ⟨manager, hmanager, rfl⟩ := List.mem_map.1 hmem
  obtain ⟨old, hold⟩ := Catalog.mem_names_iff.1 hperson
  have hname := schema_storedByName hbase _ old hold
  obtain ⟨-, -, hstaffJoined⟩ := hjoined staff hstaff
  obtain ⟨person, hkept, -, hmark⟩ := (hstaffJoined _ hstaffParent).2.2.2 old hold
  obtain ⟨-, -, hmanagerJoined⟩ := hjoined manager hmanager
  obtain ⟨new, -, hnewName, above, hnew, hnewMark⟩ :=
    (hmanagerJoined _ hmanagerParent).2.2.1 hlacks
  exact ⟨hbase, hcandidate, files, _, hfiles, hincrement,
    ⟨person, hname ▸ hkept.find, hmark hchildren⟩, above, hnewName ▸ hnew.find, hnewMark⟩

/-- The staff are the first to extend the people, whose class was written before them and is not
marked. -/
theorem exists_unmarked_parent :
    let base := (people "id").draft.schema
    let candidate := (badges "id").draft.schema
    let project : JavaProject := { basePackage := "com.example.demo", name := "demo" }
    (people "id").schema = .ok base ∧ (badges "id").schema = .ok candidate ∧
      ∃ files increment, base.generate project = .ok files ∧
        base.generateIncrement candidate project = .ok increment ∧
        (∃ entity ∈ (Backend.increment base candidate project).writtenEntities,
          HasLines ((Backend.increment base candidate project).entityClass entity)
            ["public class Staff extends Person \x7b"]) ∧
        ∃ above, (Backend.full base project).entity? "person" = some above ∧
          files.find? (project.classPath .entity "Person") =
            some ((Backend.full base project).entityClass above) ∧
          ¬ HasLines ((Backend.full base project).entityClass above) [joinedLine] := by
  intro base candidate project
  obtain ⟨⟨hbaseFaults, hcandidateFaults, hfaults⟩, ⟨hnames, hlists⟩, htypes, hstaff⟩ :
      ((people "id").draft.faults = [] ∧ (badges "id").draft.faults = [] ∧
        (base.merge candidate).faults = []) ∧
        (base.tables.names = ["person"] ∧ base.ListsRootsFirst) ∧
        (typeName "person" = "Person" ∧ typeName "staff" = "Staff") ∧
        ∃ new ∈ base.newTables candidate, new.name = "staff" ∧ new.isAbstract = false ∧
          new.parent = some "person" := by
    decide +kernel
  have hbase : (people "id").schema = .ok base := schema_eq_ok_iff.2 ⟨hbaseFaults, rfl⟩
  have hcandidate : (badges "id").schema = .ok candidate :=
    schema_eq_ok_iff.2 ⟨hcandidateFaults, rfl⟩
  have hrules := (sound_of_schema hbase).rules
  have hincrement : base.generateIncrement candidate project =
      .ok (Backend.increment base candidate project).bundle :=
    Backend.generate_eq_ok_iff.2 ⟨Schema.faults_eq_nil_iff.1 hfaults, rfl⟩
  obtain ⟨old, hvalues, hname⟩ : ∃ old, base.tables.values = [old] ∧ old.name = "person" := by
    rw [Schema.names_eq_map_values hrules.storedByName] at hnames
    exact List.map_eq_singleton_iff.1 hnames
  have hold : base.table? old.name = some old :=
    (Schema.mem_values_iff_table? hrules.storedByName).1 (hvalues ▸ List.mem_singleton_self old)
  obtain ⟨above, hkept, -⟩ := Schema.exists_joined_iff_of_old hrules project hold
  -- no line of the old source ends with the mark, so the mark is nowhere in its text
  obtain ⟨person, hperson, himports, hclass⟩ :
      ∃ person ∈ (Backend.full base project).entity? "person",
        (∀ qualified ∈ (Backend.full base project).entityImports person,
          LacksJoined (importLine qualified)) ∧
        ∀ line ∈ (Backend.full base project).classLines person, LacksJoined line := by
    simp only [Backend.entity?, Backend.full, Backend.restricted, Schema.entities,
      Schema.ownFields_eq_foldl hlists]
    decide +kernel
  have hunmarked : ¬ HasLines ((Backend.full base project).entityClass person) [joinedLine] :=
    Backend.not_hasLines_joinedLine
      (Backend.forall_mem_entityLines (by decide) (by decide) himports hclass)
  have hsource := hkept.kept [] [] hvalues (List.forall_mem_nil _)
  rw [hname, htypes.1] at hsource
  obtain rfl : person = above := Option.some.inj (hperson.symm.trans (hname ▸ hkept.find))
  refine ⟨hbase, hcandidate, _, _, Schema.generate_eq_ok hrules project, hincrement, ?_, person,
    hperson, hsource, hunmarked⟩
  obtain ⟨new, hnew, hstaffName, hconcrete, hparent⟩ := hstaff
  rw [← Schema.map_table_writtenEntities_increment hrules.storedByName
    (schema_storedByName hcandidate) project] at hnew
  obtain ⟨entity, hentity, rfl⟩ := List.mem_map.1 hnew
  have hhead : entity.headLine = "public class Staff extends Person \x7b" := by
    rw [Entity.headLine, Entity.typeName, hstaffName, hconcrete, hparent]
    dsimp only
    rw [htypes.1, htypes.2]
    decide
  exact ⟨entity, hentity, hhead ▸ Backend.hasLines_headLine _ entity⟩

end Diagram

end ClassDiagram
