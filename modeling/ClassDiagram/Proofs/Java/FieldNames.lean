import ClassDiagram.Proofs.Java.SourceLines
import ClassDiagram.Proofs.Java.TransferNames

/-!
# Names of fields

An entity gets its fields in three steps: those of its own columns, the inverse sides of the foreign
keys that lead to it, and the collections through join tables. Every name that is given is taken
from then on, so the fields of one entity have different names. A child keeps clear of the names
that it inherits, and these are those of the columns of the tables above: the key of the root and
what an ancestor gains in the later steps are not among them, and these are all that it can shadow.
-/

namespace ClassDiagram

/-! ## What is kept when fields are added -/

section Keeps

variable {motive : FieldDraft → Prop}
  (hadd : ∀ draft candidates javaType kind, motive draft →
    motive (FieldDraft.add draft candidates javaType kind))

include hadd

/-- An entity was there before it gained fields, and has every property that these keep. -/
theorem GainsAssociations.exists_before {before after : Catalog EntityDraft}
    (hgains : GainsAssociations before after) {name : String} {later : EntityDraft}
    (hlater : after.find? name = some later) :
    ∃ draft, before.find? name = some draft ∧ (motive draft.fields → motive later.fields) := by
  induction hgains generalizing later with
  | none => exact ⟨later, hlater, id⟩
  | @add after _ gaining candidates javaType kind _ ih =>
    rw [Catalog.find?_modify] at hlater
    split at hlater
    · obtain ⟨known, hknown, rfl⟩ := Option.map_eq_some_iff.1 hlater
      obtain ⟨draft, hfind, hkeeps⟩ := ih hknown
      exact ⟨draft, hfind, fun hdraft =>
        hadd known.fields (candidates known) javaType kind (hkeeps hdraft)⟩
    · exact ih hlater

/-- The fields of an entity are those of a draft that started with its own columns. -/
theorem Schema.exists_draft_of_entity {schema : Schema} {written : List String} {name : String}
    {entity : Entity} (hfind : (schema.entities written).find? name = some entity) :
    ∃ own draft, (schema.ownEntities schema.ownFields.drafts).find? name = some own ∧
      draft.fields = entity.fields ∧ (motive own.fields → motive draft) := by
  obtain ⟨drafts, hgains, hentities⟩ := schema.exists_gainsAssociations written
  rw [hentities, Catalog.find?_map, Option.map_eq_some_iff] at hfind
  obtain ⟨later, hlater, rfl⟩ := hfind
  obtain ⟨own, hown, hkeeps⟩ := hgains.exists_before hadd hlater
  exact ⟨own, later.fields, hown, rfl, hkeeps⟩

end Keeps

/-! ## The fields of one entity -/

namespace Schema

variable {schema : Schema}

/-- All names that a field is given are taken from then on. -/
theorem nodup_fieldNames_of_find? (hstored : schema.StoredByName) {written : List String}
    {name : String} {entity : Entity}
    (hfind : (schema.entities written).find? name = some entity) :
    (entity.fields.map Field.name).Nodup ∧ ∃ table, schema.table? name = some table := by
  obtain ⟨own, draft, hown, hfields, hkeeps⟩ :=
    exists_draft_of_entity (motive := FieldDraft.Named)
      (fun _ candidates javaType kind hnamed => hnamed.add candidates javaType kind) hfind
  obtain ⟨table, htable, hmade⟩ := exists_isMadeOf_of_find? hstored hown
  exact ⟨hfields ▸ (hkeeps hmade.named).nodup, table, htable⟩

/-- Every table of a valid schema has an entity, and the fields of an entity have different names,
whichever tables classes are written for. -/
theorem fieldNames_nodup (hvalid : schema.faults = []) (project : JavaProject)
    (tables enums : List String) :
    let backend := Backend.restricted schema project tables enums
    ∀ name, (backend.entity? name).map Entity.table = schema.table? name ∧
      ∀ entity, backend.entity? name = some entity → (entity.fields.map Field.name).Nodup := by
  intro backend name
  have hstored := (faults_eq_nil_iff.1 hvalid).storedByName
  refine ⟨?_, fun entity hentity => (nodup_fieldNames_of_find? hstored hentity).1⟩
  cases hfind : schema.table? name with
  | some table =>
    obtain ⟨entity, hentity, rfl, -⟩ := schema.exists_entity hstored hfind _
    exact Option.map_eq_some_iff.2 ⟨entity, hentity, rfl⟩
  | none =>
    rw [Option.map_eq_none_iff, Option.eq_none_iff_forall_not_mem]
    intro entity hentity
    obtain ⟨-, table, htable⟩ := nodup_fieldNames_of_find? hstored hentity
    cases hfind.symm.trans htable

end Schema

namespace Diagram

variable {diagram : Diagram} {schema : Schema}

/-- Two keys of the flights and a join table lead to the airports, whose entity has a name for each
of the four sides that it gains. -/
theorem fieldNames_nodup_flights :
    let backend := Backend.restricted flights.draft.schema
      { basePackage := "com.example.demo", name := "demo" } ["flight"] []
    flights.draft.schema.faults = [] ∧ ∃ entity, backend.entity? "airport" = some entity ∧
      entity.fields.map Field.name = ["id", "code", "flightList", "flightByAirport2List",
        "airportList", "airportByAirportListList"] ∧
      (entity.fields.map Field.name).Nodup := by
  intro backend
  obtain ⟨hvalid, hlists⟩ : flights.draft.schema.faults = [] ∧
      flights.draft.schema.ListsRootsFirst := by
    decide +kernel
  have hairport : (backend.entity? "airport").map (fun entity => entity.fields.map Field.name) =
      some ["id", "code", "flightList", "flightByAirport2List", "airportList",
        "airportByAirportListList"] := by
    simp only [backend, Backend.entity?, Backend.restricted, Schema.entities,
      Schema.ownFields_eq_foldl hlists]
    decide +kernel
  obtain ⟨entity, hentity, hnames⟩ := Option.map_eq_some_iff.1 hairport
  have hnodup := (Schema.fieldNames_nodup hvalid
    { basePackage := "com.example.demo", name := "demo" } ["flight"] [] "airport").2 entity hentity
  exact ⟨hvalid, entity, hentity, hnames, hnodup⟩

/-! ## The fields of a child -/

/-- When the source of a class declares a field with the name of one that the source of a class
above it declares, then that is the key of the root, or a field that the class above has gained from
the associations of others. -/
theorem schema_declaredNames (haccepted : diagram.schema = .ok schema) (project : JavaProject)
    (tables enums : List String) :
    let backend := Backend.restricted schema project tables enums
    ∀ table ∈ schema.tables.values, ∀ ancestor ∈ schema.ancestors table.name,
      ∃ entity above, backend.entity? table.name = some entity ∧
        backend.entity? ancestor.name = some above ∧
        backend.WritesFields entity entity.declaredFields ∧
        backend.WritesFields above above.declaredFields ∧
        ∀ field ∈ entity.declaredFields, ∀ inherited ∈ above.declaredFields,
          field.name = inherited.name →
            inherited.isKey = true ∧ ancestor.parent = none ∨ inherited.kind.isOwn = false := by
  intro backend table htable ancestor hancestor
  have hacyclic := schema_acyclic haccepted
  have hstored := schema_storedByName haccepted
  have hfind := (Schema.mem_values_iff_table? hstored).1 htable
  have habove := Schema.table?_of_mem_ancestors hacyclic hstored hancestor
  obtain ⟨entity, -, hentity, -⟩ :=
    Schema.exists_entity_fields hacyclic hstored hfind backend.written
  obtain ⟨above, gained, hother, htableAbove, hfields, hgained⟩ :=
    Schema.exists_entity_fields hacyclic hstored habove backend.written
  refine ⟨entity, above, hentity, hother, backend.writesFields_declaredFields entity,
    backend.writesFields_declaredFields above, fun field hfield inherited hinherited hname => ?_⟩
  obtain ⟨hmem, hdeclared⟩ := List.mem_filter.1 hinherited
  rw [hfields] at hmem
  rcases List.mem_append.1 hmem with hown | hlater
  · left
    cases hkey : inherited.isKey with
    | true => simpa [hkey, Entity.parentType?, htableAbove] using hdeclared
    | false =>
      -- the names of the other columns stay taken, whatever the child gains
      let names := inheritedFieldNames schema schema.ownFields.drafts table
      obtain ⟨own, draft, hdraft, hsame, hkeeps⟩ :=
        Schema.exists_draft_of_entity (motive := FieldDraft.Avoids names)
          (fun _ candidates javaType kind havoids => havoids.add candidates javaType kind) hentity
      rw [Schema.find?_ownEntities hacyclic hstored hfind, Option.some.injEq] at hdraft
      subst hdraft
      have havoids : draft.Avoids names := hkeeps (columnFields_avoids schema _ table)
      have hinheritedName : inherited.name ∈ names :=
        Schema.mem_inheritedFieldNames hacyclic hstored hancestor hown hkey
      have hfieldMem : field ∈ draft.fields := hsame ▸ List.mem_of_mem_filter hfield
      exact absurd (hname ▸ hinheritedName) (havoids.free field hfieldMem)
  · exact .inr (hgained inherited hlater)

/-- Badges of people and of the staff among them, both of which are in a team. -/
def staffBadges : Diagram where
  elements :=
    { id := "4"
      className := "Badge"
      attributes := []
      methods := []
      kind := .classKind } :: (staffWith "team: String").elements
  relationships := (staffWith "team: String").relationships ++
    [{ id := "r3"
       sourceId := "4"
       targetId := "2"
       kind := .association
       sourceCardinality := "*"
       targetCardinality := "1" },
      { id := "r4"
        sourceId := "4"
        targetId := "3"
        kind := .association
        sourceCardinality := "*"
        targetCardinality := "1" }]

/-- The attribute of the staff gives way to the association of all people. The badges do not: their
inverse sides are gained in the same step. -/
theorem declaredFields_badges :
    let backend :=
      Backend.full staffBadges.draft.schema { basePackage := "com.example.demo", name := "demo" }
    staffBadges.schema = .ok staffBadges.draft.schema ∧
      (∃ table ∈ staffBadges.draft.schema.tables.values, table.name = "staff" ∧
        ∃ ancestor ∈ staffBadges.draft.schema.ancestors table.name, ancestor.name = "person") ∧
      (backend.entity? "staff").map (fun entity => entity.declaredFields.map Field.name) =
        some ["team2", "badgeList"] ∧
      (backend.entity? "person").map (fun entity => entity.declaredFields.map Field.name) =
        some ["id", "team", "badgeList"] := by
  intro backend
  obtain ⟨hfaults, htables, hlists⟩ : staffBadges.draft.faults = [] ∧
      (∃ table ∈ staffBadges.draft.schema.tables.values, table.name = "staff" ∧
        ∃ ancestor ∈ staffBadges.draft.schema.ancestors table.name, ancestor.name = "person") ∧
      staffBadges.draft.schema.ListsRootsFirst := by
    decide +kernel
  refine ⟨schema_eq_ok_iff.2 ⟨hfaults, rfl⟩, htables, ?_⟩
  simp only [backend, Backend.entity?, Backend.full, Backend.restricted, Schema.entities,
    Schema.ownFields_eq_foldl hlists]
  decide +kernel

/-- Of what people declare the staff can only declare the badges and the key a second time. -/
theorem schema_declaredNames_badges :
    let backend :=
      Backend.full staffBadges.draft.schema { basePackage := "com.example.demo", name := "demo" }
    staffBadges.schema = .ok staffBadges.draft.schema ∧
      ∃ entity above, backend.entity? "staff" = some entity ∧
        backend.entity? "person" = some above ∧
        above.declaredFields.map Field.name = ["id", "team", "badgeList"] ∧
        ∀ field ∈ entity.declaredFields, ∀ inherited ∈ above.declaredFields,
          field.name = inherited.name →
            inherited.isKey = true ∨ inherited.kind.isOwn = false := by
  intro backend
  obtain ⟨haccepted, ⟨table, htable, hname, ancestor, hancestor, hname'⟩, -, hperson⟩ :=
    declaredFields_badges
  obtain ⟨entity, above, hentity, habove, -, -, hshadows⟩ := schema_declaredNames haccepted
    { basePackage := "com.example.demo", name := "demo" } staffBadges.draft.schema.tables.names
    staffBadges.draft.schema.enums.names table htable ancestor hancestor
  rw [hname] at hentity
  rw [hname'] at habove
  refine ⟨haccepted, entity, above, hentity, habove, ?_, ?_⟩
  · exact Option.some.inj ((congrArg (Option.map _) habove).symm.trans hperson)
  · intro field hfield inherited hinherited hsame
    exact (hshadows field hfield inherited hinherited hsame).imp_left And.left

/-- The staff declare the badges that they inherit from people once more. -/
theorem exists_shadowed_field :
    let backend :=
      Backend.full staffBadges.draft.schema { basePackage := "com.example.demo", name := "demo" }
    staffBadges.schema = .ok staffBadges.draft.schema ∧
      ∃ table ∈ staffBadges.draft.schema.tables.values,
      ∃ ancestor ∈ staffBadges.draft.schema.ancestors table.name,
      ∃ entity above, backend.entity? table.name = some entity ∧
        backend.entity? ancestor.name = some above ∧
        ∃ field ∈ entity.declaredFields, ∃ inherited ∈ above.declaredFields,
          HasLines (backend.entityClass entity) [field.line] ∧
          HasLines (backend.entityClass above) [inherited.line] ∧
          field.name = inherited.name := by
  intro backend
  obtain ⟨haccepted, ⟨table, htable, hname, ancestor, hancestor, hname'⟩, hstaff, hperson⟩ :=
    declaredFields_badges
  obtain ⟨entity, hentity, hfields⟩ := Option.map_eq_some_iff.1 hstaff
  obtain ⟨above, habove, hfields'⟩ := Option.map_eq_some_iff.1 hperson
  have hfield : "badgeList" ∈ entity.declaredFields.map Field.name := by simp [hfields]
  have hinherited : "badgeList" ∈ above.declaredFields.map Field.name := by simp [hfields']
  obtain ⟨field, hfield, hbadges⟩ := List.mem_map.1 hfield
  obtain ⟨inherited, hinherited, hbadges'⟩ := List.mem_map.1 hinherited
  exact ⟨haccepted, table, htable, ancestor, hancestor, entity, above, hname ▸ hentity,
    hname' ▸ habove, field, hfield, inherited, hinherited, backend.hasLines_line hfield,
    backend.hasLines_line hinherited, hbadges.trans hbadges'.symm⟩

end Diagram

end ClassDiagram
