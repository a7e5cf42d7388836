import ClassDiagram.Proofs.Java.InverseSides

/-!
# The sides of associations agree

The entities of a derived schema start with the owning sides that their own foreign keys are, all of
which wait for their inverse sides. The tables are then gone through in order, and each foreign key
gets its inverse side. A link through a join table adds both sides at once. In the end nothing
waits, whichever tables classes are written for.
-/

namespace ClassDiagram

/-- Every inverse side names one field of the entity that owns its association, every owning side
has one inverse side, and the keys that a many-to-many association goes through lead to its two
sides. -/
structure Schema.AssociationsAgree (schema : Schema) (entities : Catalog Entity) : Prop where
  inverse : ∀ table entity, entities.find? table = some entity → ∀ field ∈ entity.fields,
    ∀ owner mappedBy, field.kind.mapped? = some (owner, mappedBy) →
      ∃ ownerEntity owning, entities.find? owner = some ownerEntity ∧
        ownerEntity.fields.filter (fun other => other.name == mappedBy) = [owning] ∧
        owning.inverse? owner = some (table, field.kind)
  owning : ∀ table entity, entities.find? table = some entity → ∀ field ∈ entity.fields,
    ∀ target kind, field.inverse? table = some (target, kind) →
      ∃ targetEntity inverse, entities.find? target = some targetEntity ∧
        targetEntity.fields.filter
          (fun other => other.kind.mapped? == some (table, field.name)) = [inverse] ∧
        inverse.kind = kind
  joins : ∀ table entity, entities.find? table = some entity → ∀ field ∈ entity.fields,
    schema.JoinsField table field

/-! ## Own foreign keys -/

/-- The foreign keys among the fields of an entity, each with the table of the entity. -/
def ownAssociations (entities : Catalog EntityDraft) (table : String) : List (String × Field) :=
  match entities.find? table with
  | none => []
  | some draft => (foreignKeyFields draft.fields.fields).map fun field => (table, field)

theorem mem_ownAssociations {entities : Catalog EntityDraft} {table : String}
    {waiting : String × Field} : waiting ∈ ownAssociations entities table ↔
      waiting.1 = table ∧ HasField entities table waiting.2 ∧
        waiting.2.kind.isForeignKey = true := by
  obtain ⟨other, field⟩ := waiting
  cases hfind : entities.find? table with
  | none => simp [ownAssociations, HasField, hfind]
  | some draft =>
    simp only [ownAssociations, hfind, foreignKeyFields, List.mem_map, List.mem_filter, HasField,
      Prod.mk.injEq, Option.some.injEq, exists_eq_left']
    constructor
    · rintro ⟨field, ⟨hfield, hforeign⟩, rfl, rfl⟩
      exact ⟨rfl, hfield, hforeign⟩
    · rintro ⟨rfl, hfield, hforeign⟩
      exact ⟨field, ⟨hfield, hforeign⟩, rfl, rfl⟩

theorem Field.isForeignKey_of_inverse? {table : String} {field : Field}
    {inverse : String × FieldKind} (hown : field.kind.isOwn = true)
    (hinverse : field.inverse? table = some inverse) : field.kind.isForeignKey = true := by
  rw [inverse?] at hinverse
  split at hinverse
  · rename_i hkind
    rw [hkind]
    rfl
  · rename_i hkind
    rw [hkind]
    rfl
  · rename_i hkind
    rw [hkind] at hown
    cases hown
  · cases hinverse

theorem FieldKind.mapped?_eq_none_of_isOwn {kind : FieldKind} (hown : kind.isOwn = true) :
    kind.mapped? = none := by
  cases kind <;> first | rfl | cases hown

namespace Schema

variable {schema : Schema}

theorem exists_columnFields_of_find? (hstored : schema.StoredByName) {name : String}
    {draft : EntityDraft}
    (hfind : (schema.ownEntities schema.ownFields.drafts).find? name = some draft) :
    ∃ table drafts, schema.table? name = some table ∧
      draft.fields = columnFields schema drafts table := by
  have hname : name ∈ schema.tables.values.map Table.name := by
    by_contra hnew
    rw [ownEntities_eq, find?_foldl_addOwnEntity_of_not_mem _ _ hnew] at hfind
    cases hfind
  rw [← names_eq_map_values hstored] at hname
  obtain ⟨table, htable⟩ := Catalog.mem_names_iff.1 hname
  obtain ⟨drafts, hown, -⟩ := exists_ownEntity hstored htable
  obtain rfl := Option.some.inj (hown.symm.trans hfind)
  exact ⟨table, drafts, htable, rfl⟩

theorem exists_isMadeOf_of_find? (hstored : schema.StoredByName) {name : String}
    {draft : EntityDraft}
    (hfind : (schema.ownEntities schema.ownFields.drafts).find? name = some draft) :
    ∃ table, schema.table? name = some table ∧ draft.fields.IsMadeOf table.columns := by
  obtain ⟨table, drafts, htable, hfields⟩ := exists_columnFields_of_find? hstored hfind
  exact ⟨table, htable, hfields ▸ columnFields_isMadeOf schema drafts table⟩

theorem isOwn_of_hasField (hstored : schema.StoredByName) {table : String} {field : Field}
    (hfield : HasField (schema.ownEntities schema.ownFields.drafts) table field) :
    field.kind.isOwn = true := by
  obtain ⟨draft, hfind, hmem⟩ := hfield
  obtain ⟨_, _, hmade⟩ := exists_isMadeOf_of_find? hstored hfind
  exact hmade.own field hmem

theorem nodup_ownAssociations (hstored : schema.StoredByName) :
    (schema.tables.names.flatMap
      (ownAssociations (schema.ownEntities schema.ownFields.drafts))).Nodup := by
  refine List.nodup_flatMap.2 ⟨fun table htable => ?_, schema.tables.nodup_names.imp ?_⟩
  · rw [ownAssociations]
    split
    · exact List.nodup_nil
    · rename_i draft hfind
      obtain ⟨_, _, hmade⟩ := exists_isMadeOf_of_find? hstored hfind
      have hfields : draft.fields.fields.Nodup := hmade.named.nodup.of_map _
      exact (hfields.filter _).map fun field other heq => (Prod.mk.inj heq).2
  · intro table other hne waiting hmem hmem'
    exact hne ((mem_ownAssociations.1 hmem).1.symm.trans (mem_ownAssociations.1 hmem').1)

/-- In the beginning all foreign keys wait. -/
theorem matchedExcept_ownEntities (hstored : schema.StoredByName) :
    MatchedExcept schema (schema.ownEntities schema.ownFields.drafts)
      (schema.tables.names.flatMap
        (ownAssociations (schema.ownEntities schema.ownFields.drafts))) := by
  refine
    { present := ?present
      named := fun table draft hfind => ?named
      different := fun table draft hfind => ?different
      inverse := ?inverse
      owning := ?owning
      held := ?held
      distinct := nodup_ownAssociations hstored
      joins := ?joins }
  case present =>
    intro table htable
    obtain ⟨stored, hstoredFind⟩ := Catalog.mem_names_iff.1 htable
    obtain ⟨drafts, hfind, -⟩ := exists_ownEntity hstored hstoredFind
    exact Catalog.mem_names_of_find? hfind
  case named =>
    obtain ⟨_, _, hmade⟩ := exists_isMadeOf_of_find? hstored hfind
    exact hmade.named
  case different =>
    rw [List.filterMap_eq_nil_iff.2 fun field hfield =>
      FieldKind.mapped?_eq_none_of_isOwn (isOwn_of_hasField hstored ⟨draft, hfind, hfield⟩)]
    exact List.nodup_nil
  case inverse =>
    intro table field hfield owner mappedBy hmapped
    rw [FieldKind.mapped?_eq_none_of_isOwn (isOwn_of_hasField hstored hfield)] at hmapped
    cases hmapped
  case owning =>
    intro table field hfield target kind hinverse
    have ⟨draft, hfind, _⟩ := hfield
    obtain ⟨stored, htable, -⟩ := exists_isMadeOf_of_find? hstored hfind
    refine .inl (List.mem_flatMap.2 ⟨table, Catalog.mem_names_of_find? htable, ?_⟩)
    exact mem_ownAssociations.2
      ⟨rfl, hfield, Field.isForeignKey_of_inverse? (isOwn_of_hasField hstored hfield) hinverse⟩
  case held =>
    intro waiting hwaiting
    obtain ⟨table, -, hmem⟩ := List.mem_flatMap.1 hwaiting
    obtain ⟨rfl, hfield, -⟩ := mem_ownAssociations.1 hmem
    exact hfield
  case joins =>
    intro table field hfield target joinTable joinColumn inverseColumn hkind
    have hkindOwn := isOwn_of_hasField hstored hfield
    rw [hkind] at hkindOwn
    cases hkindOwn

end Schema

/-! ## Inverse sides of foreign keys -/

section ForeignKeys

variable {schema : Schema} {entities : Catalog EntityDraft}
  {owned : List ((String × String) × String)} {table : Table}

/-- The foreign key that waits first gets its inverse side when its column is come to. -/
theorem MatchedExcept.addInverse {field : Field} {pending : List (String × Field)}
    (hmatched : MatchedExcept schema entities ((table.name, field) :: pending)) {column : Column}
    (hkind : column.associationKind? = some field.kind)
    (howned : owned.lookup (table.name, column.name) = some field.name)
    (htarget : ∀ reference, column.references = some reference →
      reference.table ∈ schema.tables.names) :
    MatchedExcept schema (addInverse owned table entities column) pending := by
  obtain ⟨-, reference, hreference, -⟩ := Column.associationKind?_eq_some_iff.1 hkind
  obtain ⟨candidates, javaType, heq⟩ := exists_inverseField_eq table column field.name
  simp only [ClassDiagram.addInverse, hreference, howned, heq]
  exact hmatched.gainInverse (Field.inverse?_of_associationKind? hkind hreference table.name)
    (htarget reference hreference) candidates javaType

/-- The foreign keys of a table wait in the order of its columns, so they all get their inverse
sides. -/
theorem MatchedExcept.foldl_addInverse {pending : List (String × Field)} (columns : List Column) :
    ∀ (fields : List Field) (entities : Catalog EntityDraft),
      fields.map Field.kind = columns.filterMap Column.associationKind? →
      (∀ field ∈ fields, ∀ column, field.kind.foreignColumn? = some column →
        owned.lookup (table.name, column) = some field.name) →
      (∀ column ∈ columns, ∀ reference, column.references = some reference →
        reference.table ∈ schema.tables.names) →
      MatchedExcept schema entities (fields.map (fun field => (table.name, field)) ++ pending) →
      MatchedExcept schema
        ((columns.filter fun column => !column.primaryKey).foldl
          (ClassDiagram.addInverse owned table) entities) pending := by
  -- the fields that wait are those of the columns that are left
  induction columns with
  | nil =>
    intro fields entities hkinds howned htargets hmatched
    obtain rfl := List.map_eq_nil_iff.1 hkinds
    exact hmatched
  | cons column rest ih =>
    intro fields entities hkinds howned htargets hmatched
    rw [List.forall_mem_cons] at htargets
    cases hkind : column.associationKind? with
    | some kind =>
      rw [List.filterMap_cons_some hkind, List.map_eq_cons_iff] at hkinds
      obtain ⟨field, more, rfl, rfl, hkinds⟩ := hkinds
      rw [List.forall_mem_cons] at howned
      have hplain := (Column.associationKind?_eq_some_iff.1 hkind).1
      rw [List.filter_cons_of_pos (by simp [hplain]), List.foldl_cons]
      have hlookup := howned.1 _ (Column.foreignColumn?_of_associationKind? hkind)
      exact ih more _ hkinds howned.2 htargets.2
        (MatchedExcept.addInverse hmatched hkind hlookup htargets.1)
    | none =>
      rw [List.filterMap_cons_none hkind] at hkinds
      cases hkey : column.primaryKey with
      | true =>
        rw [List.filter_cons_of_neg (by simp [hkey])]
        exact ih fields entities hkinds howned htargets.2 hmatched
      | false =>
        have hreferences : column.references = none := by
          simpa [Column.associationKind?, hkey] using hkind
        have hsame : ClassDiagram.addInverse owned table entities column = entities := by
          simp only [ClassDiagram.addInverse, hreferences]
        rw [List.filter_cons_of_pos (by simp [hkey]), List.foldl_cons, hsame]
        exact ih fields entities hkinds howned htargets.2 hmatched

/-- The tables are gone through in the order in which their foreign keys wait. -/
theorem MatchedExcept.foldl_addInverses (hrules : schema.KeepsRules) (tables : List Table) :
    ∀ entities : Catalog EntityDraft, (∀ table ∈ tables, schema.table? table.name = some table) →
      MatchedExcept schema entities ((tables.map Table.name).flatMap
        (ownAssociations (schema.ownEntities schema.ownFields.drafts))) →
      MatchedExcept schema (tables.foldl (addInverses schema.ownFields.owned) entities) [] := by
  induction tables with
  | nil => exact fun _ _ hmatched => hmatched
  | cons table rest ih =>
    intro entities hfound hmatched
    rw [List.forall_mem_cons] at hfound
    obtain ⟨drafts, hown, howned⟩ := Schema.exists_ownEntity hrules.storedByName hfound.1
    have hmade := columnFields_isMadeOf schema drafts table
    have hkeeps := hrules.tables _ _ hfound.1
    simp only [List.map_cons, List.flatMap_cons, ownAssociations, hown] at hmatched
    refine ih _ hfound.2
      (hmatched.foldl_addInverse table.columns _ entities hmade.foreignKeys ?_ ?_)
    · exact fun field hfield => howned hkeeps.distinct field (List.mem_of_mem_filter hfield)
    · intro column hcolumn reference hreference
      obtain ⟨target, htarget, -⟩ := hkeeps.references column hcolumn reference hreference
      exact Catalog.mem_names_of_find? htarget

end ForeignKeys

/-! ## Both sides of a join table -/

theorem refersTo_unique {column : Column} {table other : String}
    (htable : refersTo table column = true) (hother : refersTo other column = true) :
    table = other := by
  cases hreferences : column.references with
  | none => simp [refersTo, hreferences] at htable
  | some reference =>
    simp only [refersTo, hreferences, Option.any_some, beq_iff_eq] at htable hother
    exact htable.symm.trans hother

theorem joinSides_cases {written : List String} {link : Link} {owner target : String}
    (hsides : joinSides written link = (owner, target)) :
    owner = link.owner ∧ target = link.referenced ∨
      owner = link.referenced ∧ target = link.owner := by
  rw [joinSides] at hsides
  split at hsides
  · exact .inr ⟨(congrArg Prod.fst hsides).symm, (congrArg Prod.snd hsides).symm⟩
  · exact .inl ⟨(congrArg Prod.fst hsides).symm, (congrArg Prod.snd hsides).symm⟩

namespace Schema

variable {schema : Schema} {link : Link} {join : Table} {first second : Column}

/-- Whichever side owns the association, the columns are those that lead to the two sides. -/
theorem JoinsSides.exists_joinColumns? (hjoins : schema.JoinsSides link join first second)
    {owner target : String} (hsides : owner = link.owner ∧ target = link.referenced ∨
      owner = link.referenced ∧ target = link.owner) :
    ∃ joinColumn inverseColumn,
      joinColumns? join.keyColumns owner = some (joinColumn, inverseColumn) ∧
      schema.JoinsThrough owner target join joinColumn inverseColumn := by
  have hkeys : refersTo owner first = true ∧ refersTo target second = true ∨
      refersTo target first = true ∧ refersTo owner second = true := by
    rcases hsides with ⟨rfl, rfl⟩ | ⟨rfl, rfl⟩
    · exact hjoins.sides
    · exact hjoins.sides.symm
  have hfirst : first ∈ join.keyColumns := by simp [hjoins.keys]
  have hsecond : second ∈ join.keyColumns := by simp [hjoins.keys]
  cases howner : refersTo owner first with
  | true =>
    -- when the first key leads to both sides, they are one table and the second key does too
    have htarget : refersTo target second = true := by
      rcases hkeys with ⟨-, htarget⟩ | ⟨htarget, hkey⟩
      · exact htarget
      · exact refersTo_unique howner htarget ▸ hkey
    refine ⟨first, second, ?_, hjoins.find, hjoins.join, hfirst, hsecond, hjoins.different, howner,
      htarget⟩
    simp [joinColumns?, hjoins.keys, List.findIdx?_cons, howner]
  | false =>
    obtain ⟨htarget, hkey⟩ := hkeys.resolve_left fun h => by simp [howner] at h
    refine ⟨second, first, ?_, hjoins.find, hjoins.join, hsecond, hfirst, hjoins.different.symm,
      hkey, htarget⟩
    simp [joinColumns?, hjoins.keys, List.findIdx?_cons, howner, hkey]

end Schema

/-- A link through a join table adds an owning side, which gets its inverse side at once. -/
theorem MatchedExcept.addJoin {schema : Schema} {entities : Catalog EntityDraft}
    (hmatched : MatchedExcept schema entities []) (written : List String) {link : Link}
    (hrules : schema.LinkKeepsRules link) {join : Table} {first second : Column}
    (hjoins : schema.JoinsSides link join first second) :
    MatchedExcept schema (addJoin schema written entities link) [] := by
  rcases hsides : joinSides written link with ⟨owner, target⟩
  have hcases := joinSides_cases hsides
  obtain ⟨howner, htarget⟩ : owner ∈ schema.tables.names ∧ target ∈ schema.tables.names := by
    rcases hcases with ⟨rfl, rfl⟩ | ⟨rfl, rfl⟩
    · exact ⟨hrules.owner, hrules.referenced⟩
    · exact ⟨hrules.referenced, hrules.owner⟩
  obtain ⟨joinColumn, inverseColumn, hcolumns, hthrough⟩ := hjoins.exists_joinColumns? hcases
  obtain ⟨draft, hdraft⟩ := Catalog.mem_names_iff.1 (hmatched.present owner howner)
  simp only [ClassDiagram.addJoin, hsides, hjoins.name, Option.bind_some, hjoins.find, hcolumns,
    hdraft]
  have howning := hmatched.gainOwning hdraft [fieldName target ++ "List"]
    (listOf (typeName target))
    (.manyToMany target join.name joinColumn.name inverseColumn.name) rfl ?_
  · exact howning.gainInverse rfl htarget _ _
  · intro target' joinTable column column' hkind
    cases hkind
    exact ⟨join, joinColumn, inverseColumn, hthrough, rfl, rfl, rfl⟩

theorem MatchedExcept.foldl_addJoin {schema : Schema} (hrules : schema.KeepsRules)
    (hjoins : schema.JoinsAllSides) (written : List String) (links : List Link) :
    ∀ entities : Catalog EntityDraft,
      (∀ link ∈ links, link ∈ schema.links ∧ link.kind = .joinTable) →
      MatchedExcept schema entities [] →
      MatchedExcept schema (links.foldl (ClassDiagram.addJoin schema written) entities) [] := by
  induction links with
  | nil => exact fun _ _ hmatched => hmatched
  | cons link rest ih =>
    intro entities hlinks hmatched
    rw [List.forall_mem_cons] at hlinks
    obtain ⟨join, first, second, hsides⟩ := hjoins link hlinks.1.1 hlinks.1.2
    exact ih _ hlinks.2 (hmatched.addJoin written (hrules.links link hlinks.1.1) hsides)

/-! ## The whole schema -/

theorem filter_eq_singleton {α : Type} {holds : α → Bool} {items : List α}
    (hpair : items.Pairwise fun item other => holds item = true → holds other = false) {item : α}
    (hmem : item ∈ items) (hitem : holds item = true) : items.filter holds = [item] := by
  induction items with
  | nil => cases hmem
  | cons first rest ih =>
    rw [List.pairwise_cons] at hpair
    rcases List.mem_cons.1 hmem with rfl | hrest
    · have hnone : rest.filter holds = [] :=
        List.filter_eq_nil_iff.2 fun other hother => by simp [hpair.1 other hother hitem]
      rw [List.filter_cons_of_pos hitem, hnone]
    · have hfirst : holds first ≠ true := fun hholds => by
        have := hpair.1 item hrest hholds
        rw [hitem] at this
        cases this
      rw [List.filter_cons_of_neg hfirst, ih hpair.2 hrest]

/-- When nothing waits, the sides agree. -/
theorem MatchedExcept.associationsAgree {schema : Schema} {drafts : Catalog EntityDraft}
    (hmatched : MatchedExcept schema drafts []) :
    schema.AssociationsAgree (drafts.map EntityDraft.entity) := by
  have hhas {table : String} {entity : Entity}
      (hfind : (drafts.map EntityDraft.entity).find? table = some entity) {field : Field}
      (hfield : field ∈ entity.fields) : HasField drafts table field := by
    rw [Catalog.find?_map, Option.map_eq_some_iff] at hfind
    obtain ⟨draft, hdraft, rfl⟩ := hfind
    exact ⟨draft, hdraft, hfield⟩
  refine ⟨?_, ?_, fun table entity hfind field hfield =>
    hmatched.joins table field (hhas hfind hfield)⟩
  · intro table entity hfind field hfield owner mappedBy hmapped
    obtain ⟨owning, ⟨draft, hdraft, hmem⟩, rfl, hside, -⟩ :=
      hmatched.inverse table field (hhas hfind hfield) owner mappedBy hmapped
    refine ⟨draft.entity, owning, by rw [Catalog.find?_map, hdraft, Option.map_some], ?_, hside⟩
    have hnames := (hmatched.named owner draft hdraft).nodup
    rw [List.Nodup, List.pairwise_map] at hnames
    refine filter_eq_singleton (hnames.imp fun hne hname => ?_) hmem (beq_self_eq_true _)
    exact beq_false_of_ne fun heq => hne ((eq_of_beq hname).trans heq.symm)
  · intro table entity hfind field hfield target kind hside
    rcases hmatched.owning table field (hhas hfind hfield) target kind hside with
      hmem | ⟨inverse, ⟨draft, hdraft, hmem⟩, rfl⟩
    · cases hmem
    · refine ⟨draft.entity, inverse, by rw [Catalog.find?_map, hdraft, Option.map_some], ?_, rfl⟩
      have hdifferent := hmatched.different target draft hdraft
      rw [List.Nodup, List.pairwise_filterMap] at hdifferent
      refine filter_eq_singleton (hdifferent.imp fun hne hname => ?_) hmem
        (beq_iff_eq.2 (Field.mapped?_of_inverse? hside))
      exact beq_false_of_ne fun heq => hne _ (eq_of_beq hname) _ heq rfl

namespace Diagram

variable {diagram : Diagram} {schema : Schema}

/-- In the entities of an accepted diagram the two sides of every association agree, whichever
tables classes are written for. -/
theorem schema_associationsAgree (haccepted : diagram.schema = .ok schema) (project : JavaProject)
    (tables enums : List String) :
    schema.AssociationsAgree (Backend.restricted schema project tables enums).entities := by
  have hrules := (sound_of_schema haccepted).rules
  have hjoins := joinsAllSides_of_schema haccepted
  have hstart := schema.matchedExcept_ownEntities hrules.storedByName
  rw [Schema.names_eq_map_values hrules.storedByName] at hstart
  have hstored : ∀ table ∈ schema.tables.values, schema.table? table.name = some table := by
    intro table hmem
    obtain ⟨name, hfind⟩ := Catalog.mem_values_iff.1 hmem
    exact hrules.storedByName name table hfind ▸ hfind
  have hforeign := MatchedExcept.foldl_addInverses hrules schema.tables.values _ hstored hstart
  refine MatchedExcept.associationsAgree
    (MatchedExcept.foldl_addJoin hrules hjoins _ schema.joinLinks _ (fun link hlink => ?_) hforeign)
  simpa [Schema.joinLinks] using hlink

/-- Flights between airports, and airports that work together. -/
def flights : Diagram where
  elements :=
    [{ id := "1"
       className := "Airport"
       attributes := ["code: String"]
       methods := []
       kind := .classKind },
      { id := "2"
        className := "Flight"
        attributes := []
        methods := []
        kind := .classKind }]
  relationships :=
    [{ id := "r1"
       sourceId := "2"
       targetId := "1"
       kind := .association
       sourceCardinality := "*"
       targetCardinality := "1" },
      { id := "r2"
        sourceId := "2"
        targetId := "1"
        kind := .association
        sourceCardinality := "*"
        targetCardinality := "1" },
      { id := "r3"
        sourceId := "1"
        targetId := "1"
        kind := .association
        sourceCardinality := "*"
        targetCardinality := "*" }]

/-- Two keys of the flights lead to the airports, which have both sides of a third association. -/
theorem schema_associationsAgree_flights :
    let backend := Backend.restricted flights.draft.schema
      { basePackage := "com.example.demo", name := "demo" } ["flight"] []
    flights.schema = .ok flights.draft.schema ∧
      flights.draft.schema.AssociationsAgree backend.entities ∧
      (backend.entity? "airport").map (fun entity =>
        entity.fields.filterMap fun field => field.kind.mapped?) =
          some [("flight", "airport"), ("flight", "airport2"), ("airport", "airportList")] := by
  obtain ⟨hfaults, hlists⟩ : flights.draft.faults = [] ∧
      flights.draft.schema.ListsRootsFirst := by
    decide +kernel
  have haccepted : flights.schema = .ok flights.draft.schema := schema_eq_ok_iff.2 ⟨hfaults, rfl⟩
  refine ⟨haccepted, schema_associationsAgree haccepted
    { basePackage := "com.example.demo", name := "demo" } ["flight"] [], ?_⟩
  simp only [Backend.entity?, Backend.restricted, Schema.entities,
    Schema.ownFields_eq_foldl hlists]
  decide +kernel

end Diagram

end ClassDiagram
