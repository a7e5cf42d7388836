import ClassDiagram.Proofs.Java.Calls
import ClassDiagram.Proofs.Java.InheritedNames

/-!
# Names in transfer objects

A transfer object has the key of the root, the scalar fields of the whole lineage, and keys in place
of associations. The latter give way to all other names, and no two scalar fields of a lineage have
one name. What remains is the key of the root: a scalar field of a class below the root does not
give way to it, and if it has the same name then the transfer object declares the name twice.
-/

namespace ClassDiagram

/-! ## Keys in place of associations give way -/

/-- The names of the fields that stand for themselves, not for an association. -/
def plainNames (fields : List TransferField) : List String :=
  (fields.filter fun field => field.reference.isNone).map TransferField.name

theorem plainNames_cons_plain {field : TransferField} (hplain : field.reference = none)
    (rest : List TransferField) : plainNames (field :: rest) = field.name :: plainNames rest := by
  simp [plainNames, hplain]

theorem plainNames_cons_reference {field : TransferField} {reference : KeyReference}
    (hreference : field.reference = some reference) (rest : List TransferField) :
    plainNames (field :: rest) = plainNames rest := by
  simp [plainNames, hreference]

section Rename

variable {fields : List TransferField} {taken : List String} {name : String}

/-- A name in a transfer object is that of a field that stands for itself, or was free. -/
theorem mem_plainNames_or_of_mem_renameReferences
    (hname : name ∈ (renameReferences taken fields).map TransferField.name) :
    name ∈ plainNames fields ∨ name ∉ taken := by
  induction fields generalizing taken with
  | nil => cases hname
  | cons field rest ih =>
    cases hreference : field.reference with
    | none =>
      rw [renameReferences, hreference, List.map_cons, List.mem_cons] at hname
      rw [plainNames_cons_plain hreference, List.mem_cons]
      rcases hname with rfl | hrest
      · exact .inl (.inl rfl)
      · exact (ih hrest).imp_left .inr
    | some reference =>
      rw [renameReferences, hreference, List.map_cons, List.mem_cons] at hname
      rw [plainNames_cons_reference hreference]
      rcases hname with rfl | hrest
      · exact .inr (freshAmong_not_mem _ _)
      · exact (ih hrest).imp_right fun hfree htaken => hfree (List.mem_cons_of_mem _ htaken)

theorem mem_renameReferences_of_mem_plainNames (hname : name ∈ plainNames fields) :
    name ∈ (renameReferences taken fields).map TransferField.name := by
  induction fields generalizing taken with
  | nil => cases hname
  | cons field rest ih =>
    cases hreference : field.reference with
    | none =>
      rw [plainNames_cons_plain hreference, List.mem_cons] at hname
      rw [renameReferences, hreference, List.map_cons, List.mem_cons]
      exact hname.imp_right fun hrest => ih hrest
    | some reference =>
      rw [plainNames_cons_reference hreference] at hname
      rw [renameReferences, hreference, List.map_cons, List.mem_cons]
      exact .inr (ih hname)

/-- The names are different if those are that do not give way. -/
theorem nodup_renameReferences_iff (htaken : plainNames fields ⊆ taken) :
    ((renameReferences taken fields).map TransferField.name).Nodup ↔
      (plainNames fields).Nodup := by
  induction fields generalizing taken with
  | nil => simp [renameReferences, plainNames]
  | cons field rest ih =>
    cases hreference : field.reference with
    | none =>
      rw [plainNames_cons_plain hreference, List.cons_subset] at htaken
      rw [renameReferences, hreference, plainNames_cons_plain hreference, List.map_cons,
        List.nodup_cons, List.nodup_cons, ih htaken.2]
      have hsame : field.name ∈ (renameReferences taken rest).map TransferField.name ↔
          field.name ∈ plainNames rest := by
        refine ⟨fun hmem => ?_, mem_renameReferences_of_mem_plainNames⟩
        exact (mem_plainNames_or_of_mem_renameReferences hmem).resolve_right fun hfree =>
          hfree htaken.1
      rw [hsame]
    | some reference =>
      rw [plainNames_cons_reference hreference] at htaken ⊢
      rw [renameReferences, hreference, List.map_cons, List.nodup_cons,
        ih (List.Subset.trans htaken (List.subset_cons_self _ _))]
      refine and_iff_right fun hmem => ?_
      rcases mem_plainNames_or_of_mem_renameReferences hmem with hplain | hfree
      · exact freshAmong_not_mem _ _ (htaken hplain)
      · exact hfree List.mem_cons_self

end Rename

/-! ## Scalar fields -/

/-- A field of this kind holds a value of its own. -/
def FieldKind.isScalar : FieldKind → Bool
  | .scalar .. => true
  | _ => false

/-- The names of the scalar fields among fields. -/
def scalarNames (fields : List Field) : List String :=
  (fields.filter fun field => field.kind.isScalar).map Field.name

theorem mem_scalarNames {fields : List Field} {name : String} :
    name ∈ scalarNames fields ↔
      ∃ field ∈ fields, field.kind.isScalar = true ∧ field.name = name := by
  simp [scalarNames, and_assoc]

theorem FieldKind.isOwn_of_isScalar {kind : FieldKind} (hscalar : kind.isScalar = true) :
    kind.isOwn = true := by
  cases kind <;> first | rfl | cases hscalar

theorem Field.isKey_of_isScalar {field : Field} (hscalar : field.kind.isScalar = true) :
    field.isKey = false := by
  rw [isKey]
  cases hkind : field.kind with
  | key => simp [hkind, FieldKind.isScalar] at hscalar
  | _ => rfl

theorem scalarNames_append_gained (own : List Field) {gained : List Field}
    (hgained : ∀ field ∈ gained, field.kind.isOwn = false) :
    scalarNames (own ++ gained) = scalarNames own := by
  have hnone : gained.filter (fun field => field.kind.isScalar) = [] := by
    rw [List.filter_eq_nil_iff]
    intro field hfield hscalar
    cases (FieldKind.isOwn_of_isScalar hscalar).symm.trans (hgained field hfield)
  rw [scalarNames, List.filter_append, hnone, List.append_nil, scalarNames]

/-- A scalar field stands for itself in a transfer object, and no other field does. -/
theorem Backend.transferField?_cases (backend : Backend) (field : Field) :
    field.kind.isScalar = true ∧ backend.transferField? field = some (plainField field) ∨
      field.kind.isScalar = false ∧ ∀ transfer, backend.transferField? field = some transfer →
        ∃ reference, transfer.reference = some reference := by
  have hflattened : ∀ target transfer, backend.flattened? field target = some transfer →
      ∃ reference, transfer.reference = some reference := by
    intro target transfer htransfer
    obtain ⟨key, -, rfl⟩ := Option.map_eq_some_iff.1 htransfer
    exact ⟨_, rfl⟩
  rw [transferField?]
  cases hkind : field.kind with
  | scalar => exact .inl ⟨rfl, rfl⟩
  | manyToOne _ target | oneToOne _ target => exact .inr ⟨rfl, hflattened target⟩
  | _ => exact .inr ⟨rfl, fun _ hnone => by cases hnone⟩

theorem Backend.plainNames_filterMap_transferField? (backend : Backend) (fields : List Field) :
    plainNames (fields.filterMap backend.transferField?) = scalarNames fields := by
  induction fields with
  | nil => rfl
  | cons field rest ih =>
    rw [scalarNames, List.filter_cons]
    rcases backend.transferField?_cases field with ⟨hscalar, htransfer⟩ | ⟨hother, htransfer⟩
    · rw [List.filterMap_cons_some htransfer, plainNames_cons_plain rfl, ih, if_pos hscalar]
      rfl
    · rw [if_neg (by simp [hother]), ← scalarNames, ← ih]
      cases hsome : backend.transferField? field with
      | none => rw [List.filterMap_cons_none hsome]
      | some transfer =>
        obtain ⟨reference, hreference⟩ := htransfer transfer hsome
        rw [List.filterMap_cons_some hsome, plainNames_cons_reference hreference]

theorem plainNames_append (left right : List TransferField) :
    plainNames (left ++ right) = plainNames left ++ plainNames right := by
  rw [plainNames, List.filter_append, List.map_append, plainNames, plainNames]

theorem Backend.plainNames_members (backend : Backend) (lineage : List Entity) :
    plainNames (lineage.flatMap fun member => member.fields.filterMap backend.transferField?) =
      lineage.flatMap fun member => scalarNames member.fields := by
  induction lineage with
  | nil => rfl
  | cons member rest ih =>
    rw [List.flatMap_cons, List.flatMap_cons, plainNames_append, ih,
      backend.plainNames_filterMap_transferField?]

/-! ## Lineages -/

namespace Schema

variable {schema : Schema}

/-- The tables of a hierarchy from the root down to a table. -/
def lineage (schema : Schema) (table : Table) : List Table :=
  (schema.ancestors table.name).reverse ++ [table]

theorem mem_lineage_iff {table member : Table} :
    member ∈ schema.lineage table ↔ member ∈ schema.ancestors table.name ∨ member = table := by
  rw [lineage, List.mem_append, List.mem_reverse, List.mem_singleton]

/-- A table without a parent among those met on the way up is the last of them. -/
theorem Ascent.getLast?_eq_of_parent {current : Option String} {above : List Table}
    (hascent : schema.Ascent current above) {root : Table} (hmem : root ∈ above)
    (hparent : root.parent = none) : above.getLast? = some root := by
  induction hascent with
  | root => cases hmem
  | missing => cases hmem
  | @step name table rest hfind habove ih =>
    rcases List.mem_cons.1 hmem with rfl | hrest
    · rw [hparent] at habove
      cases habove
      rfl
    · rw [List.getLast?_cons, ih hrest]
      rfl

variable (hacyclic : schema.Acyclic) (hstored : schema.StoredByName)

include hacyclic hstored

theorem rootName_eq_of_parent {table root : Table}
    (hfind : schema.table? table.name = some table)
    (hmem : root ∈ schema.lineage table) (hparent : root.parent = none) :
    schema.rootName table.name = root.name := by
  rw [rootName]
  rcases mem_lineage_iff.1 hmem with habove | rfl
  · rw [(ascent_ancestors hacyclic hstored table.name).getLast?_eq_of_parent habove hparent]
    rfl
  · rw [ancestors_eq_nil_of_parent?_eq_none (by rw [parent?, hfind, Option.bind_some, hparent])]
    rfl

theorem pairwise_lineage (table : Table) :
    (schema.lineage table).Pairwise fun upper lower => upper ∈ schema.ancestors lower.name := by
  rw [lineage, ← List.reverse_cons, List.pairwise_reverse]
  exact .cons (fun _ hmem => hmem) ((ascent_ancestors hacyclic hstored
    table.name).pairwise_mem_ancestors hacyclic hstored)

theorem table?_of_mem_lineage {table : Table} (hfind : schema.table? table.name = some table)
    {member : Table} (hmem : member ∈ schema.lineage table) :
    schema.table? member.name = some member := by
  rcases mem_lineage_iff.1 hmem with habove | rfl
  · exact table?_of_mem_ancestors hacyclic hstored habove
  · exact hfind

end Schema

/-! ## Names along a lineage -/

namespace Backend

variable {backend : Backend} {diagram : Diagram}

theorem lineage_eq (backend : Backend) (table : Table) :
    backend.lineage table.name =
      (backend.schema.lineage table).filterMap fun member => backend.entity? member.name := by
  rw [lineage, Schema.lineage, List.filterMap_append, List.filterMap_cons]
  cases backend.entity? table.name <;> rfl

theorem Shows.acyclic (hshows : backend.Shows diagram) : backend.schema.Acyclic :=
  Diagram.schema_acyclic hshows.accepted

theorem Shows.storedByName (hshows : backend.Shows diagram) : backend.schema.StoredByName :=
  Diagram.schema_storedByName hshows.accepted

variable {table : Table} (hshows : backend.Shows diagram)
  (hfind : backend.schema.table? table.name = some table)

include hshows hfind

theorem Shows.exists_entity_fields :
    ∃ entity gained, backend.entity? table.name = some entity ∧ entity.table = table ∧
      entity.fields = (backend.schema.ownDraft table).fields ++ gained ∧
      ∀ field ∈ gained, field.kind.isOwn = false := by
  obtain ⟨written, hwritten⟩ := hshows.entities
  rw [entity?, hwritten]
  exact Schema.exists_entity_fields hshows.acyclic hshows.storedByName hfind written

theorem Shows.mem_ownDraft_of_isOwn {entity : Entity}
    (hentity : backend.entity? table.name = some entity) {field : Field}
    (hfield : field ∈ entity.fields) (hown : field.kind.isOwn = true) :
    field ∈ (backend.schema.ownDraft table).fields := by
  obtain ⟨_, gained, hother, -, hfields, hgained⟩ := hshows.exists_entity_fields hfind
  obtain rfl := Option.some.inj (hother.symm.trans hentity)
  rw [hfields] at hfield
  exact (List.mem_append.1 hfield).resolve_right fun hmem => by simp [hgained field hmem] at hown

theorem Shows.nodup_scalarNames {entity : Entity}
    (hentity : backend.entity? table.name = some entity) : (scalarNames entity.fields).Nodup := by
  obtain ⟨_, gained, hother, -, hfields, hgained⟩ := hshows.exists_entity_fields hfind
  obtain rfl := Option.some.inj (hother.symm.trans hentity)
  rw [hfields, scalarNames_append_gained _ hgained]
  exact (backend.schema.ownDraft_isMadeOf table).named.nodup.sublist (List.filter_sublist.map _)

/-- No two scalar fields of a lineage have one name. -/
theorem Shows.nodup_scalarNames_lineage :
    ((backend.lineage table.name).flatMap fun member => scalarNames member.fields).Nodup := by
  have hfound : ∀ member ∈ backend.schema.lineage table,
      backend.schema.table? member.name = some member := fun _ hmember =>
    Schema.table?_of_mem_lineage hshows.acyclic hshows.storedByName hfind hmember
  rw [lineage_eq, List.nodup_flatMap, List.pairwise_filterMap]
  constructor
  · intro entity hmem
    obtain ⟨member, hmember, hentity⟩ := List.mem_filterMap.1 hmem
    exact hshows.nodup_scalarNames (hfound member hmember) hentity
  · refine (Schema.pairwise_lineage hshows.acyclic hshows.storedByName table).imp_of_mem ?_
    intro upper lower hupperMem hlowerMem habove upperEntity hupper lowerEntity hlower name
      hupperName hlowerName
    obtain ⟨inherited, hinherited, hscalar, rfl⟩ := mem_scalarNames.1 hupperName
    obtain ⟨field, hfield, hscalar', hsame⟩ := mem_scalarNames.1 hlowerName
    refine Schema.name_ne_of_mem_ancestors hshows.acyclic hshows.storedByName habove
      ?_ (Field.isKey_of_isScalar hscalar) ?_ hsame.symm
    · exact hshows.mem_ownDraft_of_isOwn (hfound upper hupperMem) hupper hinherited
        (FieldKind.isOwn_of_isScalar hscalar)
    · exact hshows.mem_ownDraft_of_isOwn (hfound lower hlowerMem) hlower hfield
        (FieldKind.isOwn_of_isScalar hscalar')

/-- The class at the root has no scalar field with the name of its key. -/
theorem Shows.name_ne_of_root {key : Field} (hkey : backend.keyField? table.name = some key)
    {root : Entity} (hroot : root ∈ backend.lineage table.name) (hparent : root.table.parent = none)
    {field : Field} (hfield : field ∈ root.fields) (hscalar : field.kind.isScalar = true) :
    field.name ≠ key.name := by
  rw [lineage_eq, List.mem_filterMap] at hroot
  obtain ⟨member, hmember, hentity⟩ := hroot
  have hmemberFind :=
    Schema.table?_of_mem_lineage hshows.acyclic hshows.storedByName hfind hmember
  obtain ⟨_, -, hother, htable, -⟩ := hshows.exists_entity_fields hmemberFind
  obtain rfl := Option.some.inj (hother.symm.trans hentity)
  rw [keyField?_eq, Schema.rootName_eq_of_parent hshows.acyclic hshows.storedByName hfind hmember
    (htable ▸ hparent), hentity, Option.bind_some, Entity.ownKey?,
    Option.ite_none_left_eq_some] at hkey
  have hisKey : key.isKey = true := List.find?_some hkey.2
  have hkeyMem := hshows.mem_ownDraft_of_isOwn hmemberFind hentity
    (List.mem_of_find?_eq_some hkey.2) (Field.isOwn_of_isKey hisKey)
  have hfieldMem := hshows.mem_ownDraft_of_isOwn hmemberFind hentity hfield
    (FieldKind.isOwn_of_isScalar hscalar)
  have hdistinct := (backend.schema.ownDraft_isMadeOf member).named.nodup
  intro hname
  obtain rfl : field = key := List.inj_on_of_nodup_map hdistinct hfieldMem hkeyMem hname
  cases hisKey.symm.trans (Field.isKey_of_isScalar hscalar)

/-- The names of a transfer object are different unless a scalar field of a class below the root has
the name of the key. -/
theorem Shows.exists_transferFields_eq {entity : Entity} (htable : entity.table = table)
    {key : Field} (hkey : backend.keyField? table.name = some key) :
    ∃ rest, backend.transferFields entity = plainField key :: rest ∧
      (rest.map TransferField.name).Nodup ∧
      (((backend.transferFields entity).map TransferField.name).Nodup ↔
        ∀ member ∈ backend.lineage table.name, member.table.parent.isSome →
          ∀ field ∈ member.fields, field.kind.isScalar = true → field.name ≠ key.name) := by
  let members := (backend.lineage table.name).flatMap fun member =>
    member.fields.filterMap backend.transferField?
  have hnames : plainNames (plainField key :: members) = key.name :: plainNames members :=
    plainNames_cons_plain rfl members
  have hmembers : plainNames members =
      (backend.lineage table.name).flatMap fun member => scalarNames member.fields :=
    backend.plainNames_members _
  have hscalars : (plainNames members).Nodup := hmembers ▸ hshows.nodup_scalarNames_lineage hfind
  have htransfer : backend.transferFields entity =
      renameReferences (plainNames (plainField key :: members)) (plainField key :: members) := by
    rw [transferFields, htable, hkey]
    rfl
  refine ⟨renameReferences (plainNames (plainField key :: members)) members, htransfer, ?_, ?_⟩
  · rw [nodup_renameReferences_iff (hnames ▸ List.subset_cons_self _ _)]
    exact hscalars
  · rw [htransfer, nodup_renameReferences_iff (List.Subset.refl _), hnames, List.nodup_cons,
      and_iff_left hscalars, hmembers, List.mem_flatMap]
    constructor
    · intro hnone member hmember _ field hfield hscalar hname
      exact hnone ⟨member, hmember, mem_scalarNames.2 ⟨field, hfield, hscalar, hname⟩⟩
    · rintro hdifferent ⟨member, hmember, hname⟩
      obtain ⟨field, hfield, hscalar, hname⟩ := mem_scalarNames.1 hname
      cases hparent : member.table.parent with
      | none => exact hshows.name_ne_of_root hfind hkey hmember hparent hfield hscalar hname
      | some _ => exact hdifferent member hmember (by rw [hparent]; rfl) field hfield hscalar hname

end Backend

namespace Diagram

variable {diagram : Diagram} {schema : Schema}

/-- A transfer object starts with the key of the root and has different names behind it. The name of
the key is among them only if a class below the root has a scalar field of that name. -/
theorem schema_transferFields (haccepted : diagram.schema = .ok schema) (project : JavaProject)
    (tables enums : List String) :
    let backend := Backend.restricted schema project tables enums
    ∀ entity ∈ backend.served, ∃ key rest,
      backend.keyField? entity.table.name = some key ∧
      backend.transferFields entity = plainField key :: rest ∧
      (rest.map TransferField.name).Nodup ∧
      (((backend.transferFields entity).map TransferField.name).Nodup ↔
        ∀ member ∈ backend.lineage entity.table.name, member.table.parent.isSome →
          ∀ field ∈ member.fields, field.kind.isScalar = true → field.name ≠ key.name) := by
  intro backend entity hserved
  have hshows : backend.Shows diagram := ⟨haccepted, _, rfl⟩
  obtain ⟨hfind, key, hkey⟩ := exists_keyField_of_served haccepted hserved
  obtain ⟨rest, hrest⟩ := hshows.exists_transferFields_eq hfind rfl hkey
  exact ⟨key, rest, hkey, hrest⟩

/-- People in teams, and the staff among them with a key and a further attribute of their own. -/
def staffWith (further : String) : Diagram where
  elements :=
    [{ id := "1"
       className := "Team"
       attributes := []
       methods := []
       kind := .classKind },
      { id := "2"
        className := "Person"
        attributes := ["id: Long"]
        methods := []
        kind := .classKind },
      { id := "3"
        className := "Staff"
        attributes := ["staffId: Long", further]
        methods := []
        kind := .classKind }]
  relationships :=
    [{ id := "r1"
       sourceId := "3"
       targetId := "2"
       kind := .inheritance
       sourceCardinality := ""
       targetCardinality := "" },
      { id := "r2"
        sourceId := "2"
        targetId := "1"
        kind := .association
        sourceCardinality := "*"
        targetCardinality := "1" }]

/-- The key of the team, which all people have, gives way to the attribute of the staff. -/
theorem schema_transferFields_staff :
    let diagram := staffWith "teamId: Long"
    let backend :=
      Backend.full diagram.draft.schema { basePackage := "com.example.demo", name := "demo" }
    diagram.schema = .ok diagram.draft.schema ∧
      ∃ entity ∈ backend.served, entity.typeName = "Staff" ∧
        (backend.transferFields entity).map TransferField.name = ["id", "teamId2", "teamId"] ∧
        ∀ member ∈ backend.lineage entity.table.name, member.table.parent.isSome →
          ∀ field ∈ member.fields, field.kind.isScalar = true → field.name ≠ "id" := by
  intro diagram backend
  obtain ⟨hfaults, hlists⟩ : diagram.draft.faults = [] ∧
      diagram.draft.schema.ListsRootsFirst := by
    decide +kernel
  have haccepted : diagram.schema = .ok diagram.draft.schema := schema_eq_ok_iff.2 ⟨hfaults, rfl⟩
  have hstaff : ("Staff", ["id", "teamId2", "teamId"]) ∈
      backend.served.map fun entity => (entity.typeName,
        (backend.transferFields entity).map TransferField.name) := by
    simp only [backend, Backend.served, Backend.writtenEntities, Backend.full, Backend.restricted,
      Schema.entities, Schema.ownFields_eq_foldl hlists]
    decide +kernel
  simp only [List.mem_map, Prod.mk.injEq] at hstaff
  obtain ⟨entity, hserved, htype, hnames⟩ := hstaff
  obtain ⟨key, rest, -, hfields, -, hdifferent⟩ := schema_transferFields haccepted
    { basePackage := "com.example.demo", name := "demo" } diagram.draft.schema.tables.names
    diagram.draft.schema.enums.names entity hserved
  have hkey : key.name = "id" := by
    rw [show backend.transferFields entity = plainField key :: rest from hfields] at hnames
    exact (List.cons.inj hnames).1
  have hdistinct : ((backend.transferFields entity).map TransferField.name).Nodup := by
    rw [hnames]
    decide
  exact ⟨haccepted, entity, hserved, htype, hnames, hkey ▸ hdifferent.1 hdistinct⟩

/-- The key of the staff has a name of its own, so that an attribute may have the name of the key
that they inherit. Their transfer object declares this name twice. -/
theorem exists_transferField_twice :
    let diagram := staffWith "id: Long"
    let backend :=
      Backend.full diagram.draft.schema { basePackage := "com.example.demo", name := "demo" }
    diagram.schema = .ok diagram.draft.schema ∧
      ∃ entity ∈ backend.served, entity.typeName = "Staff" ∧
        (backend.transferFields entity).map TransferField.name = ["id", "teamId", "id"] ∧
        ¬ ((backend.transferFields entity).map TransferField.name).Nodup := by
  intro diagram backend
  obtain ⟨hfaults, hlists⟩ : diagram.draft.faults = [] ∧
      diagram.draft.schema.ListsRootsFirst := by
    decide +kernel
  have haccepted : diagram.schema = .ok diagram.draft.schema := schema_eq_ok_iff.2 ⟨hfaults, rfl⟩
  have hstaff : ("Staff", ["id", "teamId", "id"]) ∈
      backend.served.map fun entity => (entity.typeName,
        (backend.transferFields entity).map TransferField.name) := by
    simp only [backend, Backend.served, Backend.writtenEntities, Backend.full, Backend.restricted,
      Schema.entities, Schema.ownFields_eq_foldl hlists]
    decide +kernel
  simp only [List.mem_map, Prod.mk.injEq] at hstaff
  obtain ⟨entity, hserved, htype, hnames⟩ := hstaff
  refine ⟨haccepted, entity, hserved, htype, hnames, ?_⟩
  rw [hnames]
  decide

end Diagram

end ClassDiagram
