import ClassDiagram.Proofs.Derivation.JoinLinks
import ClassDiagram.Proofs.Java.OwnFields
import Mathlib.Data.List.Nodup

/-!
# Owning and inverse sides

An association between two entities is a field on each of them. The owning side knows the foreign
key or the join table, the inverse side names the field of the owning one. While the entities are
made, some owning sides wait for their inverse sides; all others are matched one to one. A step
either gives the inverse side to the first association that waits, or adds an owning side that
waits from then on.
-/

namespace ClassDiagram

/-! ## The sides of an association -/

/-- The table and the field that own the association of which a field of this kind is the inverse
side. -/
def FieldKind.mapped? : FieldKind → Option (String × String)
  | .oneToOneInverse target mappedBy | .oneToMany target mappedBy
  | .manyToManyInverse target mappedBy => some (target, mappedBy)
  | _ => none

/-- The table that an owning side of a table leads to, and what the inverse side is there. -/
def Field.inverse? (table : String) (field : Field) : Option (String × FieldKind) :=
  match field.kind with
  | .manyToOne _ target _ => some (target, .oneToMany table field.name)
  | .oneToOne _ target _ => some (target, .oneToOneInverse table field.name)
  | .manyToMany target .. => some (target, .manyToManyInverse table field.name)
  | _ => none

/-- Two different keys of a join table lead to the owner and to the target of an association. -/
structure Schema.JoinsThrough (schema : Schema) (owner target : String) (join : Table)
    (joinColumn inverseColumn : Column) : Prop where
  find : schema.table? join.name = some join
  isJoin : join.isJoin = true
  toOwner_mem : joinColumn ∈ join.keyColumns
  toTarget_mem : inverseColumn ∈ join.keyColumns
  different : joinColumn.name ≠ inverseColumn.name
  toOwner : refersTo owner joinColumn = true
  toTarget : refersTo target inverseColumn = true

/-- The owning side of a many-to-many association names a join table of its two sides. -/
def Schema.JoinsField (schema : Schema) (table : String) (field : Field) : Prop :=
  ∀ target joinTable joinColumn inverseColumn,
    field.kind = .manyToMany target joinTable joinColumn inverseColumn →
      ∃ join first second, schema.JoinsThrough table target join first second ∧
        join.name = joinTable ∧ first.name = joinColumn ∧ second.name = inverseColumn

theorem Column.mapped?_inverseKind (column : Column) (table mappedBy : String) :
    (column.inverseKind table mappedBy).mapped? = some (table, mappedBy) := by
  rw [inverseKind]
  split <;> rfl

/-- A foreign key leads to the table that its column refers to. -/
theorem Field.inverse?_of_associationKind? {column : Column} {field : Field}
    (hkind : column.associationKind? = some field.kind) {reference : ColumnReference}
    (hreference : column.references = some reference) (table : String) :
    field.inverse? table = some (reference.table, column.inverseKind table field.name) := by
  obtain ⟨-, found, hfound, hkind⟩ := Column.associationKind?_eq_some_iff.1 hkind
  cases hfound.symm.trans hreference
  rw [inverse?, ← hkind, Column.inverseKind]
  cases column.unique <;> rfl

theorem Field.mapped?_of_inverse? {table target : String} {field : Field} {kind : FieldKind}
    (hinverse : field.inverse? table = some (target, kind)) :
    kind.mapped? = some (table, field.name) := by
  rw [inverse?] at hinverse
  split at hinverse <;> cases hinverse <;> rfl

theorem Field.inverse?_of_mapped? (field : Field) {association : String × String}
    (hmapped : field.kind.mapped? = some association) (table : String) :
    field.inverse? table = none := by
  rw [inverse?]
  cases hkind : field.kind <;> rw [hkind] at hmapped <;> first | rfl | cases hmapped

theorem Schema.joinsField_of_mapped? (schema : Schema) (table : String) {field : Field}
    {association : String × String} (hmapped : field.kind.mapped? = some association) :
    schema.JoinsField table field := by
  intro target joinTable joinColumn inverseColumn hkind
  rw [hkind] at hmapped
  cases hmapped

/-! ## Entities that gain a field -/

/-- The entity of a table has this field. -/
def HasField (entities : Catalog EntityDraft) (table : String) (field : Field) : Prop :=
  ∃ draft, entities.find? table = some draft ∧ field ∈ draft.fields.fields

/-- The field that an entity gains. -/
def EntityDraft.nextField (draft : EntityDraft) (candidates : List String) (javaType : String)
    (kind : FieldKind) : Field :=
  { name := freshAmong candidates draft.fields.taken, javaType, kind }

section Gain

variable {entities : Catalog EntityDraft} {gaining table : String} {field : Field}
  {candidates : EntityDraft → List String} {javaType : String} {kind : FieldKind}

theorem HasField.gain (hfield : HasField entities table field) :
    HasField (entities.modify gaining fun draft => draft.add (candidates draft) javaType kind)
      table field := by
  obtain ⟨draft, hfind, hmem⟩ := hfield
  rw [HasField, Catalog.find?_modify]
  split
  · exact ⟨_, by rw [hfind, Option.map_some], List.mem_append_left _ hmem⟩
  · exact ⟨draft, hfind, hmem⟩

theorem hasField_or_eq_of_gain
    (hfield : HasField (entities.modify gaining fun draft =>
      draft.add (candidates draft) javaType kind) table field) :
    HasField entities table field ∨ table = gaining ∧ field.kind = kind := by
  obtain ⟨later, hlater, hmem⟩ := hfield
  rw [Catalog.find?_modify] at hlater
  split at hlater
  · rename_i htable
    obtain ⟨draft, hfind, rfl⟩ := Option.map_eq_some_iff.1 hlater
    rcases List.mem_append.1 hmem with hold | hlast
    · exact .inl ⟨draft, hfind, hold⟩
    · rw [List.mem_singleton.1 hlast]
      exact .inr ⟨htable, rfl⟩
  · exact .inl ⟨later, hlater, hmem⟩

end Gain

section GainsNext

variable {entities : Catalog EntityDraft} {gaining : String} {draft : EntityDraft}

theorem find?_modify_add (hfind : entities.find? gaining = some draft) {candidates : List String}
    {javaType : String} {kind : FieldKind} {table : String} {later : EntityDraft}
    (hlater : (entities.modify gaining fun known =>
      known.add candidates javaType kind).find? table = some later) :
    entities.find? table = some later ∨
      table = gaining ∧ later = draft.add candidates javaType kind := by
  rw [Catalog.find?_modify] at hlater
  split at hlater
  · rename_i htable
    rw [htable, hfind, Option.map_some, Option.some.injEq] at hlater
    exact .inr ⟨htable, hlater.symm⟩
  · exact .inl hlater

theorem hasField_modify_add (hfind : entities.find? gaining = some draft)
    (candidates : List String) (javaType : String) (kind : FieldKind) (table : String)
    (field : Field) :
    HasField (entities.modify gaining fun known => known.add candidates javaType kind) table field ↔
      HasField entities table field ∨
        table = gaining ∧ field = draft.nextField candidates javaType kind := by
  by_cases htable : table = gaining
  · subst htable
    simp [HasField, Catalog.find?_modify, hfind, EntityDraft.add, FieldDraft.fields_add,
      EntityDraft.nextField]
  · simp [HasField, Catalog.find?_modify, htable]

end GainsNext

/-! ## Associations that wait for their inverse sides -/

/-- The sides of all associations match one to one, but for those that wait for their inverse
sides. -/
structure MatchedExcept (schema : Schema) (entities : Catalog EntityDraft)
    (pending : List (String × Field)) : Prop where
  present : ∀ table ∈ schema.tables.names, table ∈ entities.names
  named : ∀ table draft, entities.find? table = some draft → draft.fields.Named
  different : ∀ table draft, entities.find? table = some draft →
    (draft.fields.fields.filterMap fun field => field.kind.mapped?).Nodup
  inverse : ∀ table field, HasField entities table field → ∀ owner mappedBy,
    field.kind.mapped? = some (owner, mappedBy) →
      ∃ owning, HasField entities owner owning ∧ owning.name = mappedBy ∧
        owning.inverse? owner = some (table, field.kind) ∧ (owner, owning) ∉ pending
  owning : ∀ table field, HasField entities table field → ∀ target kind,
    field.inverse? table = some (target, kind) →
      (table, field) ∈ pending ∨ ∃ inverse, HasField entities target inverse ∧ inverse.kind = kind
  held : ∀ waiting ∈ pending, HasField entities waiting.1 waiting.2
  distinct : pending.Nodup
  joins : ∀ table field, HasField entities table field → schema.JoinsField table field

namespace MatchedExcept

variable {schema : Schema} {entities : Catalog EntityDraft} {pending : List (String × Field)}

theorem hasField_unique (hmatched : MatchedExcept schema entities pending) {table : String}
    {field other : Field} (hfield : HasField entities table field)
    (hother : HasField entities table other) (hname : field.name = other.name) :
    field = other := by
  obtain ⟨draft, hfind, hmem⟩ := hfield
  obtain ⟨draft', hfind', hmem'⟩ := hother
  obtain rfl : draft = draft' := Option.some.inj (hfind.symm.trans hfind')
  exact List.inj_on_of_nodup_map (hmatched.named table draft hfind).nodup hmem hmem' hname

theorem not_hasField_nextField (hmatched : MatchedExcept schema entities pending) {table : String}
    {draft : EntityDraft} (hfind : entities.find? table = some draft) (candidates : List String)
    (javaType : String) (kind : FieldKind) :
    ¬ HasField entities table (draft.nextField candidates javaType kind) := by
  rintro ⟨draft', hfind', hmem⟩
  obtain rfl : draft = draft' := Option.some.inj (hfind.symm.trans hfind')
  exact freshAmong_not_mem candidates draft.fields.taken
    ((hmatched.named table draft hfind).taken _ hmem)

theorem named_modify_add (hmatched : MatchedExcept schema entities pending) {gaining : String}
    {draft : EntityDraft} (hfind : entities.find? gaining = some draft) {candidates : List String}
    {javaType : String} {kind : FieldKind} {table : String} {later : EntityDraft}
    (hlater : (entities.modify gaining fun known =>
      known.add candidates javaType kind).find? table = some later) : later.fields.Named := by
  rcases find?_modify_add hfind hlater with hold | ⟨-, rfl⟩
  · exact hmatched.named table later hold
  · exact (hmatched.named gaining draft hfind).add candidates javaType kind

/-- The entity that gains a field stands for no association twice if the new one is new to it. -/
theorem different_modify_add (hmatched : MatchedExcept schema entities pending) {gaining : String}
    {draft : EntityDraft} (hfind : entities.find? gaining = some draft) {candidates : List String}
    {javaType : String} {kind : FieldKind}
    (hnew : ∀ association ∈ kind.mapped?,
      association ∉ draft.fields.fields.filterMap fun field => field.kind.mapped?)
    {table : String} {later : EntityDraft}
    (hlater : (entities.modify gaining fun known =>
      known.add candidates javaType kind).find? table = some later) :
    (later.fields.fields.filterMap fun field => field.kind.mapped?).Nodup := by
  rcases find?_modify_add hfind hlater with hold | ⟨-, rfl⟩
  · exact hmatched.different table later hold
  · have hold := hmatched.different gaining draft hfind
    rw [EntityDraft.add, FieldDraft.fields_add, List.filterMap_append, List.filterMap_cons]
    cases hmapped : kind.mapped? with
    | none => rwa [List.filterMap_nil, List.append_nil]
    | some association =>
      rw [List.filterMap_nil, ← List.concat_eq_append]
      exact hold.concat (hnew association hmapped)

theorem joins_modify_add (hmatched : MatchedExcept schema entities pending) {gaining : String}
    {draft : EntityDraft} (hfind : entities.find? gaining = some draft) {candidates : List String}
    {javaType : String} {kind : FieldKind}
    (hjoins : schema.JoinsField gaining (draft.nextField candidates javaType kind))
    {table : String} {field : Field}
    (hfield : HasField (entities.modify gaining fun known => known.add candidates javaType kind)
      table field) : schema.JoinsField table field := by
  rcases (hasField_modify_add hfind candidates javaType kind table field).1 hfield with
    hold | ⟨rfl, rfl⟩
  · exact hmatched.joins table field hold
  · exact hjoins

/-- No field names an owning side that waits: it would have been matched before. -/
theorem not_mem_mapped?_of_waits {owner target : String} {owning : Field}
    (hmatched : MatchedExcept schema entities pending) (hwaits : (owner, owning) ∈ pending)
    {draft : EntityDraft} (hfind : entities.find? target = some draft) :
    (owner, owning.name) ∉ draft.fields.fields.filterMap fun field => field.kind.mapped? := by
  intro hmem
  obtain ⟨field, hfield, hsame⟩ := List.mem_filterMap.1 hmem
  obtain ⟨other, hother, hname, -, hnot⟩ :=
    hmatched.inverse target field ⟨draft, hfind, hfield⟩ owner owning.name hsame
  rw [hmatched.hasField_unique hother (hmatched.held _ hwaits) hname] at hnot
  exact hnot hwaits

/-- The first association that waits gets its inverse side. -/
theorem gainInverse {owner : String} {owning : Field}
    (hmatched : MatchedExcept schema entities ((owner, owning) :: pending)) {target : String}
    {kind : FieldKind} (hinverse : owning.inverse? owner = some (target, kind))
    (htarget : target ∈ schema.tables.names) (candidates : List String) (javaType : String) :
    MatchedExcept schema
      (entities.modify target fun draft => draft.add candidates javaType kind) pending := by
  obtain ⟨draft, hfind⟩ := Catalog.mem_names_iff.1 (hmatched.present target htarget)
  have hmapped : kind.mapped? = some (owner, owning.name) := Field.mapped?_of_inverse? hinverse
  have hhas := hasField_modify_add hfind candidates javaType kind
  have howning := hmatched.held (owner, owning) List.mem_cons_self
  have hwaiting := List.nodup_cons.1 hmatched.distinct
  have hnew : ∀ association ∈ kind.mapped?,
      association ∉ draft.fields.fields.filterMap fun field => field.kind.mapped? := by
    rw [hmapped]
    rintro _ ⟨⟩
    exact hmatched.not_mem_mapped?_of_waits List.mem_cons_self hfind
  refine
    { present := fun table htable => (Catalog.names_modify ..).symm ▸ hmatched.present table htable
      named := fun table later => hmatched.named_modify_add hfind
      different := fun table later => hmatched.different_modify_add hfind hnew
      inverse := ?inverse
      owning := ?owning
      held := fun waiting hmem => (hhas _ _).2 (.inl (hmatched.held waiting (.tail _ hmem)))
      distinct := hwaiting.2
      joins := fun table field =>
        hmatched.joins_modify_add hfind (schema.joinsField_of_mapped? target hmapped) }
  case inverse =>
    intro table field hfield owner' mappedBy hsame
    rcases (hhas _ _).1 hfield with hold | ⟨rfl, rfl⟩
    · obtain ⟨other, hother, hname, hside, hnot⟩ :=
        hmatched.inverse table field hold owner' mappedBy hsame
      exact ⟨other, (hhas _ _).2 (.inl hother), hname, hside, fun hmem => hnot (.tail _ hmem)⟩
    · obtain ⟨rfl, rfl⟩ := Prod.mk.inj (Option.some.inj (hmapped.symm.trans hsame))
      exact ⟨owning, (hhas _ _).2 (.inl howning), rfl, hinverse, hwaiting.1⟩
  case owning =>
    intro table field hfield target' kind' hside
    rcases (hhas _ _).1 hfield with hold | ⟨rfl, rfl⟩
    · rcases hmatched.owning table field hold target' kind' hside with
        hmem | ⟨inverse, hmem, hkind⟩
      · rcases List.mem_cons.1 hmem with heq | hrest
        · obtain ⟨rfl, rfl⟩ := Prod.mk.inj heq
          obtain ⟨rfl, rfl⟩ := Prod.mk.inj (Option.some.inj (hinverse.symm.trans hside))
          exact .inr ⟨_, (hhas _ _).2 (.inr ⟨rfl, rfl⟩), rfl⟩
        · exact .inl hrest
      · exact .inr ⟨inverse, (hhas _ _).2 (.inl hmem), hkind⟩
    · rw [Field.inverse?_of_mapped? (draft.nextField candidates javaType kind) hmapped] at hside
      cases hside

/-- An owning side is added and waits. -/
theorem gainOwning (hmatched : MatchedExcept schema entities pending) {owner : String}
    {draft : EntityDraft} (hfind : entities.find? owner = some draft) (candidates : List String)
    (javaType : String) (kind : FieldKind) (hmapped : kind.mapped? = none)
    (hjoins : schema.JoinsField owner (draft.nextField candidates javaType kind)) :
    MatchedExcept schema
      (entities.modify owner fun known => known.add candidates javaType kind)
      ((owner, draft.nextField candidates javaType kind) :: pending) := by
  have hhas := hasField_modify_add hfind candidates javaType kind
  have hnew := hmatched.not_hasField_nextField hfind candidates javaType kind
  refine
    { present := fun table htable => (Catalog.names_modify ..).symm ▸ hmatched.present table htable
      named := fun table later => hmatched.named_modify_add hfind
      different := fun table later => hmatched.different_modify_add hfind (by simp [hmapped])
      inverse := ?inverse
      owning := ?owning
      held := ?held
      distinct := List.nodup_cons.2 ⟨fun hmem => hnew (hmatched.held _ hmem), hmatched.distinct⟩
      joins := fun table field => hmatched.joins_modify_add hfind hjoins }
  case inverse =>
    intro table field hfield owner' mappedBy hsame
    rcases (hhas _ _).1 hfield with hold | ⟨rfl, rfl⟩
    · obtain ⟨other, hother, hname, hside, hnot⟩ :=
        hmatched.inverse table field hold owner' mappedBy hsame
      refine ⟨other, (hhas _ _).2 (.inl hother), hname, hside, fun hmem => ?_⟩
      rcases List.mem_cons.1 hmem with heq | hrest
      · obtain ⟨rfl, rfl⟩ := Prod.mk.inj heq
        exact hnew hother
      · exact hnot hrest
    · exact absurd (hmapped.symm.trans hsame) (by simp)
  case owning =>
    intro table field hfield target kind' hside
    rcases (hhas _ _).1 hfield with hold | ⟨rfl, rfl⟩
    · rcases hmatched.owning table field hold target kind' hside with
        hmem | ⟨inverse, hmem, hkind⟩
      · exact .inl (.tail _ hmem)
      · exact .inr ⟨inverse, (hhas _ _).2 (.inl hmem), hkind⟩
    · exact .inl (.head _)
  case held =>
    rw [List.forall_mem_cons]
    exact ⟨(hhas _ _).2 (.inr ⟨rfl, rfl⟩),
      fun waiting hmem => (hhas _ _).2 (.inl (hmatched.held waiting hmem))⟩

end MatchedExcept

end ClassDiagram
