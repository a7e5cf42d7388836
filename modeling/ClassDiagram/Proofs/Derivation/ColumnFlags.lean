import ClassDiagram.Proofs.Outcomes
import ClassDiagram.Proofs.Derivation.Columns
import ClassDiagram.Proofs.Derivation.Links
import ClassDiagram.Proofs.Derivation.Tables

/-!
# Flags of columns

Whether a column may be empty, must be unique and is given by the database. A key is neither empty
nor marked as unique, and only that of a root is given by the database. Foreign keys have their
flags from the two ends of their relationships, and no other column is unique.
-/

namespace ClassDiagram

/-! ## The ends of a foreign key -/

/-- The end that has the foreign key and the end that it refers to. -/
structure KeyEnds where
  ownerId : String
  referencedId : String
  owner : Cardinality
  referenced : Cardinality
  deriving DecidableEq, Repr

namespace Relationship

variable {relationship : Relationship}

/-- A target that is single is referred to, else a source that is single. -/
def keyEnds? (relationship : Relationship) : Option KeyEnds :=
  match relationship.cardinalities with
  | .ok (source, target) =>
    if target.isSingle then
      some {
        ownerId := relationship.sourceId
        referencedId := relationship.targetId
        owner := source
        referenced := target }
    else if source.isSingle then
      some {
        ownerId := relationship.targetId
        referencedId := relationship.sourceId
        owner := target
        referenced := source }
    else none
  | .error _ => none

/-- At most one instance stands at either end. -/
def IsOneToOne (relationship : Relationship) : Prop :=
  ∃ source target, relationship.cardinalities = .ok (source, target) ∧
    source.isSingle = true ∧ target.isSingle = true

theorem isOneToOne_iff {source target : Cardinality}
    (hends : relationship.cardinalities = .ok (source, target)) :
    relationship.IsOneToOne ↔ source.isSingle = true ∧ target.isSingle = true := by
  simp [IsOneToOne, hends]

end Relationship

/-! ## Flags that do not depend on relationships -/

/-- The flags of a column fit to its table. -/
structure Table.Flags (table : Table) (column : Column) : Prop where
  key : column.primaryKey = true → column.nullable = false ∧ column.unique = false
  generated : column.generated = true ↔ column.primaryKey = true ∧ table.isJoin = false ∧
    table.parent = none ∧ isIntegral column.sqlType = true
  unique : column.unique = true → column.isForeignKey = true ∧ column.primaryKey = false

def Table.HasFlags (table : Table) : Prop :=
  ∀ column ∈ table.columns, table.Flags column

/-- Of its table only the kind and the parent count. -/
theorem Table.Flags.move {table other : Table} {column : Column} (hflags : table.Flags column)
    (hjoin : other.isJoin = table.isJoin) (hparent : other.parent = table.parent) :
    other.Flags column where
  key := hflags.key
  generated := by rw [hjoin, hparent, hflags.generated]
  unique := hflags.unique

theorem flags_foreignKeyTo (table owner referenced : Table) (key : Column)
    (nullable unique : Bool) :
    table.Flags (owner.foreignKeyTo referenced key nullable unique) where
  key := fun hkey => absurd hkey Bool.false_ne_true
  generated := iff_of_false Bool.false_ne_true fun hkey => absurd hkey.1 Bool.false_ne_true
  unique := fun _ => ⟨rfl, rfl⟩

theorem flags_joinKeyTo {table : Table} (hjoin : table.isJoin = true) (side : Table) (key : Column)
    (taken : List String) : table.Flags (side.joinKeyTo key taken) where
  key := fun _ => ⟨rfl, rfl⟩
  generated := iff_of_false Bool.false_ne_true fun hkey => by
    rw [hjoin] at hkey
    exact absurd hkey.2.1.symm Bool.false_ne_true
  unique := fun hunique => absurd hunique Bool.false_ne_true

theorem keptByAdditions_hasFlags : KeptByAdditions Table.HasFlags where
  foreignKey := by
    intro owner referenced key _ howner _ _ nullable unique column hmem
    rw [List.mem_append, List.mem_singleton] at hmem
    rcases hmem with hold | rfl
    · exact (howner column hold).move rfl rfl
    · exact flags_foreignKeyTo _ owner referenced key nullable unique
  joinTable := by
    intro first second firstKey secondKey _ _ _ _ taken column hmem
    rcases List.mem_pair.1 hmem with rfl | rfl
    · exact flags_joinKeyTo rfl first firstKey []
    · exact flags_joinKeyTo rfl second secondKey _

namespace Diagram

variable {diagram : Diagram} {schema : Schema}

theorem flags_of_mem_declaredColumns {element : Element} {column : Column}
    (hmem : column ∈ diagram.declaredColumns element) :
    (column.primaryKey = true → column.nullable = false) ∧ column.unique = false ∧
      column.generated = (column.primaryKey && isIntegral column.sqlType) := by
  rcases mem_declaredColumns_cases hmem with rfl | ⟨typed, -, primaryKey, rfl⟩
  · exact ⟨fun _ => rfl, rfl, by decide⟩
  · refine ⟨fun hkey => ?_, rfl, rfl⟩
    rw [declaredColumn, show primaryKey = true from hkey]
    rfl

/-- A kept column has the flags that it is declared with, except for the key of a child. -/
theorem flags_of_keptAs (hwell : diagram.JoinedWellFormed) {element : Element}
    (helement : element ∈ diagram.storedElements) {declared kept : Column}
    (hkept : diagram.KeptAs schema element declared kept)
    (hmem : declared ∈ diagram.declaredColumns element) :
    (diagram.linkedTable element).Flags kept := by
  obtain ⟨hfilled, hcommon, hgenerated⟩ := flags_of_mem_declaredColumns hmem
  have hparent : ∀ parent, diagram.Extends element.storedName parent ↔
      (diagram.linkedTable element).parent = some parent :=
    fun _ => extends_iff_parent hwell helement
  rw [KeptAs] at hkept
  split at hkept
  · rename_i hkey
    rcases hkept with ⟨hroot, rfl⟩ | ⟨parent, key, hextends, -, rfl⟩
    · have hnone : (diagram.linkedTable element).parent = none :=
        Option.eq_none_iff_forall_ne_some.2 fun parent heq => hroot parent ((hparent parent).2 heq)
      refine ⟨fun _ => ⟨hfilled hkey, hcommon⟩, ?_, by simp [hcommon]⟩
      rw [hgenerated, hkey, hnone, Bool.true_and]
      exact ⟨fun hintegral => ⟨rfl, rfl, rfl, hintegral⟩, fun hroot => hroot.2.2.2⟩
    · have hsome := (hparent parent).1 hextends
      refine ⟨fun _ => ⟨rfl, hcommon⟩, ?_, by simp [hcommon]⟩
      simp [hsome]
  · rename_i hplain
    subst hkept
    exact ⟨fun hkey => absurd hkey hplain, by simp [hgenerated, hplain], by simp [hcommon]⟩

theorem hasFlags_of_schema (haccepted : diagram.schema = .ok schema) :
    schema.AllTables Table.HasFlags := by
  have hwell := joinedWellFormed_of_schema haccepted
  apply allTables_of_schema haccepted keptByAdditions_hasFlags
  intro name fitted hfitted column hmem
  rw [hwell.schema_eq, Schema.table?_fitted, Option.map_eq_some_iff] at hfitted
  obtain ⟨table, hfind, rfl⟩ := hfitted
  obtain ⟨element, helement, -, rfl⟩ := table?_linkedSchema_eq_some hwell.elements hfind
  obtain ⟨declared, hdeclared, hkept⟩ := exists_result_of_forall₂
    (forall₂_keptAs haccepted helement).flip column hmem
  apply (flags_of_keptAs hwell helement hkept (List.mem_filter.1 hdeclared).1).move
  · rw [hwell.flat.isJoin_fit hfind, hwell.flat.element _ _ hfind]
  · rw [Schema.fit, Table.fitBelow_parent]

/-! ## Flags of foreign keys -/

/-- The column is the foreign key of the relationship: it belongs to the link that stands at the
relationship's place among those between tables. -/
def IsKeyOf (diagram : Diagram) (schema : Schema) (relationship : Relationship) (table : Table)
    (column : Column) : Prop :=
  ∃ link, (relationship, link) ∈
      (diagram.relationships.filter diagram.LinksTables).zip schema.links ∧
    link.kind = .foreignKey ∧ link.owner = table.name ∧ link.column = some column.name

section ForeignKey

variable {name : String} {table : Table} {column : Column} {relationship : Relationship}

theorem exists_isKeyOf (haccepted : diagram.schema = .ok schema)
    (hfind : schema.table? name = some table) (hmem : column ∈ table.columns)
    (hreferring : column.isForeignKey = true) (hplain : column.primaryKey = false) :
    ∃ relationship, diagram.IsKeyOf schema relationship table column := by
  have hreferringColumn : (table.name, some column.name) ∈ schema.referringColumns := by
    rw [Schema.referringColumns, List.mem_flatMap]
    refine ⟨table, Catalog.mem_values_iff.2 ⟨name, hfind⟩, List.mem_map_of_mem ?_⟩
    exact List.mem_filter.2 ⟨hmem, by simp [hreferring, hplain]⟩
  rw [← (traced_of_schema haccepted).columns.mem_iff, Schema.linkedColumns,
    List.mem_map] at hreferringColumn
  obtain ⟨link, hlink, hcolumn⟩ := hreferringColumn
  rw [List.mem_filter, beq_iff_eq] at hlink
  have hzipped : link ∈ ((diagram.relationships.filter diagram.LinksTables).zip
      schema.links).map Prod.snd := by
    rw [List.map_snd_zip (Nat.le_of_eq (representedBy_of_schema haccepted).length_eq.symm)]
    exact hlink.1
  obtain ⟨pair, hpair, rfl⟩ := List.mem_map.1 hzipped
  exact ⟨pair.1, pair.2, hpair, hlink.2, congrArg Prod.fst hcolumn, congrArg Prod.snd hcolumn⟩

/-- The foreign key of a relationship is as the relationship asks for it. -/
theorem IsKeyOf.isTakenBy (haccepted : diagram.schema = .ok schema)
    (hfind : schema.table? name = some table) (hmem : column ∈ table.columns)
    (hkey : diagram.IsKeyOf schema relationship table column) :
    ∃ place, diagram.keyPlace? relationship = some place ∧ place.owner = table.name ∧
      place.IsTakenBy schema column := by
  have hwell := joinedWellFormed_of_schema haccepted
  have hrules := (sound_of_schema haccepted).rules.tables name table hfind
  have hkept := keptBy_of_schema haccepted
  -- read pair by pair, what is kept for every relationship is kept for this one
  rw [filter_isStructural_placements hwell.elements, List.forall₂_map_left_iff,
    List.forall₂_iff_zip] at hkept
  obtain ⟨link, hlink, hkind, howner, hcolumn⟩ := hkey
  obtain ⟨place, owner, other, hplace, hplaceOwner, hownerFind, hother, hname, htaken⟩ :=
    (hkept.2 hlink).column hkind
  rw [keyPlace?_placed hwell.elements] at hplace
  rw [howner, hrules.stored, hfind] at hownerFind
  cases hownerFind
  rw [hcolumn] at hname
  have hsame : other = column :=
    List.inj_on_of_nodup_map hrules.distinct hother hmem (Option.some.inj hname).symm
  exact ⟨place, hplace, hplaceOwner.trans howner, hsame ▸ htaken⟩

theorem exists_keyEnds (hwell : diagram.ElementsWellFormed) {place : KeyPlace}
    (hplace : diagram.keyPlace? relationship = some place) :
    ∃ ends, relationship.keyEnds? = some ends ∧ diagram.Stores ends.ownerId place.owner ∧
      diagram.Stores ends.referencedId place.referenced ∧
      place.nullable = (ends.referenced == .zeroOrOne) ∧
      (place.unique = true ↔ relationship.IsOneToOne) := by
  rw [keyPlace?] at hplace
  split at hplace
  · obtain ⟨source, hsource, hplace⟩ := Option.bind_eq_some_iff.1 hplace
    obtain ⟨target, htarget, hplace⟩ := Option.bind_eq_some_iff.1 hplace
    obtain ⟨sourceEnd, hsourceEnd, hplace⟩ := Option.bind_eq_some_iff.1 hplace
    obtain ⟨targetEnd, htargetEnd, hplace⟩ := Option.bind_eq_some_iff.1 hplace
    rw [tableName?_eq_some_iff hwell] at hsource htarget
    have hends : relationship.cardinalities = .ok (sourceEnd, targetEnd) := by
      rw [Relationship.cardinalities, hsourceEnd, htargetEnd]
    rw [Relationship.keyEnds?, hends, Relationship.isOneToOne_iff hends]
    rw [KeyPlace.between?] at hplace
    split at hplace
    · rename_i hsingle
      cases hplace
      exact ⟨_, if_pos hsingle, hsource, htarget, rfl, (and_iff_left hsingle).symm⟩
    · rename_i hmany
      split at hplace
      · rename_i hsingle
        cases hplace
        refine ⟨_, (if_neg hmany).trans (if_pos hsingle), htarget, hsource, rfl, ?_⟩
        exact ⟨fun hunique => absurd hunique Bool.false_ne_true, fun hboth => absurd hboth.2 hmany⟩
      · cases hplace
  · cases hplace

end ForeignKey

/-- A key is neither empty nor marked as unique. Exactly the keys of roots that have an integral
type are given by the database. Exactly the foreign keys of one-to-one relationships are marked as
unique, and a foreign key may be empty exactly if its relationship refers to an optional end. -/
theorem schema_columnFlags (haccepted : diagram.schema = .ok schema) {name : String} {table : Table}
    (hfind : schema.table? name = some table) {column : Column} (hmem : column ∈ table.columns) :
    (column.primaryKey = true → column.nullable = false ∧ column.unique = false) ∧
    (column.generated = true ↔ column.primaryKey = true ∧ table.isJoin = false ∧
      table.parent = none ∧ column.sqlType ∈ ["INTEGER", "BIGINT", "SMALLINT"]) ∧
    (column.unique = true ↔ ∃ relationship,
      diagram.IsKeyOf schema relationship table column ∧ relationship.IsOneToOne) ∧
    (column.isForeignKey = true → column.primaryKey = false →
      (∃ relationship, diagram.IsKeyOf schema relationship table column) ∧
      ∀ relationship, diagram.IsKeyOf schema relationship table column →
        ∃ ends, relationship.keyEnds? = some ends ∧ diagram.Stores ends.ownerId table.name ∧
          (∃ reference, column.references = some reference ∧
            diagram.Stores ends.referencedId reference.table) ∧
          (column.nullable = true ↔ ends.referenced = .zeroOrOne)) := by
  have hwell := joinedWellFormed_of_schema haccepted
  have hflags := hasFlags_of_schema haccepted name table hfind column hmem
  refine ⟨hflags.key, ?_, ⟨fun hunique => ?_, ?_⟩, fun hreferring hplain =>
    ⟨exists_isKeyOf haccepted hfind hmem hreferring hplain, fun relationship hkey => ?_⟩⟩
  · rw [hflags.generated]
    simp [isIntegral, or_assoc]
  · obtain ⟨hreferring, hplain⟩ := hflags.unique hunique
    obtain ⟨relationship, hkey⟩ := exists_isKeyOf haccepted hfind hmem hreferring hplain
    obtain ⟨place, hplace, -, htaken⟩ := hkey.isTakenBy haccepted hfind hmem
    obtain ⟨-, -, -, -, -, honeToOne⟩ := exists_keyEnds hwell.elements hplace
    exact ⟨relationship, hkey, honeToOne.1 (htaken.unique ▸ hunique)⟩
  · rintro ⟨relationship, hkey, honeToOne⟩
    obtain ⟨place, hplace, -, htaken⟩ := hkey.isTakenBy haccepted hfind hmem
    obtain ⟨-, -, -, -, -, hunique⟩ := exists_keyEnds hwell.elements hplace
    exact htaken.unique.trans (hunique.2 honeToOne)
  · obtain ⟨place, hplace, howner, htaken⟩ := hkey.isTakenBy haccepted hfind hmem
    obtain ⟨ends, hends, hstores, hreferenced, hnullable, -⟩ :=
      exists_keyEnds hwell.elements hplace
    obtain ⟨_, key, -, -, -, hreference⟩ := htaken.reference
    refine ⟨ends, hends, howner ▸ hstores, ⟨_, hreference, hreferenced⟩, ?_⟩
    rw [htaken.nullable, hnullable, beq_iff_eq]

/-- The products of the shop refer to staff that may be missing. -/
theorem schema_columnFlags_shop : shop.schema = .ok shop.draft.schema ∧
    ∃ table column relationship ends, shop.draft.schema.table? "product" = some table ∧
      column ∈ table.columns ∧ column.isForeignKey = true ∧ column.primaryKey = false ∧
      shop.IsKeyOf shop.draft.schema relationship table column ∧
      relationship.keyEnds? = some ends ∧ column.nullable = true ∧ ends.referenced = .zeroOrOne ∧
      column.generated = false ∧ ¬ relationship.IsOneToOne := by
  have hshape : (shop.draft.schema.table? "product").bind (fun table =>
      (table.column? "staff_id").map fun column => (column.isForeignKey, column.primaryKey,
        column.nullable, column.generated, column.unique)) =
      some (true, false, true, false, false) := by
    decide +kernel
  obtain ⟨table, hfind, hcolumn⟩ := Option.bind_eq_some_iff.1 hshape
  obtain ⟨column, hcolumn, hflags⟩ := Option.map_eq_some_iff.1 hcolumn
  simp only [Prod.mk.injEq] at hflags
  obtain ⟨hreferring, hplain, hnullable, hgenerated, hunique⟩ := hflags
  have hmem : column ∈ table.columns := List.mem_of_find?_eq_some hcolumn
  obtain ⟨-, -, honeToOne, hforeign⟩ := schema_columnFlags shop_schema hfind hmem
  obtain ⟨⟨relationship, hkey⟩, hends⟩ := hforeign hreferring hplain
  obtain ⟨ends, hends, -, -, hoptional⟩ := hends relationship hkey
  refine ⟨shop_schema, table, column, relationship, ends, hfind, hmem, hreferring, hplain, hkey,
    hends, hnullable, hoptional.1 hnullable, hgenerated, fun hboth => ?_⟩
  exact Bool.false_ne_true (hunique.symm.trans (honeToOne.2 ⟨relationship, hkey, hboth⟩))

end Diagram

end ClassDiagram
