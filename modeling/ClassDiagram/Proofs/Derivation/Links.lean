import Mathlib.Data.List.Forall2
import Mathlib.Data.List.Nodup
import ClassDiagram.Proofs.Derivation.Soundness

/-!
# Links and what they stand for

The links of a derived schema correspond to the relationships between stored elements, in their
order. Each link has left one trace in the tables: a foreign key that belongs to no other link, or a
join table. Nothing else refers to a table beside the keys of children, and no join table stands
there without a link.
-/

namespace ClassDiagram

/-- The columns that refer to another table without being keys. -/
def Table.referringColumns (table : Table) : List Column :=
  table.columns.filter fun column => column.isForeignKey && !column.primaryKey

namespace Schema

variable {schema : Schema}

/-- The columns of the foreign keys among the links, each with its owner. -/
def linkedColumns (schema : Schema) : List (String × Option String) :=
  (schema.links.filter fun link => link.kind == .foreignKey).map fun link =>
    (link.owner, link.column)

/-- The columns that refer to another table without being keys, each with its table. -/
def referringColumns (schema : Schema) : List (String × Option String) :=
  schema.tables.values.flatMap fun table =>
    table.referringColumns.map fun column => (table.name, some column.name)

/-- The join tables that the links name. -/
def linkedJoins (schema : Schema) : List (Option String) :=
  (schema.links.filter fun link => link.kind == .joinTable).map Link.joinTable

/-- The join tables that there are. -/
def joinNames (schema : Schema) : List (Option String) :=
  (schema.tables.values.filter Table.isJoin).map fun table => some table.name

/-! ## What an addition does to the four lists -/

section ForeignKey

variable {owner referenced : Table} {key column : Column}

theorem linkedColumns_add_foreignKey (id : String) (owner referenced : Table) (column : Column) :
    (schema.add (.foreignKey (foreignKeyLink id owner referenced column) column)).linkedColumns =
      schema.linkedColumns ++ [(owner.name, some column.name)] := by
  simp [linkedColumns, add, foreignKeyLink]

theorem referringColumns_add_foreignKey (howner : schema.table? owner.name = some owner)
    (hreferring : column.isForeignKey = true) (hplain : column.primaryKey = false) (id : String)
    (referenced : Table) :
    (schema.add
        (.foreignKey (foreignKeyLink id owner referenced column) column)).referringColumns.Perm
      (schema.referringColumns ++ [(owner.name, some column.name)]) := by
  refine Catalog.flatMap_values_modify_perm howner ?_
  simp [Table.referringColumns, hreferring, hplain]

theorem joinNames_add_foreignKey (link : Link) (column : Column) :
    (schema.add (.foreignKey link column)).joinNames = schema.joinNames := by
  have hsplit : ∀ tables : List Table,
      (tables.filter Table.isJoin).map (fun table => some table.name) =
        ((tables.map fun table => (table.isJoin, table.name)).filter Prod.fst).map
          fun shape => some shape.2 := by
    intro tables
    rw [List.filter_map, List.map_map]
    rfl
  rw [joinNames, joinNames, hsplit, hsplit]
  rw [add, Catalog.map_values_modify _ _ (fun table : Table => (table.isJoin, table.name))]
  exact fun _ => rfl

end ForeignKey

section JoinTable

variable {link : Link} {table : Table}

theorem referringColumns_add_joinTable (hnew : table.name ∉ schema.tables.names)
    (hkeys : ∀ column ∈ table.columns, column.primaryKey = true) (link : Link) :
    (schema.add (.joinTable link table)).referringColumns = schema.referringColumns := by
  have hnone : table.referringColumns = [] := by
    rw [Table.referringColumns, List.filter_eq_nil_iff]
    intro column hmem
    simp [hkeys column hmem]
  rw [referringColumns, add, Catalog.values_insert_of_not_mem _ hnew, List.flatMap_append,
    referringColumns, List.flatMap_singleton, hnone, List.map_nil, List.append_nil]

theorem joinNames_add_joinTable (hnew : table.name ∉ schema.tables.names)
    (hjoin : table.isJoin = true) (link : Link) :
    (schema.add (.joinTable link table)).joinNames = schema.joinNames ++ [some table.name] := by
  rw [joinNames, add, Catalog.values_insert_of_not_mem _ hnew, List.filter_append, List.map_append,
    List.filter_cons_of_pos hjoin, List.filter_nil, List.map_singleton, joinNames]

end JoinTable

/-! ## Every link has left its trace -/

/-- The links and the tables speak of the same foreign keys and the same join tables. -/
structure Traced (schema : Schema) : Prop where
  columns : schema.linkedColumns.Perm schema.referringColumns
  joins : schema.linkedJoins = schema.joinNames

theorem Traced.add_foreignKey (htraced : schema.Traced) {owner : Table} {column : Column}
    (howner : schema.table? owner.name = some owner) (hreferring : column.isForeignKey = true)
    (hplain : column.primaryKey = false) (id : String) (referenced : Table) :
    (schema.add (.foreignKey (foreignKeyLink id owner referenced column) column)).Traced := by
  refine ⟨?_, ?_⟩
  · rw [linkedColumns_add_foreignKey]
    exact (htraced.columns.append_right _).trans
      (referringColumns_add_foreignKey howner hreferring hplain id referenced).symm
  · rw [joinNames_add_foreignKey, ← htraced.joins]
    simp [linkedJoins, add, foreignKeyLink]

theorem Traced.add_joinTable (htraced : schema.Traced) {name : String}
    (hnew : name ∉ schema.tables.names) (id : String) (source target first second : Table)
    (firstKey secondKey : Column) :
    (schema.add (.joinTable (joinTableLink id source target name)
      (joinTableOf name first second firstKey secondKey))).Traced := by
  refine ⟨?_, ?_⟩
  · rw [referringColumns_add_joinTable hnew (by simp [joinTableOf, Table.joinKeyTo])]
    simpa [linkedColumns, add, joinTableLink] using htraced.columns
  · rw [joinNames_add_joinTable hnew rfl, ← htraced.joins]
    simp [linkedJoins, add, joinTableLink, joinTableOf]

/-- Columns of one table have different names, and tables have. -/
theorem KeepsRules.nodup_referringColumns (hrules : schema.KeepsRules) :
    schema.referringColumns.Nodup := by
  have hnames := schema.tables.nodup_names
  rw [names_eq_map_values hrules.storedByName, List.Nodup, List.pairwise_map] at hnames
  rw [referringColumns, List.nodup_flatMap]
  refine ⟨fun table hmem => ?_, hnames.imp fun hne => ?_⟩
  · obtain ⟨name, hfind⟩ := Catalog.mem_values_iff.1 hmem
    have hdistinct := (hrules.tables name table hfind).distinct
    have hsub : (table.referringColumns.map Column.name).Nodup :=
      hdistinct.sublist (List.filter_sublist.map Column.name)
    have hinjective : Function.Injective fun column : String => (table.name, some column) := by
      intro left right heq
      simpa using heq
    simpa [List.map_map, Function.comp_def] using hsub.map hinjective
  · intro pair hleft hright
    obtain ⟨_, -, rfl⟩ := List.mem_map.1 hleft
    obtain ⟨_, -, heq⟩ := List.mem_map.1 hright
    exact hne (congrArg Prod.fst heq).symm

theorem KeepsRules.nodup_joinNames (hrules : schema.KeepsRules) : schema.joinNames.Nodup := by
  have hnames := schema.tables.nodup_names
  rw [names_eq_map_values hrules.storedByName] at hnames
  have hjoins : ((schema.tables.values.filter Table.isJoin).map Table.name).Nodup :=
    hnames.sublist (List.filter_sublist.map Table.name)
  have hwrapped := hjoins.map fun _ _ => Option.some.inj
  rwa [List.map_map] at hwrapped

end Schema

namespace PlacedRelationship

/-- The relationship links two tables. -/
def isStructural (placed : PlacedRelationship) : Bool :=
  match placed.placement with
  | .structural _ _ => true
  | _ => false

theorem isStructural_iff {placed : PlacedRelationship} :
    placed.isStructural = true ↔
      ∃ source target, placed.placement = .structural source target := by
  rw [isStructural]
  cases placed.placement <;> simp

/-- The link is that of the relationship, between its two tables. -/
structure LinkedBy (placed : PlacedRelationship) (link : Link) : Prop where
  id : link.id = placed.relationship.id
  sides : placed.placement = .structural link.owner link.referenced ∨
    placed.placement = .structural link.referenced link.owner

/-- The link is that of the relationship. If it stands for a foreign key, its owner has the column
that the relationship asks for. -/
structure KeptBy (placed : PlacedRelationship) (schema : Schema) (link : Link) : Prop
    extends placed.LinkedBy link where
  column : link.kind = .foreignKey → ∃ place owner column, placed.keyPlace? = some place ∧
    place.owner = link.owner ∧ schema.table? link.owner = some owner ∧
      column ∈ owner.columns ∧ link.column = some column.name ∧ place.IsTakenBy schema column

variable {placed : PlacedRelationship}

theorem KeptBy.grow {before after : Schema} {link : Link} (hkept : placed.KeptBy before link)
    (hgrows : before.GrowsTo after) : placed.KeptBy after link := by
  refine { hkept with column := fun hkind => ?_ }
  obtain ⟨place, owner, column, hplace, howner, hfind, hmem, hname, htaken⟩ := hkept.column hkind
  obtain ⟨added, hafter, -⟩ := hgrows.kept _ owner hfind
  exact ⟨place, _, column, hplace, howner, hafter, List.mem_append_left added hmem, hname,
    hgrows.isTakenBy htaken⟩

theorem keptBy_add_foreignKey {schema : Schema} {owner referenced : Table} {key : Column}
    {nullable unique : Bool} (howner : schema.table? owner.name = some owner)
    (hreferenced : schema.table? referenced.name = some referenced)
    (hkey : referenced.primaryKey? = some key)
    (hsides : placed.placement = .structural owner.name referenced.name ∨
      placed.placement = .structural referenced.name owner.name)
    (hplace : placed.keyPlace? =
      some { owner := owner.name, referenced := referenced.name, nullable, unique }) :
    let column := owner.foreignKeyTo referenced key nullable unique
    let link := foreignKeyLink placed.relationship.id owner referenced column
    placed.KeptBy (schema.add (.foreignKey link column)) link := by
  intro column link
  have hgrows : schema.GrowsTo (schema.add (.foreignKey link column)) :=
    Schema.growsTo_add_foreignKey link rfl
  have htaken := hgrows.isTakenBy
    (Schema.isTakenBy_foreignKeyTo owner hreferenced hkey nullable unique)
  have hafter : (schema.add (.foreignKey link column)).table? link.owner =
      some { owner with columns := owner.columns ++ [column] } := by
    rw [Schema.table?_add_foreignKey, if_pos rfl, show link.owner = owner.name from rfl, howner]
    rfl
  exact ⟨⟨rfl, hsides⟩, fun _ =>
    ⟨_, _, column, hplace, rfl, hafter, List.mem_concat_self, rfl, htaken⟩⟩

end PlacedRelationship

namespace Draft

variable {draft : Draft} {placed : PlacedRelationship}

/-- A relationship between two tables adds one link, any other relationship none. -/
theorem links_addPlaced (hsound : draft.schema.Sound) (hlies : placed.LiesIn draft.schema)
    (hfaults : placed.faults = []) :
    ∃ added, (draft.addPlaced placed).schema.links = draft.schema.links ++ added ∧
      List.Forall₂ (fun step link => step.KeptBy (draft.addPlaced placed).schema link)
        ([placed].filter PlacedRelationship.isStructural) added := by
  by_cases hstructural : placed.isStructural = true
  · obtain ⟨sourceName, targetName, hplacement⟩ :=
      PlacedRelationship.isStructural_iff.1 hstructural
    obtain ⟨⟨source, hsource, hsourceElement⟩, ⟨target, htarget, htargetElement⟩⟩ :=
      hlies _ _ hplacement
    obtain rfl := hsound.table_name hsource
    obtain rfl := hsound.table_name htarget
    obtain ⟨sourceKey, hsourceKey⟩ := hsound.exists_primaryKey hsource
    obtain ⟨targetKey, htargetKey⟩ := hsound.exists_primaryKey htarget
    rw [addPlaced_eq_addRelationship hplacement ⟨hsource, hsourceElement⟩
      ⟨htarget, htargetElement⟩ (.refl _), List.filter_cons_of_pos hstructural, List.filter_nil]
    cases hends : placed.relationship.cardinalities with
    | error fault => simp [PlacedRelationship.faults, hplacement, hends] at hfaults
    | ok ends =>
      have hplace := PlacedRelationship.keyPlace?_eq_between? hplacement hends
      rcases Relationship.addition_cases hsourceKey htargetKey hends with
        ⟨hsingle, haddition⟩ | ⟨hmany, hsingle, haddition⟩ | ⟨-, -, haddition⟩
      · rw [KeyPlace.between?_of_target hsingle] at hplace
        rw [addRelationship, haddition]
        exact ⟨_, rfl, .cons (PlacedRelationship.keptBy_add_foreignKey hsource htarget htargetKey
          (.inl hplacement) hplace) .nil⟩
      · rw [KeyPlace.between?_of_source hmany hsingle] at hplace
        rw [addRelationship, haddition]
        exact ⟨_, rfl, .cons (PlacedRelationship.keptBy_add_foreignKey htarget hsource hsourceKey
          (.inr hplacement) hplace) .nil⟩
      · obtain ⟨_, _, _, _, -, hjoin⟩ :=
          joinTableAddition_cases hsourceKey htargetKey placed.relationship.id
        rw [addRelationship, haddition, hjoin]
        exact ⟨_, rfl, .cons ⟨⟨rfl, .inl hplacement⟩, fun hkind => by cases hkind⟩ .nil⟩
  · have hother : ∀ source target, placed.placement ≠ .structural source target :=
      fun source target hplacement =>
        hstructural (PlacedRelationship.isStructural_iff.2 ⟨source, target, hplacement⟩)
    rw [addPlaced_eq_self hother, List.filter_cons_of_neg hstructural]
    exact ⟨[], (List.append_nil _).symm, .nil⟩

theorem links_foldl_addPlaced (placed : List PlacedRelationship) :
    ∀ draft : Draft, draft.schema.Sound → (∀ step ∈ placed, step.LiesIn draft.schema) →
      (∀ step ∈ placed, step.faults = []) →
      ∃ added, (placed.foldl addPlaced draft).schema.links = draft.schema.links ++ added ∧
        List.Forall₂ (fun step link => step.KeptBy (placed.foldl addPlaced draft).schema link)
          (placed.filter PlacedRelationship.isStructural) added := by
  induction placed with
  | nil => exact fun draft _ _ _ => ⟨[], (List.append_nil _).symm, .nil⟩
  | cons first rest ih =>
    intro draft hsound hlies hfaults
    rw [List.forall_mem_cons] at hlies hfaults
    have hfirst := adds_addPlaced hsound hlies.1
    have hlies' := fun step hstep => (hlies.2 step hstep).grow hfirst.grows.grows
    have hothers := adds_foldl_addPlaced rest (draft.addPlaced first) hfirst.sound hlies'
    obtain ⟨added, hadded, hkept⟩ := links_addPlaced hsound hlies.1 hfaults.1
    obtain ⟨further, hfurther, hrest⟩ := ih (draft.addPlaced first) hfirst.sound hlies' hfaults.2
    refine ⟨added ++ further, ?_, ?_⟩
    · rw [List.foldl_cons, hfurther, hadded, List.append_assoc]
    · rw [← List.singleton_append, List.filter_append]
      exact List.rel_append (hkept.imp fun _ _ hlink => hlink.grow hothers.grows.grows) hrest

theorem traced_addPlaced (hsound : draft.schema.Sound) (hlies : placed.LiesIn draft.schema)
    (htraced : draft.schema.Traced) : (draft.addPlaced placed).schema.Traced := by
  cases addPlaced_cases hsound hlies with
  | nothing _ hacts =>
    rw [(hacts draft (.refl _)).1]
    exact htraced
  | foreignKey howner _ _ _ hacts =>
    rw [(hacts draft (.refl _)).1]
    exact htraced.add_foreignKey howner.1 rfl rfl _ _
  | joinTable _ _ _ _ _ _ hacts =>
    rw [(hacts draft (.refl _)).1]
    exact htraced.add_joinTable (freshName_not_mem _ _) _ _ _ _ _ _ _

end Draft

/-- Fitting refers from keys only. -/
theorem Schema.Flat.referringColumns_fit {schema : Schema} (hflat : schema.Flat) {name : String}
    {table : Table} (hfind : schema.table? name = some table) :
    (schema.fit table).referringColumns = [] := by
  have hbare : ∀ columns : List Column, (∀ column ∈ columns, column.references = none) →
      columns.filter (fun column => column.isForeignKey && !column.primaryKey) = [] := by
    intro columns hnone
    rw [List.filter_eq_nil_iff]
    intro column hmem
    simp [Column.isForeignKey, hnone column hmem]
  rcases hflat.fit_cases hfind with ⟨-, heq⟩ | ⟨_, parent, parentKey, rootKey, -, -, -, -, -, heq⟩
  · rw [heq]
    exact hbare _ (hflat.bare name table hfind)
  · rw [heq, Table.referringColumns, Table.fitTo, ← List.filter_filter,
      filter_modifyFirstKey (childKey parent parentKey rootKey) fun _ => rfl, List.filter_filter]
    refine hbare _ fun column hmem => hflat.bare name table hfind column (List.mem_filter.1 hmem).1

namespace Diagram

variable {diagram : Diagram} {schema : Schema}

/-- An association, aggregation or composition between two elements that have tables. -/
def LinksTables (diagram : Diagram) (relationship : Relationship) : Prop :=
  relationship.kind.family = .structural ∧ diagram.IsStored relationship.sourceId ∧
    diagram.IsStored relationship.targetId

instance (id : String) : Decidable (diagram.IsStored id) :=
  inferInstanceAs (Decidable (∃ element ∈ diagram.storedElements, element.id = id))

instance : DecidablePred diagram.LinksTables := fun relationship =>
  inferInstanceAs (Decidable (relationship.kind.family = .structural ∧
    diagram.IsStored relationship.sourceId ∧ diagram.IsStored relationship.targetId))

/-- The link has the id of the relationship and leads from the table of one end to that of the
other. -/
structure RepresentedBy (diagram : Diagram) (relationship : Relationship) (link : Link) : Prop where
  id : link.id = relationship.id
  sides : diagram.Stores relationship.sourceId link.owner ∧
      diagram.Stores relationship.targetId link.referenced ∨
    diagram.Stores relationship.sourceId link.referenced ∧
      diagram.Stores relationship.targetId link.owner

theorem filter_isStructural_placements (hwell : diagram.ElementsWellFormed) :
    diagram.placements.filter PlacedRelationship.isStructural =
      (diagram.relationships.filter diagram.LinksTables).map fun relationship =>
        { relationship
          placement := relationship.placement diagram.elementIds diagram.elementDraft.tableOf } := by
  rw [placements, placedRelationships, List.filter_map]
  refine congrArg _ (List.filter_congr fun relationship _ => ?_)
  rw [Bool.eq_iff_iff, Function.comp_apply, PlacedRelationship.isStructural_iff, decide_eq_true_iff,
    LinksTables, isStored_iff, isStored_iff]
  simp only [placement_eq_structural_iff hwell]
  constructor
  · rintro ⟨source, target, hfamily, hsource, htarget⟩
    exact ⟨hfamily, ⟨source, hsource⟩, ⟨target, htarget⟩⟩
  · rintro ⟨hfamily, ⟨source, hsource⟩, ⟨target, htarget⟩⟩
    exact ⟨source, target, hfamily, hsource, htarget⟩

theorem keptBy_of_schema (haccepted : diagram.schema = .ok schema) :
    List.Forall₂ (fun placed link => placed.KeptBy schema link)
      (diagram.placements.filter PlacedRelationship.isStructural) schema.links := by
  have hwell := joinedWellFormed_of_schema haccepted
  have hfaults := (wellFormed_iff.1 (draft_faults_eq_nil_iff.1 (schema_eq_ok_iff.1 haccepted).1)).2
  obtain ⟨added, hlinks, hkept⟩ := Draft.links_foldl_addPlaced diagram.placements
    diagram.joinedDraft hwell.sound (placements_lieIn hwell) (List.flatMap_eq_nil_iff.1 hfaults)
  rw [hwell.links_eq_nil, List.nil_append, ← draft_eq_foldl] at hlinks
  rw [← draft_eq_foldl, (schema_eq_ok_iff.1 haccepted).2] at hkept
  rwa [← (schema_eq_ok_iff.1 haccepted).2, hlinks, (schema_eq_ok_iff.1 haccepted).2]

/-- Exactly the relationships between stored elements have links, one each, in their order. -/
theorem representedBy_of_schema (haccepted : diagram.schema = .ok schema) :
    List.Forall₂ diagram.RepresentedBy
      (diagram.relationships.filter diagram.LinksTables) schema.links := by
  have hwell := joinedWellFormed_of_schema haccepted
  have hkept := keptBy_of_schema haccepted
  rw [filter_isStructural_placements hwell.elements, List.forall₂_map_left_iff] at hkept
  refine hkept.imp fun relationship link hlink => ⟨hlink.id, ?_⟩
  refine hlink.sides.imp (fun hplacement => ?_) fun hplacement => ?_
  · exact ((placement_eq_structural_iff hwell.elements).1 hplacement).2
  · exact ((placement_eq_structural_iff hwell.elements).1 hplacement).2

theorem JoinedWellFormed.traced (hwell : diagram.JoinedWellFormed) :
    diagram.joinedDraft.schema.Traced := by
  have hfitted : ∀ table ∈ diagram.joinedDraft.schema.tables.values,
      table.referringColumns = [] ∧ table.isJoin = false := by
    intro table hmem
    obtain ⟨name, hfind⟩ := Catalog.mem_values_iff.1 hmem
    have hfind' : diagram.joinedDraft.schema.table? name = some table := hfind
    rw [hwell.schema_eq, Schema.table?_fitted, Option.map_eq_some_iff] at hfind'
    obtain ⟨flat, hflat, rfl⟩ := hfind'
    exact ⟨hwell.flat.referringColumns_fit hflat, hwell.flat.isJoin_fit hflat⟩
  refine ⟨?_, ?_⟩
  · have hnone : diagram.joinedDraft.schema.referringColumns = [] := by
      rw [Schema.referringColumns, List.flatMap_eq_nil_iff]
      intro table hmem
      rw [(hfitted table hmem).1, List.map_nil]
    rw [hnone, Schema.linkedColumns, hwell.links_eq_nil, List.filter_nil, List.map_nil]
  · have hnone : diagram.joinedDraft.schema.tables.values.filter Table.isJoin = [] := by
      rw [List.filter_eq_nil_iff]
      intro table hmem
      simp [(hfitted table hmem).2]
    rw [Schema.joinNames, hnone, Schema.linkedJoins, hwell.links_eq_nil, List.filter_nil,
      List.map_nil, List.map_nil]

theorem traced_of_schema (haccepted : diagram.schema = .ok schema) : schema.Traced :=
  keeps_of_schema haccepted (joinedWellFormed_of_schema haccepted).traced
    fun _ _ => Draft.traced_addPlaced

/-- The links are those of the relationships between stored elements, in their order. Those that
stand for foreign keys have different columns, which are all the columns that refer to a table
without being keys, and those that stand for join tables have different ones, which are all there
are. -/
theorem links_of_schema (haccepted : diagram.schema = .ok schema) :
    List.Forall₂ diagram.RepresentedBy
        (diagram.relationships.filter diagram.LinksTables) schema.links ∧
      schema.linkedColumns.Nodup ∧ schema.linkedColumns.Perm schema.referringColumns ∧
      schema.linkedJoins.Nodup ∧ schema.linkedJoins = schema.joinNames := by
  have htraced := traced_of_schema haccepted
  have hrules := (sound_of_schema haccepted).rules
  refine ⟨representedBy_of_schema haccepted, ?_, htraced.columns, ?_, htraced.joins⟩
  · exact htraced.columns.nodup_iff.2 hrules.nodup_referringColumns
  · exact htraced.joins ▸ hrules.nodup_joinNames

/-- The shop's inheritance has no link, and the key of its staff, which refers to the users, belongs
to none. -/
theorem links_of_schema_shop :
    shop.schema = .ok shop.draft.schema ∧
      shop.draft.schema.linkedColumns.Perm [("product", some "staff_id")] ∧
      shop.draft.schema.linkedJoins = [some "product_product"] ∧
      (shop.draft.schema.table? "staff").map (fun table => table.columns.map Column.isForeignKey) =
        some [true, false] := by
  obtain ⟨-, -, hcolumns, -, hjoins⟩ := links_of_schema shop_schema
  have hreferring : shop.draft.schema.referringColumns = [("product", some "staff_id")] := by
    decide +kernel
  have hnames : shop.draft.schema.joinNames = [some "product_product"] := by decide +kernel
  exact ⟨shop_schema, hreferring ▸ hcolumns, hjoins.trans hnames, by decide +kernel⟩

end Diagram

end ClassDiagram
