import Mathlib.Data.List.Forall2
import ClassDiagram.Proofs.Schema.Growth

/-!
# Adding the relationships

The run over the relationships of a diagram. From a sound schema every step leads to a sound
schema, in which tables have the foreign keys that the step is meant to add, and the only fault
that a step can find is an unreadable cardinality. The run collects what its steps do.
-/

namespace ClassDiagram

/-! ## Places for foreign keys -/

/-- A foreign key that one table is to get, and the table that it refers to. -/
structure KeyPlace where
  owner : String
  referenced : String
  nullable : Bool
  unique : Bool
  deriving DecidableEq, Repr

/-- The source refers to a target that is single, else the target to a source that is single. With
neither there is no foreign key. -/
def KeyPlace.between? (source target : String) (sourceEnd targetEnd : Cardinality) :
    Option KeyPlace :=
  if targetEnd.isSingle then
    some {
      owner := source
      referenced := target
      nullable := targetEnd == .zeroOrOne
      unique := sourceEnd.isSingle }
  else if sourceEnd.isSingle then
    some {
      owner := target
      referenced := source
      nullable := sourceEnd == .zeroOrOne
      unique := false }
  else none

section Between

variable {source target : String} {sourceEnd targetEnd : Cardinality}

theorem KeyPlace.between?_of_target (hsingle : targetEnd.isSingle = true) :
    between? source target sourceEnd targetEnd = some {
      owner := source
      referenced := target
      nullable := targetEnd == .zeroOrOne
      unique := sourceEnd.isSingle } :=
  if_pos hsingle

theorem KeyPlace.between?_of_source (hmany : targetEnd.isSingle = false)
    (hsingle : sourceEnd.isSingle = true) :
    between? source target sourceEnd targetEnd = some {
      owner := target
      referenced := source
      nullable := sourceEnd == .zeroOrOne
      unique := false } := by
  rw [between?, hmany, if_neg Bool.false_ne_true, if_pos hsingle]

theorem KeyPlace.between?_of_many (hsource : sourceEnd.isSingle = false)
    (htarget : targetEnd.isSingle = false) :
    between? source target sourceEnd targetEnd = none := by
  rw [between?, htarget, hsource, if_neg Bool.false_ne_true, if_neg Bool.false_ne_true]

end Between

/-- The column is a foreign key as the place asks for it. -/
structure KeyPlace.IsTakenBy (place : KeyPlace) (schema : Schema) (column : Column) : Prop where
  reference : ∃ target key, schema.table? place.referenced = some target ∧
    target.primaryKey? = some key ∧ column.HasTypeOf key ∧
    column.references = some { table := place.referenced, column := key.name }
  nullable : column.nullable = place.nullable
  unique : column.unique = place.unique
  plain : column.primaryKey = false
  given : column.generated = false

namespace Schema

variable {before between after schema : Schema} {places further : List KeyPlace}

/-- Every table has got foreign keys for its places in their order. -/
structure GrowsBy (before : Schema) (places : List KeyPlace) (after : Schema) : Prop where
  grows : before.GrowsTo after
  keys : ∀ name table, before.table? name = some table → ∃ added,
    after.table? name = some { table with columns := table.columns ++ added } ∧
      List.Forall₂ (fun place column => place.IsTakenBy after column)
        (places.filter fun place => place.owner == name) added

theorem GrowsTo.isTakenBy (hgrows : before.GrowsTo after) {place : KeyPlace} {column : Column}
    (htaken : place.IsTakenBy before column) : place.IsTakenBy after column := by
  refine { htaken with reference := ?_ }
  obtain ⟨target, key, hfind, hkey, htypes, hreference⟩ := htaken.reference
  obtain ⟨added, hafter, -⟩ := hgrows.kept _ target hfind
  exact ⟨_, key, hafter, Table.primaryKey?_append hkey added, htypes, hreference⟩

theorem GrowsBy.refl (schema : Schema) : schema.GrowsBy [] schema where
  grows := .refl schema
  keys := fun _ _ hfind => ⟨[], by simp [hfind], .nil⟩

theorem GrowsBy.trans (hfirst : before.GrowsBy places between)
    (hsecond : between.GrowsBy further after) : before.GrowsBy (places ++ further) after := by
  refine ⟨hfirst.grows.trans hsecond.grows, fun name table hfind => ?_⟩
  obtain ⟨added, hbetween, hadded⟩ := hfirst.keys name table hfind
  obtain ⟨last, hafter, hlast⟩ := hsecond.keys name _ hbetween
  refine ⟨added ++ last, by simpa using hafter, ?_⟩
  rw [List.filter_append]
  exact List.rel_append (hadded.imp fun _ _ => hsecond.grows.isTakenBy) hlast

/-! ## What a relationship adds -/

theorem isTakenBy_foreignKeyTo (owner : Table) {referenced : Table} {key : Column}
    (hreferenced : schema.table? referenced.name = some referenced)
    (hkey : referenced.primaryKey? = some key) (nullable unique : Bool) :
    KeyPlace.IsTakenBy { owner := owner.name, referenced := referenced.name, nullable, unique }
      schema (owner.foreignKeyTo referenced key nullable unique) :=
  ⟨⟨referenced, key, hreferenced, hkey, ⟨rfl, rfl⟩, rfl⟩, rfl, rfl, rfl, rfl⟩

theorem growsBy_add_foreignKey {owner referenced : Table} {key : Column}
    (hreferenced : schema.table? referenced.name = some referenced)
    (hkey : referenced.primaryKey? = some key) (id : String) (nullable unique : Bool) :
    let column := owner.foreignKeyTo referenced key nullable unique
    schema.GrowsBy [{ owner := owner.name, referenced := referenced.name, nullable, unique }]
      (schema.add (.foreignKey (foreignKeyLink id owner referenced column) column)) := by
  intro column
  generalize hlink : foreignKeyLink id owner referenced column = link
  have hlinkOwner : link.owner = owner.name := hlink ▸ rfl
  have htaken := isTakenBy_foreignKeyTo owner hreferenced hkey nullable unique
  have hgrows : schema.GrowsTo (schema.add (.foreignKey link column)) :=
    growsTo_add_foreignKey link rfl
  refine ⟨hgrows, fun name table hfind => ?_⟩
  by_cases hname : name = owner.name
  · refine ⟨[column], ?_, ?_⟩
    · rw [table?_add_foreignKey, if_pos (hname.trans hlinkOwner.symm), hfind, Option.map_some]
    · rw [List.filter_cons_of_pos (by simp [hname])]
      exact .cons (hgrows.isTakenBy htaken) .nil
  · refine ⟨[], ?_, ?_⟩
    · rw [table?_add_foreignKey, hlinkOwner, if_neg hname, hfind, List.append_nil]
    · rw [List.filter_cons_of_neg (by simpa using Ne.symm hname)]
      exact .nil

theorem growsBy_add_joinTable (link : Link) {table : Table} (hjoin : table.isJoin = true)
    (hparent : table.parent = none) (hnew : table.name ∉ schema.tables.names) :
    schema.GrowsBy [] (schema.add (.joinTable link table)) := by
  refine ⟨growsTo_add_joinTable link hjoin hparent hnew, fun name other hfind => ⟨[], ?_, .nil⟩⟩
  rw [table?_add_joinTable_of_mem link hnew (Catalog.mem_names_of_find? hfind), hfind,
    List.append_nil]

end Schema

/-- The table of an element stands under its own name. -/
def Schema.HoldsElement (schema : Schema) (table : Table) : Prop :=
  schema.table? table.name = some table ∧ table.isJoin = false

/-- The tables of the elements of one schema are in the other as well. -/
def Schema.ElementsIn (left right : Schema) : Prop :=
  ∀ name table, left.table? name = some table → table.isJoin = false →
    right.table? name = some table

theorem Schema.ElementsIn.refl (schema : Schema) : schema.ElementsIn schema :=
  fun _ _ hfind _ => hfind

/-! ## The run -/

namespace PlacedRelationship

/-- The foreign key that a relationship with this place stands for. -/
def keyPlace? (placed : PlacedRelationship) : Option KeyPlace :=
  match placed.placement, placed.relationship.cardinalities with
  | .structural source target, .ok (sourceEnd, targetEnd) =>
    KeyPlace.between? source target sourceEnd targetEnd
  | _, _ => none

theorem keyPlace?_eq_between? {placed : PlacedRelationship} {source target : String}
    {ends : Cardinality × Cardinality} (hplacement : placed.placement = .structural source target)
    (hends : placed.relationship.cardinalities = .ok ends) :
    placed.keyPlace? = KeyPlace.between? source target ends.1 ends.2 := by
  simp only [keyPlace?, hplacement, hends]

/-- The fault of a structural relationship with an unreadable cardinality. -/
def faults (placed : PlacedRelationship) : List ModelFault :=
  match placed.placement, placed.relationship.cardinalities with
  | .structural _ _, .error fault => [fault]
  | _, _ => []

/-- The place is between tables of elements. -/
def LiesIn (placed : PlacedRelationship) (schema : Schema) : Prop :=
  ∀ source target, placed.placement = .structural source target →
    schema.HasElementTable source ∧ schema.HasElementTable target

theorem LiesIn.grow {placed : PlacedRelationship} {before after : Schema}
    (hlies : placed.LiesIn before) (hgrows : before.GrowsTo after) : placed.LiesIn after :=
  fun source target hplacement =>
    ⟨hgrows.hasElementTable (hlies source target hplacement).1,
      hgrows.hasElementTable (hlies source target hplacement).2⟩

end PlacedRelationship

namespace Draft

variable {draft before between after : Draft}

/-- A draft comes from another by adding foreign keys and faults, and its schema is sound. -/
structure Adds (before : Draft) (places : List KeyPlace) (faults : List ModelFault)
    (after : Draft) : Prop where
  sound : after.schema.Sound
  grows : before.schema.GrowsBy places after.schema
  faults : after.faults = before.faults ++ faults

theorem Adds.refl (hsound : draft.schema.Sound) : draft.Adds [] [] draft :=
  ⟨hsound, .refl _, (List.append_nil _).symm⟩

theorem Adds.trans {places further : List KeyPlace} {faults others : List ModelFault}
    (hfirst : before.Adds places faults between) (hsecond : between.Adds further others after) :
    before.Adds (places ++ further) (faults ++ others) after :=
  ⟨hsecond.sound, hfirst.grows.trans hsecond.grows, by
    rw [hsecond.faults, hfirst.faults, List.append_assoc]⟩

theorem addPlaced_eq_self {placed : PlacedRelationship}
    (hother : ∀ source target, placed.placement ≠ .structural source target) :
    draft.addPlaced placed = draft := by
  rw [addPlaced]
  split
  · rename_i hplacement
    exact absurd hplacement (hother _ _)
  · rfl

/-- On every draft that has the tables of the elements the step does this to the schema, and finds
the faults that it has on its own. -/
def ActsBy (draft : Draft) (placed : PlacedRelationship) (act : Schema → Schema) : Prop :=
  ∀ other : Draft, draft.schema.ElementsIn other.schema →
    (other.addPlaced placed).schema = act other.schema ∧
      (other.addPlaced placed).faults = other.faults ++ placed.faults

/-- All that a step can add. It is the same for every draft that has the tables of the elements;
only the name of a join table depends on the other names. -/
inductive StepAdds (draft : Draft) (placed : PlacedRelationship) : Prop
  | nothing (hplace : placed.keyPlace? = none) (hacts : draft.ActsBy placed fun schema => schema)
  | foreignKey {owner referenced : Table} {key : Column} {nullable unique : Bool}
      (howner : draft.schema.HoldsElement owner)
      (hreferenced : draft.schema.HoldsElement referenced)
      (hkey : referenced.primaryKey? = some key)
      (hplace : placed.keyPlace? =
        some { owner := owner.name, referenced := referenced.name, nullable, unique })
      (hacts : draft.ActsBy placed fun schema =>
        let column := owner.foreignKeyTo referenced key nullable unique
        schema.add (.foreignKey
          (foreignKeyLink placed.relationship.id owner referenced column) column))
  | joinTable {source target first second : Table} {firstKey secondKey : Column}
      (hsource : draft.schema.HoldsElement source) (htarget : draft.schema.HoldsElement target)
      (hfirstKey : first.primaryKey? = some firstKey)
      (hsecondKey : second.primaryKey? = some secondKey)
      (hsides : first = source ∧ second = target ∨ first = target ∧ second = source)
      (hplace : placed.keyPlace? = none)
      (hacts : draft.ActsBy placed fun schema =>
        let name := freshName (joinTableName source.name target.name) schema.tables.names
        schema.add (.joinTable (joinTableLink placed.relationship.id source target name)
          (joinTableOf name first second firstKey secondKey)))

section Structural

variable {placed : PlacedRelationship} {source target : Table}
  (hplacement : placed.placement = .structural source.name target.name)
  (hsource : draft.schema.HoldsElement source) (htarget : draft.schema.HoldsElement target)

include hplacement hsource htarget

theorem addPlaced_eq_addRelationship {other : Draft}
    (hin : draft.schema.ElementsIn other.schema) :
    other.addPlaced placed = other.addRelationship placed.relationship source target := by
  simp only [addPlaced, hplacement, hin _ source hsource.1 hsource.2,
    hin _ target htarget.1 htarget.2]

theorem actsBy_of_addition {ends : Cardinality × Cardinality}
    (hends : placed.relationship.cardinalities = .ok ends) {addition : List String → Addition}
    (haddition : ∀ taken, placed.relationship.addition source target taken =
      .ok (addition taken)) :
    draft.ActsBy placed fun schema => schema.add (addition schema.tables.names) := by
  intro other hin
  have hfaults : placed.faults = [] := by
    simp only [PlacedRelationship.faults, hplacement, hends]
  rw [addPlaced_eq_addRelationship hplacement hsource htarget hin, addRelationship, haddition,
    hfaults, List.append_nil]
  exact ⟨rfl, rfl⟩

theorem actsBy_of_fault {fault : ModelFault}
    (hends : placed.relationship.cardinalities = .error fault) :
    draft.ActsBy placed fun schema => schema := by
  intro other hin
  have haddition : placed.relationship.addition source target other.schema.tables.names =
      .error fault := by
    simp only [Relationship.addition, hends]
    rfl
  have hfaults : placed.faults = [fault] := by
    simp only [PlacedRelationship.faults, hplacement, hends]
  rw [addPlaced_eq_addRelationship hplacement hsource htarget hin, addRelationship, haddition,
    hfaults]
  exact ⟨rfl, rfl⟩

end Structural

theorem addPlaced_cases (hsound : draft.schema.Sound) {placed : PlacedRelationship}
    (hlies : placed.LiesIn draft.schema) : draft.StepAdds placed := by
  cases hplacement : placed.placement with
  | structural sourceName targetName =>
    obtain ⟨⟨source, hsourceFind, hsourceElement⟩, ⟨target, htargetFind, htargetElement⟩⟩ :=
      hlies _ _ hplacement
    obtain rfl := hsound.table_name hsourceFind
    obtain rfl := hsound.table_name htargetFind
    obtain ⟨sourceKey, hsourceKey⟩ := hsound.exists_primaryKey hsourceFind
    obtain ⟨targetKey, htargetKey⟩ := hsound.exists_primaryKey htargetFind
    have hsource : draft.schema.HoldsElement source := ⟨hsourceFind, hsourceElement⟩
    have htarget : draft.schema.HoldsElement target := ⟨htargetFind, htargetElement⟩
    cases hends : placed.relationship.cardinalities with
    | error fault =>
      refine .nothing ?_ (actsBy_of_fault hplacement hsource htarget hends)
      simp only [PlacedRelationship.keyPlace?, hplacement, hends]
    | ok ends =>
      have hplace := PlacedRelationship.keyPlace?_eq_between? hplacement hends
      rcases Relationship.addition_cases hsourceKey htargetKey hends with
        ⟨hsingle, haddition⟩ | ⟨hmany, hsingle, haddition⟩ | ⟨hmany, hmany', haddition⟩
      · exact .foreignKey hsource htarget htargetKey
          (hplace.trans (KeyPlace.between?_of_target hsingle))
          (actsBy_of_addition hplacement hsource htarget hends haddition)
      · exact .foreignKey htarget hsource hsourceKey
          (hplace.trans (KeyPlace.between?_of_source hmany hsingle))
          (actsBy_of_addition hplacement hsource htarget hends haddition)
      · obtain ⟨first, second, firstKey, secondKey, hsides, hjoin⟩ :=
          joinTableAddition_cases hsourceKey htargetKey placed.relationship.id
        have hacts := actsBy_of_addition hplacement hsource htarget hends
          fun taken => (haddition taken).trans (hjoin taken)
        have hnone := hplace.trans (KeyPlace.between?_of_many hmany' hmany)
        rcases hsides with ⟨hfirst, hsecond⟩ | ⟨hfirst, hsecond⟩ <;> cases hfirst <;> cases hsecond
        · exact .joinTable hsource htarget hsourceKey htargetKey (.inl ⟨rfl, rfl⟩) hnone hacts
        · exact .joinTable hsource htarget htargetKey hsourceKey (.inr ⟨rfl, rfl⟩) hnone hacts
  | _ =>
    refine .nothing ?_ fun other _ => ?_
    · simp only [PlacedRelationship.keyPlace?, hplacement]
    · have hfaults : placed.faults = [] := by simp only [PlacedRelationship.faults, hplacement]
      rw [addPlaced_eq_self (by simp [hplacement]), hfaults, List.append_nil]
      exact ⟨rfl, rfl⟩

/-- One step of the run. -/
theorem adds_addPlaced (hsound : draft.schema.Sound) {placed : PlacedRelationship}
    (hlies : placed.LiesIn draft.schema) :
    draft.Adds placed.keyPlace?.toList placed.faults (draft.addPlaced placed) := by
  cases addPlaced_cases hsound hlies with
  | nothing hplace hacts =>
    obtain ⟨hschema, hfaults⟩ := hacts draft (.refl _)
    rw [hplace]
    exact ⟨hschema.symm ▸ hsound, hschema.symm ▸ .refl _, hfaults⟩
  | foreignKey howner hreferenced hkey hplace hacts =>
    obtain ⟨hschema, hfaults⟩ := hacts draft (.refl _)
    rw [hplace]
    refine ⟨?_, ?_, hfaults⟩
    · rw [hschema]
      exact hsound.add_foreignKey howner.1 hreferenced.1 hreferenced.2 hkey _ _ _
    · rw [hschema]
      exact Schema.growsBy_add_foreignKey hreferenced.1 hkey _ _ _
  | @joinTable source target first second firstKey secondKey hsource htarget hfirstKey hsecondKey
      hsides hplace hacts =>
    obtain ⟨hschema, hfaults⟩ := hacts draft (.refl _)
    obtain ⟨hfirst, hsecond⟩ : draft.schema.HoldsElement first ∧
        draft.schema.HoldsElement second := by
      rcases hsides with ⟨rfl, rfl⟩ | ⟨rfl, rfl⟩
      · exact ⟨hsource, htarget⟩
      · exact ⟨htarget, hsource⟩
    have hnew := freshName_not_mem (joinTableName source.name target.name)
      draft.schema.tables.names
    rw [hplace]
    refine ⟨?_, ?_, hfaults⟩
    · rw [hschema]
      exact hsound.add_joinTable hfirst.1 hsecond.1 hfirst.2 hsecond.2 hfirstKey hsecondKey hnew _
        (Catalog.mem_names_of_find? hsource.1) (Catalog.mem_names_of_find? htarget.1)
    · rw [hschema]
      exact Schema.growsBy_add_joinTable _ rfl rfl hnew

/-- The whole run. -/
theorem adds_foldl_addPlaced (placed : List PlacedRelationship) :
    ∀ draft : Draft, draft.schema.Sound → (∀ step ∈ placed, step.LiesIn draft.schema) →
      draft.Adds (placed.filterMap PlacedRelationship.keyPlace?)
        (placed.flatMap PlacedRelationship.faults) (placed.foldl Draft.addPlaced draft) := by
  induction placed with
  | nil => exact fun draft hsound _ => .refl hsound
  | cons first rest ih =>
    intro draft hsound hlies
    rw [List.forall_mem_cons] at hlies
    have hfirst := adds_addPlaced hsound hlies.1
    have hrest := ih (draft.addPlaced first) hfirst.sound
      fun step hstep => (hlies.2 step hstep).grow hfirst.grows.grows
    have hplaces : (first :: rest).filterMap PlacedRelationship.keyPlace? =
        first.keyPlace?.toList ++ rest.filterMap PlacedRelationship.keyPlace? := by
      cases hkey : first.keyPlace? <;> simp [hkey]
    rw [hplaces]
    exact hfirst.trans hrest

/-- What each step keeps, the run keeps. -/
theorem foldl_addPlaced_keeps {kept : Schema → Prop}
    (hstep : ∀ (draft : Draft) (placed : PlacedRelationship), draft.schema.Sound →
      placed.LiesIn draft.schema → kept draft.schema → kept (draft.addPlaced placed).schema)
    (placed : List PlacedRelationship) :
    ∀ draft : Draft, draft.schema.Sound → (∀ step ∈ placed, step.LiesIn draft.schema) →
      kept draft.schema → kept (placed.foldl addPlaced draft).schema := by
  induction placed with
  | nil => exact fun _ _ _ hkept => hkept
  | cons first rest ih =>
    intro draft hsound hlies hkept
    rw [List.forall_mem_cons] at hlies
    have hfirst := adds_addPlaced hsound hlies.1
    exact ih _ hfirst.sound (fun step hmem => (hlies.2 step hmem).grow hfirst.grows.grows)
      (hstep draft first hsound hlies.1 hkept)

end Draft

end ClassDiagram
