import Mathlib.Data.List.Forall2
import ClassDiagram.Proofs.Derivation.Enumerations

/-!
# The direction of relationships

An association can be drawn from either end. Unless it is one-to-one, where the source owns the
foreign key, the cardinalities alone say which table owns it, and a join table lists its sides by
their names. The tables are therefore the same in whatever direction the relationships are drawn,
and so are the links, but for the two sides of a join table.
-/

namespace ClassDiagram

/-! ## Relationships drawn from the other end -/

namespace Relationship

def reversed (relationship : Relationship) : Relationship :=
  { relationship with
    sourceId := relationship.targetId
    targetId := relationship.sourceId
    sourceCardinality := relationship.targetCardinality
    targetCardinality := relationship.sourceCardinality }

def isOneToOne (relationship : Relationship) : Bool :=
  match relationship.cardinalities with
  | .ok (sourceEnd, targetEnd) => sourceEnd.isSingle && targetEnd.isSingle
  | .error _ => false

/-- A relationship as it is, or drawn from the other end if it links tables and is not
one-to-one. -/
inductive Redrawn (relationship : Relationship) : Relationship → Prop
  | same : Redrawn relationship relationship
  | reversed (hfamily : relationship.kind.family = .structural)
      (hends : relationship.isOneToOne = false) : Redrawn relationship relationship.reversed

end Relationship

/-- The link of a join table from the other side. A foreign key has only one owner. -/
def Link.exchanged (link : Link) : Link :=
  match link.kind with
  | .foreignKey => link
  | .joinTable => { link with owner := link.referenced, referenced := link.owner }

/-- The same link, or that of the same join table from the other side. -/
inductive Link.Redrawn (link : Link) : Link → Prop
  | same : Redrawn link link
  | exchanged : Redrawn link link.exchanged

/-- The same addition from the other side, which only the link of a join table shows. -/
def Addition.exchanged : Addition → Addition
  | .foreignKey link column => .foreignKey link column
  | .joinTable link table => .joinTable link.exchanged table

theorem Relationship.cardinalities_reversed {relationship : Relationship}
    {sourceEnd targetEnd : Cardinality}
    (hends : relationship.cardinalities = .ok (sourceEnd, targetEnd)) :
    relationship.reversed.cardinalities = .ok (targetEnd, sourceEnd) := by
  rw [cardinalities] at hends ⊢
  split at hends
  · rename_i hsource htarget
    cases hends
    simp only [reversed, hsource, htarget]
  · cases hends

theorem map_exchanged_foreignKeyAddition (id : String) (owner referenced : Table)
    (cardinality : Cardinality) (unique : Bool) :
    (foreignKeyAddition id owner referenced cardinality unique).map Addition.exchanged =
      foreignKeyAddition id owner referenced cardinality unique := by
  rw [foreignKeyAddition]
  cases foreignKeyColumn owner referenced (cardinality == .zeroOrOne) unique <;> rfl

section Reversed

variable {source target : Table} (hsame : source.name = target.name → source = target)

include hsame

/-- Which side comes first is told by the names. -/
theorem joinTableBetween_comm (name : String) :
    joinTableBetween name source target = joinTableBetween name target source := by
  rw [joinTableBetween, joinTableBetween]
  by_cases hle : source.name ≤ target.name
  · by_cases hge : target.name ≤ source.name
    · rw [hsame (String.le_antisymm hle hge)]
    · rw [if_pos hle, if_neg hge]
  · rw [if_neg hle, if_pos ((String.le_total source.name target.name).resolve_left hle)]

theorem joinTableAddition_comm (id : String) (taken : List String) :
    joinTableAddition id target source taken =
      (joinTableAddition id source target taken).map Addition.exchanged := by
  rw [joinTableAddition, joinTableAddition, joinTableName_comm, joinTableBetween_comm hsame]
  cases joinTableBetween (freshName (joinTableName source.name target.name) taken) target source <;>
    rfl

theorem Relationship.addition_reversed {relationship : Relationship}
    {ends : Cardinality × Cardinality} (hends : relationship.cardinalities = .ok ends)
    (hmany : relationship.isOneToOne = false) (taken : List String) :
    relationship.reversed.addition target source taken =
      (relationship.addition source target taken).map Addition.exchanged := by
  obtain ⟨sourceEnd, targetEnd⟩ := ends
  rw [isOneToOne, hends] at hmany
  simp only [addition, hends, cardinalities_reversed hends, bind, Except.bind]
  cases hsource : sourceEnd.isSingle <;> cases htarget : targetEnd.isSingle
  · exact joinTableAddition_comm hsame relationship.id taken
  · exact (map_exchanged_foreignKeyAddition ..).symm
  · exact (map_exchanged_foreignKeyAddition ..).symm
  · simp [hsource, htarget] at hmany

end Reversed

namespace Schema

variable {left right : Schema}

/-- The same tables, and the same links but for the sides of join tables. -/
structure Redrawn (left right : Schema) : Prop where
  tables : right.tables = left.tables
  links : List.Forall₂ Link.Redrawn left.links right.links

theorem Redrawn.table?_eq (hredrawn : left.Redrawn right) (name : String) :
    right.table? name = left.table? name := by
  rw [table?, table?, hredrawn.tables]

theorem Redrawn.add (hredrawn : left.Redrawn right) (addition : Addition) :
    (left.add addition).Redrawn (right.add addition) := by
  cases addition <;>
    exact ⟨by rw [Schema.add, Schema.add, hredrawn.tables],
      List.rel_append hredrawn.links (.cons .same .nil)⟩

theorem Redrawn.add_exchanged (hredrawn : left.Redrawn right) (addition : Addition) :
    (left.add addition).Redrawn (right.add addition.exchanged) := by
  cases addition with
  | foreignKey link column => exact hredrawn.add (.foreignKey link column)
  | joinTable link table =>
    refine ⟨?_, List.rel_append hredrawn.links (.cons .exchanged .nil)⟩
    rw [Schema.add, Addition.exchanged, Schema.add, hredrawn.tables]

end Schema

/-! ## The run over both -/

namespace PlacedRelationship

/-- The two relationships link the same two tables or none, the second perhaps from the other
end. -/
inductive Redrawn : PlacedRelationship → PlacedRelationship → Prop
  | same (placed : PlacedRelationship) : Redrawn placed placed
  | nowhere {left right : PlacedRelationship}
      (hleft : ∀ source target, left.placement ≠ .structural source target)
      (hright : ∀ source target, right.placement ≠ .structural source target) : Redrawn left right
  | reversed {left right : PlacedRelationship} {source target : String}
      (hleft : left.placement = .structural source target)
      (hright : right.placement = .structural target source)
      (hrelationship : right.relationship = left.relationship.reversed)
      (hmany : left.relationship.isOneToOne = false) : Redrawn left right

theorem Redrawn.faults_eq_nil {placed other : PlacedRelationship}
    (hredrawn : placed.Redrawn other) (hfaults : placed.faults = []) : other.faults = [] := by
  cases hredrawn with
  | same => exact hfaults
  | nowhere _ hright =>
    rw [Diagram.faults_eq_nil_iff_of_placed]
    exact fun source target hplacement => absurd hplacement (hright source target)
  | reversed hleft _ hrelationship _ =>
    rw [Diagram.faults_eq_nil_iff_of_placed] at hfaults ⊢
    intro _ _ _
    rw [hrelationship]
    exact (hfaults _ _ hleft).symm

theorem forall_faults_eq_nil {placed others : List PlacedRelationship}
    (hredrawn : List.Forall₂ Redrawn placed others) (hfaults : ∀ step ∈ placed, step.faults = []) :
    ∀ step ∈ others, step.faults = [] := by
  induction hredrawn with
  | nil => simp
  | cons hfirst _ ih =>
    rw [List.forall_mem_cons] at hfaults ⊢
    exact ⟨hfirst.faults_eq_nil hfaults.1, ih hfaults.2⟩

end PlacedRelationship

namespace Draft

variable {left right : Draft}

theorem redrawn_addRelationship_same (hredrawn : left.schema.Redrawn right.schema)
    (relationship : Relationship) (source target : Table) :
    (left.addRelationship relationship source target).schema.Redrawn
      (right.addRelationship relationship source target).schema := by
  rw [addRelationship, addRelationship, hredrawn.tables]
  cases relationship.addition source target left.schema.tables.names with
  | ok addition => exact hredrawn.add addition
  | error fault => exact hredrawn

theorem redrawn_addRelationship_reversed (hredrawn : left.schema.Redrawn right.schema)
    {relationship : Relationship} {source target : Table}
    (hsame : source.name = target.name → source = target) {ends : Cardinality × Cardinality}
    (hends : relationship.cardinalities = .ok ends) (hmany : relationship.isOneToOne = false) :
    (left.addRelationship relationship source target).schema.Redrawn
      (right.addRelationship relationship.reversed target source).schema := by
  rw [addRelationship, addRelationship, hredrawn.tables,
    Relationship.addition_reversed hsame hends hmany]
  cases relationship.addition source target left.schema.tables.names with
  | ok addition => exact hredrawn.add_exchanged addition
  | error fault => exact hredrawn

theorem redrawn_addPlaced (hredrawn : left.schema.Redrawn right.schema)
    (hsound : left.schema.Sound) {placed other : PlacedRelationship}
    (hplaced : placed.Redrawn other) (hlies : placed.LiesIn left.schema)
    (hfaults : placed.faults = []) :
    (left.addPlaced placed).schema.Redrawn (right.addPlaced other).schema := by
  cases hplaced with
  | nowhere hleft hright => rwa [addPlaced_eq_self hleft, addPlaced_eq_self hright]
  | same =>
    cases hplacement : placed.placement with
    | structural source target =>
      obtain ⟨⟨source, hsource, -⟩, ⟨target, htarget, -⟩⟩ := hlies _ _ hplacement
      simp only [addPlaced, hplacement, hredrawn.table?_eq, hsource, htarget]
      exact redrawn_addRelationship_same hredrawn placed.relationship source target
    | _ => rwa [addPlaced_eq_self (by simp [hplacement]), addPlaced_eq_self (by simp [hplacement])]
  | reversed hleft hright hrelationship hmany =>
    obtain ⟨⟨source, hsource, -⟩, ⟨target, htarget, -⟩⟩ := hlies _ _ hleft
    simp only [addPlaced, hleft, hright, hrelationship, hredrawn.table?_eq, hsource, htarget]
    obtain rfl := hsound.table_name hsource
    obtain rfl := hsound.table_name htarget
    have hsame : source.name = target.name → source = target := fun heq =>
      Option.some.inj (hsource.symm.trans (heq ▸ htarget))
    cases hends : placed.relationship.cardinalities with
    | error fault => simp [PlacedRelationship.faults, hleft, hends] at hfaults
    | ok ends => exact redrawn_addRelationship_reversed hredrawn hsame hends hmany

theorem redrawn_foldl_addPlaced {placed others : List PlacedRelationship}
    (hplaced : List.Forall₂ PlacedRelationship.Redrawn placed others) :
    ∀ left right : Draft, left.schema.Redrawn right.schema → left.schema.Sound →
      (∀ step ∈ placed, step.LiesIn left.schema) → (∀ step ∈ placed, step.faults = []) →
      (placed.foldl addPlaced left).schema.Redrawn (others.foldl addPlaced right).schema := by
  induction hplaced with
  | nil => exact fun _ _ hredrawn _ _ _ => hredrawn
  | cons hfirst _ ih =>
    intro left right hredrawn hsound hlies hfaults
    rw [List.forall_mem_cons] at hlies hfaults
    have hadds := adds_addPlaced hsound hlies.1
    exact ih _ _ (redrawn_addPlaced hredrawn hsound hfirst hlies.1 hfaults.1) hadds.sound
      (fun step hstep => (hlies.2 step hstep).grow hadds.grows.grows) hfaults.2

end Draft

theorem Relationship.placement_of_structural {relationship : Relationship} {ids : List String}
    (tableOf : List (String × String)) (hends : relationship.danglingFaults ids = [])
    (hfamily : relationship.kind.family = .structural) :
    relationship.placement ids tableOf =
      match tableOf.lookup relationship.sourceId, tableOf.lookup relationship.targetId with
      | some source, some target => .structural source target
      | _, _ => .dropped (.skippedRelationship relationship.id relationship.kind) := by
  simp only [placement, hends, hfamily]
  cases tableOf.lookup relationship.sourceId <;> cases tableOf.lookup relationship.targetId <;> rfl

/-- A relationship that is drawn from the other end has the same place from the other end. -/
theorem Relationship.Redrawn.placement {relationship other : Relationship}
    (hredrawn : relationship.Redrawn other) {ids : List String}
    (tableOf : List (String × String)) (hends : relationship.danglingFaults ids = []) :
    (relationship.placement ids tableOf).faults = (other.placement ids tableOf).faults ∧
      (relationship.placement ids tableOf).edge? = (other.placement ids tableOf).edge? ∧
      PlacedRelationship.Redrawn { relationship, placement := relationship.placement ids tableOf }
        { relationship := other, placement := other.placement ids tableOf } := by
  cases hredrawn with
  | same => exact ⟨rfl, rfl, .same _⟩
  | reversed hfamily hmany =>
    have hends' : relationship.reversed.danglingFaults ids = [] := by
      rw [Diagram.danglingFaults_eq_nil_iff] at hends ⊢
      exact hends.symm
    rw [placement_of_structural tableOf hends hfamily,
      placement_of_structural tableOf hends' hfamily]
    simp only [Relationship.reversed]
    cases tableOf.lookup relationship.sourceId with
    | none => cases tableOf.lookup relationship.targetId <;> exact ⟨rfl, rfl, .nowhere nofun nofun⟩
    | some source =>
      cases tableOf.lookup relationship.targetId with
      | none => exact ⟨rfl, rfl, .nowhere nofun nofun⟩
      | some target => exact ⟨rfl, rfl, .reversed rfl rfl rfl hmany⟩

namespace Diagram

variable {diagram : Diagram} {schema : Schema} {redrawn : List Relationship}

/-- The same elements with other relationships. -/
def withRelationships (diagram : Diagram) (relationships : List Relationship) : Diagram :=
  { diagram with relationships }

theorem redrawn_placements (hends : ∀ relationship ∈ diagram.relationships,
      relationship.danglingFaults diagram.elementIds = [])
    (hredrawn : List.Forall₂ Relationship.Redrawn diagram.relationships redrawn) :
    List.Forall₂ (fun left right => left.placement.faults = right.placement.faults ∧
        left.placement.edge? = right.placement.edge? ∧ left.Redrawn right)
      diagram.placements (diagram.withRelationships redrawn).placements := by
  rw [placements, placements, placedRelationships, placedRelationships, List.forall₂_map_left_iff,
    List.forall₂_map_right_iff]
  refine ((List.forall₂_and_left _ _).2 ⟨hends, hredrawn⟩).imp fun relationship other hboth => ?_
  exact hboth.2.placement _ hboth.1

theorem map_eq_map_of_forall₂ {α β γ : Type} {left : List α} {right : List β} {f : α → γ}
    {g : β → γ} (hsame : List.Forall₂ (fun a b => f a = g b) left right) :
    left.map f = right.map g := by
  rwa [← List.forall₂_eq_eq_eq, List.forall₂_map_left_iff, List.forall₂_map_right_iff]

theorem edges_eq_filterMap (diagram : Diagram) :
    diagram.edges = (diagram.placements.map fun placed => placed.placement.edge?).filterMap id := by
  rw [edges, List.filterMap_map, List.filterMap_map]
  rfl

theorem flatMap_faults_eq_flatten (diagram : Diagram) :
    (diagram.placements.map PlacedRelationship.placement).flatMap Placement.faults =
      (diagram.placements.map fun placed => placed.placement.faults).flatten := by
  rw [List.flatMap_def, List.map_map]
  rfl

theorem joinedWellFormed_redrawn (hwell : diagram.JoinedWellFormed)
    (hredrawn : List.Forall₂ Relationship.Redrawn diagram.relationships redrawn) :
    (diagram.withRelationships redrawn).JoinedWellFormed ∧
      (diagram.withRelationships redrawn).joinedDraft.schema = diagram.joinedDraft.schema ∧
      List.Forall₂ PlacedRelationship.Redrawn diagram.placements
        (diagram.withRelationships redrawn).placements := by
  have hplacements := redrawn_placements
    (fun relationship hmem => danglingFaults_eq_nil_iff.2 (hwell.ends relationship hmem)) hredrawn
  have hfaults := map_eq_map_of_forall₂ (hplacements.imp fun _ _ hboth => hboth.1)
  have hedges : (diagram.withRelationships redrawn).edges = diagram.edges := by
    rw [edges_eq_filterMap, edges_eq_filterMap,
      map_eq_map_of_forall₂ (hplacements.imp fun _ _ hboth => hboth.2.1)]
  have hlinked : (diagram.withRelationships redrawn).linkedSchema = diagram.linkedSchema := by
    rw [linkedSchema, linkedSchema, hedges]
    rfl
  refine ⟨?_, ?_, hplacements.imp fun _ _ hboth => hboth.2.2⟩
  · rw [← joinedDraft_faults_eq_nil_iff, joinedDraft_faults, flatMap_faults_eq_flatten] at hwell ⊢
    rw [hedges, hlinked, ← hfaults]
    exact hwell
  · rw [joinedDraft_schema, joinedDraft_schema, hlinked]

/-- Associations can be drawn from either end, unless they are one-to-one: the diagram is accepted
as before, and the tables are the same, in the same order and under the same names. So are the
enumerations and the foreign keys among the links; the link of a join table may name its two sides
in the other order. -/
theorem schema_withRelationships (haccepted : diagram.schema = .ok schema)
    (hredrawn : List.Forall₂ Relationship.Redrawn diagram.relationships redrawn) :
    ∃ later, (diagram.withRelationships redrawn).schema = .ok later ∧
      later.tables = schema.tables ∧ later.enums = schema.enums ∧
      List.Forall₂ Link.Redrawn schema.links later.links := by
  obtain ⟨hfaults, rfl⟩ := schema_eq_ok_iff.1 haccepted
  obtain ⟨hwell, hplaced⟩ := wellFormed_iff.1 (draft_faults_eq_nil_iff.1 hfaults)
  obtain ⟨hwell', hjoined, hplacements⟩ := joinedWellFormed_redrawn hwell hredrawn
  rw [List.flatMap_eq_nil_iff] at hplaced
  have hplaced' := PlacedRelationship.forall_faults_eq_nil hplacements hplaced
  have haccepted' : (diagram.withRelationships redrawn).schema =
      .ok (diagram.withRelationships redrawn).draft.schema :=
    schema_eq_ok_iff.2 ⟨draft_faults_eq_nil_iff.2
      (wellFormed_iff.2 ⟨hwell', List.flatMap_eq_nil_iff.2 hplaced'⟩), rfl⟩
  have hstart : diagram.joinedDraft.schema.Redrawn
      (diagram.withRelationships redrawn).joinedDraft.schema := by
    refine ⟨congrArg Schema.tables hjoined, ?_⟩
    rw [hjoined]
    exact List.forall₂_same.2 fun _ _ => .same
  have hrun := Draft.redrawn_foldl_addPlaced hplacements _ _ hstart hwell.sound
    (placements_lieIn hwell) hplaced
  refine ⟨_, haccepted', hrun.tables, ?_, hrun.links⟩
  rw [enums_of_schema haccepted', enums_of_schema haccepted]
  rfl

/-- The relationships of the shop with both associations of the products drawn from the other
end. -/
def shopRedrawn : List Relationship :=
  shop.relationships.map fun relationship =>
    if relationship.kind = .inheritance then relationship else relationship.reversed

theorem schema_withRelationships_shop :
    List.Forall₂ Relationship.Redrawn shop.relationships shopRedrawn ∧
      ∃ later, (shop.withRelationships shopRedrawn).schema = .ok later ∧
        later.tables = shop.draft.schema.tables := by
  have hredrawn : List.Forall₂ Relationship.Redrawn shop.relationships shopRedrawn :=
    .cons (.reversed rfl (by decide +kernel)) (.cons .same
      (.cons (.reversed rfl (by decide +kernel)) .nil))
  obtain ⟨later, hlater, htables, -⟩ := schema_withRelationships shop_schema hredrawn
  exact ⟨hredrawn, later, hlater, htables⟩

end Diagram

end ClassDiagram
