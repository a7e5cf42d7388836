import ClassDiagram.Proofs.Derivation.Soundness

/-!
# Properties of the tables of a derived schema

A property that the tables of the elements have, fitted to their ancestors, and that neither a
further foreign key nor a new join table breaks, is a property of all tables of a derived schema.
-/

namespace ClassDiagram

/-- The property stays if relationships are added. -/
structure KeptByAdditions (property : Table → Prop) : Prop where
  foreignKey : ∀ {owner referenced : Table} {key : Column}, owner.isJoin = false →
    property owner → property referenced → referenced.primaryKey? = some key →
      ∀ nullable unique, property
        { owner with
          columns := owner.columns ++ [owner.foreignKeyTo referenced key nullable unique] }
  joinTable : ∀ {first second : Table} {firstKey secondKey : Column},
    property first → property second → first.primaryKey? = some firstKey →
      second.primaryKey? = some secondKey →
        ∀ taken, property (joinTableOf (freshName (joinTableName first.name second.name) taken)
          first second firstKey secondKey)

def Schema.AllTables (property : Table → Prop) (schema : Schema) : Prop :=
  ∀ name table, schema.table? name = some table → property table

theorem Draft.allTables_addPlaced {draft : Draft} {property : Table → Prop}
    (hkept : KeptByAdditions property) (hsound : draft.schema.Sound)
    {placed : PlacedRelationship} (hlies : placed.LiesIn draft.schema)
    (htables : draft.schema.AllTables property) :
    (draft.addPlaced placed).schema.AllTables property := by
  cases addPlaced_cases hsound hlies with
  | nothing _ hacts =>
    rw [(hacts draft (.refl _)).1]
    exact htables
  | @foreignKey owner referenced key nullable unique howner hreferenced hkey _ hacts =>
    have hgrown := hkept.foreignKey howner.2 (htables _ _ howner.1) (htables _ _ hreferenced.1)
      hkey nullable unique
    rw [(hacts draft (.refl _)).1]
    intro name table hfind
    rw [Schema.table?_add_foreignKey] at hfind
    split at hfind
    · have hname : name = owner.name := by assumption
      obtain ⟨old, hold, rfl⟩ := Option.map_eq_some_iff.1 hfind
      obtain rfl : owner = old := Option.some.inj (howner.1.symm.trans (hname ▸ hold))
      exact hgrown
    · exact htables name table hfind
  | @joinTable source target first second firstKey secondKey hsource htarget hfirstKey hsecondKey
      hsides _ hacts =>
    have hjoin : ∀ taken, property (joinTableOf
        (freshName (joinTableName source.name target.name) taken) first second firstKey
        secondKey) := by
      rcases hsides with ⟨rfl, rfl⟩ | ⟨rfl, rfl⟩
      · exact hkept.joinTable (htables _ _ hsource.1) (htables _ _ htarget.1) hfirstKey hsecondKey
      · rw [joinTableName_comm]
        exact hkept.joinTable (htables _ _ htarget.1) (htables _ _ hsource.1) hfirstKey hsecondKey
    rw [(hacts draft (.refl _)).1]
    intro name table hfind
    rw [Schema.table?_add_joinTable] at hfind
    split at hfind
    · cases hfind
      exact hjoin _
    · exact htables name table hfind

namespace Diagram

variable {diagram : Diagram} {schema : Schema} {property : Table → Prop}

/-- What holds of the tables of the elements and stays if relationships are added holds of all
tables of a derived schema. -/
theorem allTables_of_schema (haccepted : diagram.schema = .ok schema)
    (hkept : KeptByAdditions property)
    (hjoined : diagram.joinedDraft.schema.AllTables property) : schema.AllTables property :=
  keeps_of_schema haccepted hjoined fun _ _ hsound =>
    Draft.allTables_addPlaced hkept hsound

/-- The tables of the elements need not be fitted yet if the property stays when they are. -/
theorem allTables_of_elements (haccepted : diagram.schema = .ok schema)
    (hkept : KeptByAdditions property)
    (helements : ∀ element ∈ diagram.storedElements, property (diagram.linkedTable element))
    (hfitTo : ∀ {child : Table}, property child → child.isJoin = false →
      ∀ above parent parentKey rootKey, property (child.fitTo above parent parentKey rootKey)) :
    schema.AllTables property := by
  have hwell := joinedWellFormed_of_schema haccepted
  apply allTables_of_schema haccepted hkept
  intro name fitted hfitted
  rw [hwell.schema_eq, Schema.table?_fitted, Option.map_eq_some_iff] at hfitted
  obtain ⟨table, hfind, rfl⟩ := hfitted
  have htable : property table := by
    obtain ⟨element, helement, -, rfl⟩ := table?_linkedSchema_eq_some hwell.elements hfind
    exact helements element helement
  rcases hwell.flat.fit_cases hfind with ⟨-, heq⟩ |
    ⟨_, parent, parentKey, rootKey, -, -, -, -, -, heq⟩
  · rwa [heq]
  · rw [heq]
    exact hfitTo htable (hwell.flat.element name table hfind) _ parent parentKey rootKey

end Diagram

end ClassDiagram
