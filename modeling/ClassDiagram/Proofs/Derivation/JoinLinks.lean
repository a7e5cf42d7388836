import ClassDiagram.Java.Entity
import ClassDiagram.Proofs.Derivation.Soundness

/-!
# Links through join tables

In a derived schema a join table has two key columns of different names, of which one refers to the
owner of the link and the other to the table that the link leads to.
-/

namespace ClassDiagram

namespace Schema

variable {before after schema : Schema}

/-- The keys of the join table of a link lead to the two tables of the link. -/
structure JoinsSides (schema : Schema) (link : Link) (table : Table) (first second : Column) :
    Prop where
  name : link.joinTable = some table.name
  find : schema.table? table.name = some table
  join : table.isJoin = true
  keys : table.keyColumns = [first, second]
  different : first.name ≠ second.name
  sides : refersTo link.owner first = true ∧ refersTo link.referenced second = true ∨
    refersTo link.referenced first = true ∧ refersTo link.owner second = true

/-- Every link through a join table joins its two sides. -/
def JoinsAllSides (schema : Schema) : Prop :=
  ∀ link ∈ schema.links, link.kind = .joinTable →
    ∃ table first second, schema.JoinsSides link table first second

theorem JoinsSides.grow {link : Link} {table : Table} {first second : Column}
    (hsides : before.JoinsSides link table first second) (hgrows : before.GrowsTo after) :
    ∃ grown, after.JoinsSides link grown first second := by
  obtain ⟨added, hfind, hplain⟩ := hgrows.kept _ table hsides.find
  have hnone : added.filter Column.primaryKey = [] := by
    simpa [List.filter_eq_nil_iff] using hplain
  refine ⟨{ table with columns := table.columns ++ added }, hsides.name, hfind, hsides.join, ?_,
    hsides.different, hsides.sides⟩
  rw [Table.keyColumns, List.filter_append, hnone, List.append_nil]
  exact hsides.keys

theorem joinsSides_add_joinTable (id : String) {source target first second : Table}
    (firstKey secondKey : Column)
    (hsides : first = source ∧ second = target ∨ first = target ∧ second = source)
    (name : String) :
    let link := joinTableLink id source target name
    let table := joinTableOf name first second firstKey secondKey
    ∃ firstColumn secondColumn,
      (schema.add (.joinTable link table)).JoinsSides link table firstColumn secondColumn := by
  intro link table
  let firstColumn := first.joinKeyTo firstKey []
  have hdifferent : (second.joinKeyTo secondKey [firstColumn.name]).name ∉ [firstColumn.name] :=
    freshName_not_mem _ _
  refine ⟨firstColumn, second.joinKeyTo secondKey [firstColumn.name], rfl, ?_, rfl, ?_, ?_, ?_⟩
  · rw [table?_add_joinTable, if_pos rfl]
  · simp [table, Table.keyColumns, joinTableOf, Table.joinKeyTo, firstColumn]
  · exact fun heq => hdifferent (List.mem_singleton.2 heq.symm)
  · rcases hsides with ⟨rfl, rfl⟩ | ⟨rfl, rfl⟩
    · left
      simp [link, firstColumn, refersTo, joinTableLink, Table.joinKeyTo, referenceColumn]
    · right
      simp [link, firstColumn, refersTo, joinTableLink, Table.joinKeyTo, referenceColumn]

end Schema

namespace Draft

variable {draft : Draft}

theorem joinsAllSides_addPlaced (hsound : draft.schema.Sound) {placed : PlacedRelationship}
    (hlies : placed.LiesIn draft.schema) (hall : draft.schema.JoinsAllSides) :
    (draft.addPlaced placed).schema.JoinsAllSides := by
  have hgrows := (adds_addPlaced hsound hlies).grows.grows
  have hold : ∀ link ∈ draft.schema.links, link.kind = .joinTable → ∃ table first second,
      (draft.addPlaced placed).schema.JoinsSides link table first second := by
    intro link hlink hkind
    obtain ⟨table, first, second, hsides⟩ := hall link hlink hkind
    obtain ⟨grown, hgrown⟩ := hsides.grow hgrows
    exact ⟨grown, first, second, hgrown⟩
  cases addPlaced_cases hsound hlies with
  | nothing _ hacts =>
    rw [(hacts draft (.refl _)).1]
    exact hall
  | foreignKey _ _ _ _ hacts =>
    rw [(hacts draft (.refl _)).1] at hold ⊢
    intro link hlink hkind
    rcases List.mem_append.1 hlink with hbefore | hlast
    · exact hold link hbefore hkind
    · rw [List.mem_singleton.1 hlast] at hkind
      cases hkind
  | @joinTable source target first second firstKey secondKey _ _ _ _ hsides _ hacts =>
    rw [(hacts draft (.refl _)).1] at hold ⊢
    intro link hlink hkind
    rcases List.mem_append.1 hlink with hbefore | hlast
    · exact hold link hbefore hkind
    · rw [List.mem_singleton.1 hlast]
      exact ⟨_, Schema.joinsSides_add_joinTable _ firstKey secondKey hsides _⟩

end Draft

theorem Diagram.joinsAllSides_of_schema {diagram : Diagram} {schema : Schema}
    (haccepted : diagram.schema = .ok schema) : schema.JoinsAllSides := by
  refine keeps_of_schema haccepted ?_ fun _ _ hsound => Draft.joinsAllSides_addPlaced hsound
  intro link hlink
  rw [(joinedWellFormed_of_schema haccepted).links_eq_nil] at hlink
  cases hlink

end ClassDiagram
