import Mathlib.Logic.Function.Basic
import ClassDiagram.Proofs.Derivation.FurtherElements
import ClassDiagram.Proofs.Schema.Increment

/-!
# Appending classes

A diagram and the same diagram with further classes are derived side by side. Every relationship
adds the same to both, except that a join table may get another name: tables of elements are named
before join tables, so a new class can take the name that a join table had.
-/

namespace ClassDiagram

/-- The link with another name for its join table. -/
def Link.renamed (rename : String → String) (link : Link) : Link :=
  match link.kind with
  | .foreignKey => link
  | .joinTable => { link with joinTable := link.joinTable.map rename }

theorem Link.renamed_congr {left right : String → String} {link : Link}
    (hsame : ∀ name, link.joinTable = some name → left name = right name) :
    link.renamed left = link.renamed right := by
  rw [renamed, renamed]
  split
  · rfl
  · cases hjoin : link.joinTable with
    | none => rfl
    | some name => rw [Option.map_some, Option.map_some, hsame name hjoin]

theorem Link.renamed_eq_self {rename : String → String} {link : Link}
    (hsame : ∀ name, link.joinTable = some name → rename name = name) :
    link.renamed rename = link := by
  rw [renamed]
  split
  · rfl
  · cases hjoin : link.joinTable with
    | none => rw [Option.map_none, ← hjoin]
    | some name => rw [Option.map_some, hsame name hjoin, ← hjoin]

/-- A join table, stored under its new name. -/
def renamedEntry (rename : String → String) (entry : String × Table) : String × Table :=
  (rename entry.1, { entry.2 with name := rename entry.1 })

namespace Schema

/-- The right schema has the tables and links of the left one, with new names for join tables, and
further tables behind those of the elements. -/
structure Beside (rename : String → String) (further : List (String × Table))
    (left right : Schema) : Prop where
  tables : ∃ own joins, left.tables.entries = own ++ joins ∧
    right.tables.entries = own ++ (further ++ joins.map (renamedEntry rename)) ∧
    (∀ entry ∈ own, entry.2.isJoin = false) ∧ ∀ entry ∈ joins, entry.2.isJoin = true
  links : right.links = left.links.map (Link.renamed rename)
  named : ∀ link ∈ left.links, ∀ name, link.joinTable = some name → name ∈ left.tables.names

/-- The new names of join tables are the old ones. -/
def KeepsJoinNames (schema : Schema) (rename : String → String) : Prop :=
  ∀ name table, schema.table? name = some table → table.isJoin = true → rename name = name

theorem KeepsJoinNames.add_foreignKey {schema : Schema} {rename : String → String}
    (hkeeps : schema.KeepsJoinNames rename) (link : Link) (column : Column) :
    (schema.add (.foreignKey link column)).KeepsJoinNames rename := by
  intro name table hfind hjoin
  rw [table?_add_foreignKey] at hfind
  split at hfind
  · obtain ⟨old, hold, rfl⟩ := Option.map_eq_some_iff.1 hfind
    exact hkeeps name old hold hjoin
  · exact hkeeps name table hfind hjoin

theorem KeepsJoinNames.add_joinTable {schema : Schema} {rename : String → String}
    (hkeeps : schema.KeepsJoinNames rename) (link : Link) (table : Table) :
    (schema.add (.joinTable link table)).KeepsJoinNames
      (Function.update rename table.name table.name) := by
  intro name other hfind hjoin
  rw [table?_add_joinTable] at hfind
  by_cases hname : name = table.name
  · rw [hname, Function.update_self]
  · rw [if_neg hname] at hfind
    rw [Function.update_of_ne hname, hkeeps name other hfind hjoin]

theorem not_mem_names_of_nodup {own others : List (String × Table)}
    (hdistinct : ((own ++ others).map Prod.fst).Nodup) {entry : String × Table}
    (hmem : entry ∈ own) : entry.1 ∉ others.map Prod.fst := by
  rw [List.map_append] at hdistinct
  exact hdistinct.disjoint (List.mem_map_of_mem hmem)

namespace Beside

variable {rename : String → String} {further : List (String × Table)} {left right : Schema}

theorem elementsIn (hbeside : Beside rename further left right) : left.ElementsIn right := by
  intro name table hfind helement
  obtain ⟨own, joins, hleft, hright, -, hjoins⟩ := hbeside.tables
  have hmem := Catalog.find?_eq_some_iff.1 hfind
  rw [hleft, List.mem_append] at hmem
  have hown : (name, table) ∈ own := hmem.resolve_right fun hjoin =>
    Bool.false_ne_true (helement.symm.trans (hjoins _ hjoin))
  exact Catalog.find?_eq_some_iff.2 (hright ▸ List.mem_append_left _ hown)

theorem table?_rename (hbeside : Beside rename further left right) {name : String} {table : Table}
    (hfind : left.table? name = some table) (hjoin : table.isJoin = true) :
    right.table? (rename name) = some { table with name := rename name } := by
  obtain ⟨own, joins, hleft, hright, hown, -⟩ := hbeside.tables
  have hmem := Catalog.find?_eq_some_iff.1 hfind
  rw [hleft, List.mem_append] at hmem
  have hjoins : (name, table) ∈ joins := hmem.resolve_left fun helement =>
    Bool.false_ne_true ((hown _ helement).symm.trans hjoin)
  refine Catalog.find?_eq_some_iff.2 (hright ▸ List.mem_append_right _ ?_)
  exact List.mem_append_right _ (List.mem_map_of_mem hjoins)

theorem mem_names_iff (hbeside : Beside rename further left right)
    (hkeeps : left.KeepsJoinNames rename) {name : String} :
    name ∈ right.tables.names ↔ name ∈ left.tables.names ∨ name ∈ further.map Prod.fst := by
  obtain ⟨own, joins, hleft, hright, -, hjoins⟩ := hbeside.tables
  have hnames : (joins.map (renamedEntry rename)).map Prod.fst = joins.map Prod.fst := by
    rw [List.map_map]
    refine List.map_congr_left fun entry hentry => hkeeps entry.1 entry.2 ?_ (hjoins entry hentry)
    exact Catalog.find?_eq_some_iff.2 (hleft ▸ List.mem_append_right own hentry)
  rw [Catalog.names, Catalog.names, hleft, hright]
  simp only [List.map_append, hnames, List.mem_append, or_comm, or_left_comm]

theorem add_foreignKey (hbeside : Beside rename further left right) {link : Link}
    (howner : ∃ table, left.table? link.owner = some table ∧ table.isJoin = false)
    (hkind : link.kind = .foreignKey) (hnone : link.joinTable = none) (column : Column) :
    Beside rename further (left.add (.foreignKey link column))
      (right.add (.foreignKey link column)) := by
  obtain ⟨table, hfind, helement⟩ := howner
  obtain ⟨own, joins, hleft, hright, hown, hjoins⟩ := hbeside.tables
  have hmem := Catalog.find?_eq_some_iff.1 hfind
  rw [hleft, List.mem_append] at hmem
  have howner : (link.owner, table) ∈ own := hmem.resolve_right fun hjoin =>
    Bool.false_ne_true (helement.symm.trans (hjoins _ hjoin))
  have hleftOther := not_mem_names_of_nodup (hleft ▸ left.tables.distinct) howner
  have hrightOther := not_mem_names_of_nodup (hright ▸ right.tables.distinct) howner
  let change : Table → Table := fun owner => { owner with columns := owner.columns ++ [column] }
  refine ⟨⟨Catalog.modifyEntries link.owner change own, joins, ?_, ?_, ?_, hjoins⟩, ?_, ?_⟩
  · rw [add, Catalog.entries_modify, hleft, Catalog.modifyEntries_append,
      Catalog.modifyEntries_eq_self hleftOther]
  · rw [add, Catalog.entries_modify, hright, Catalog.modifyEntries_append,
      Catalog.modifyEntries_eq_self hrightOther]
  · intro entry hentry
    obtain ⟨old, hold, rfl⟩ := List.mem_map.1 hentry
    split <;> exact hown old hold
  · rw [add, add, List.map_append, hbeside.links]
    simp [Link.renamed, hkind]
  · intro other hother name hname
    rw [add, Catalog.names_modify]
    rcases List.mem_append.1 hother with hold | hlast
    · exact hbeside.named other hold name hname
    · rw [List.mem_singleton.1 hlast, hnone] at hname
      cases hname

theorem add_joinTable (hbeside : Beside rename further left right) {link : Link} {table : Table}
    (hkind : link.kind = .joinTable) (hlink : link.joinTable = some table.name)
    (hjoin : table.isJoin = true) (hleftNew : table.name ∉ left.tables.names) {name : String}
    (hrightNew : name ∉ right.tables.names) :
    Beside (Function.update rename table.name name) further (left.add (.joinTable link table))
      (right.add (.joinTable { link with joinTable := some name } { table with name })) := by
  obtain ⟨own, joins, hleft, hright, hown, hjoins⟩ := hbeside.tables
  have hsame : ∀ old ∈ left.tables.names,
      Function.update rename table.name name old = rename old := fun old hold =>
    Function.update_of_ne (ne_of_mem_of_not_mem hold hleftNew) _ _
  refine ⟨⟨own, joins ++ [(table.name, table)], ?_, ?_, hown, ?_⟩, ?_, ?_⟩
  · rw [add, Catalog.entries_insert_of_not_mem _ hleftNew, hleft, List.append_assoc]
  · have hkept : joins.map (renamedEntry (Function.update rename table.name name)) =
        joins.map (renamedEntry rename) := by
      refine List.map_congr_left fun entry hentry => ?_
      have hentryName : entry.1 ∈ left.tables.names :=
        List.mem_map_of_mem (hleft ▸ List.mem_append_right own hentry)
      rw [renamedEntry, renamedEntry, hsame _ hentryName]
    rw [add, Catalog.entries_insert_of_not_mem _ hrightNew, hright, List.map_append, hkept]
    simp [renamedEntry]
  · intro entry hentry
    rcases List.mem_append.1 hentry with hold | hlast
    · exact hjoins entry hold
    · exact List.mem_singleton.1 hlast ▸ hjoin
  · rw [add, add, List.map_append, hbeside.links]
    refine congrArg₂ (fun old new => old ++ new) (List.map_congr_left fun other hother => ?_) ?_
    · exact Link.renamed_congr fun old hold =>
        (hsame old (hbeside.named other hother old hold)).symm
    · simp [Link.renamed, hkind, hlink]
  · intro other hother old hold
    rw [add, Catalog.mem_names_insert]
    rcases List.mem_append.1 hother with hother | hlast
    · exact .inr (hbeside.named other hother old hold)
    · rw [List.mem_singleton.1 hlast, hlink] at hold
      exact .inl (Option.some.inj hold).symm

theorem table?_eq_of_keeps (hbeside : Beside rename further left right)
    (hstored : left.StoredByName) (hkeeps : left.KeepsJoinNames rename) {name : String}
    {table : Table} (hfind : left.table? name = some table) : right.table? name = some table := by
  cases hjoin : table.isJoin with
  | false => exact hbeside.elementsIn name table hfind hjoin
  | true =>
    obtain rfl := hstored name table hfind
    have hrenamed := hbeside.table?_rename hfind hjoin
    rwa [hkeeps _ table hfind hjoin] at hrenamed

theorem links_eq_of_keeps (hbeside : Beside rename further left right) (hrules : left.KeepsRules)
    (hkeeps : left.KeepsJoinNames rename) : right.links = left.links := by
  rw [hbeside.links]
  refine (List.map_congr_left fun link hlink => ?_).trans (List.map_id left.links)
  have hkept := (hrules.links link hlink).kept
  cases hkind : link.kind with
  | foreignKey => rw [Link.renamed, hkind, id]
  | joinTable =>
    simp only [hkind] at hkept
    obtain ⟨old, table, hold, hfind, hjoin⟩ := hkept
    refine Link.renamed_eq_self fun name hname => ?_
    cases hold.symm.trans hname
    exact hkeeps old table hfind hjoin

theorem newTables_eq_of_keeps (hbeside : Beside rename further left right)
    (hstored : left.StoredByName) (hkeeps : left.KeepsJoinNames rename)
    (hfurther : ∀ entry ∈ further, entry.2.name = entry.1 ∧ entry.1 ∉ left.tables.names) :
    left.newTables right = further.map Prod.snd := by
  obtain ⟨own, joins, hleft, hright, -, hjoins⟩ := hbeside.tables
  have hmem : ∀ entry ∈ own ++ joins, left.table? entry.1 = some entry.2 := fun entry hentry =>
    Catalog.find?_eq_some_iff.2 (hleft ▸ hentry)
  have hown : ∀ entry ∈ own, left.tables.contains entry.2.name = true := by
    intro entry hentry
    have hfind := hmem entry (List.mem_append_left joins hentry)
    rw [Catalog.contains_iff, hstored _ _ hfind]
    exact Catalog.mem_names_of_find? hfind
  have hlast : ∀ entry ∈ joins, left.tables.contains (rename entry.1) = true := by
    intro entry hentry
    have hfind := hmem entry (List.mem_append_right own hentry)
    rw [Catalog.contains_iff, hkeeps _ _ hfind (hjoins entry hentry)]
    exact Catalog.mem_names_of_find? hfind
  have hnew : ∀ entry ∈ further, left.tables.contains entry.2.name = false := by
    intro entry hentry
    rw [Bool.eq_false_iff, Ne, Catalog.contains_iff, (hfurther entry hentry).1]
    exact (hfurther entry hentry).2
  rw [newTables, Catalog.values, hright, List.filter_map, List.filter_append, List.filter_append,
    List.filter_eq_nil_iff.2, List.nil_append, List.filter_eq_self.2, List.filter_eq_nil_iff.2,
    List.append_nil]
  · rw [List.forall_mem_map]
    intro entry hentry
    simpa [renamedEntry] using hlast entry hentry
  · intro entry hentry
    simpa using hnew entry hentry
  · intro entry hentry
    simpa using hown entry hentry

/-- A new join table gets the same name on both sides unless a further table has it. -/
theorem freshName_eq (hbeside : Beside rename further left right)
    (hkeeps : left.KeepsJoinNames rename) {base : String}
    (hfree : freshName base left.tables.names ∉ further.map Prod.fst) :
    freshName base right.tables.names = freshName base left.tables.names := by
  apply freshName_eq_of_subset
  · exact fun name hname => (hbeside.mem_names_iff hkeeps).2 (.inl hname)
  · intro htaken
    rcases (hbeside.mem_names_iff hkeeps).1 htaken with hold | hnew
    · exact freshName_not_mem base left.tables.names hold
    · exact hfree hnew

/-- One step on both sides. A join table keeps its name unless a further table has it. -/
theorem addPlaced {left right : Draft} (hbeside : Beside rename further left.schema right.schema)
    (hsound : left.schema.Sound) {placed : PlacedRelationship}
    (hlies : placed.LiesIn left.schema) :
    ∃ later, Beside later further (left.addPlaced placed).schema (right.addPlaced placed).schema ∧
      ((∀ entry ∈ further, entry.1 ∉ (left.addPlaced placed).schema.tables.names) →
        left.schema.KeepsJoinNames rename →
          (left.addPlaced placed).schema.KeepsJoinNames later) := by
  cases Draft.addPlaced_cases hsound hlies with
  | nothing _ hacts =>
    rw [(hacts left (.refl _)).1, (hacts right hbeside.elementsIn).1]
    exact ⟨rename, hbeside, fun _ hkeeps => hkeeps⟩
  | @foreignKey owner _ _ _ _ howner _ _ _ hacts =>
    rw [(hacts left (.refl _)).1, (hacts right hbeside.elementsIn).1]
    refine ⟨rename, hbeside.add_foreignKey ?_ rfl rfl _, fun _ hkeeps => hkeeps.add_foreignKey _ _⟩
    exact ⟨owner, howner⟩
  | @joinTable source target _ _ _ _ _ _ _ _ _ _ hacts =>
    rw [(hacts left (.refl _)).1, (hacts right hbeside.elementsIn).1]
    dsimp only
    generalize joinTableName source.name target.name = base
    have hleftNew := freshName_not_mem base left.schema.tables.names
    have hrightNew := freshName_not_mem base right.schema.tables.names
    refine ⟨_, hbeside.add_joinTable rfl rfl rfl hleftNew hrightNew, fun hfree hkeeps => ?_⟩
    have hunused : freshName base left.schema.tables.names ∉ further.map Prod.fst := by
      intro hused
      obtain ⟨entry, hentry, heq⟩ := List.mem_map.1 hused
      refine hfree entry hentry ?_
      rw [add, Catalog.mem_names_insert]
      exact .inl heq
    rw [hbeside.freshName_eq hkeeps hunused]
    exact hkeeps.add_joinTable _ _

/-- The whole run on both sides. -/
theorem foldl_addPlaced (placed : List PlacedRelationship) :
    ∀ (left right : Draft) (rename : String → String),
      Beside rename further left.schema right.schema → left.schema.Sound →
      (∀ step ∈ placed, step.LiesIn left.schema) →
      ∃ later, Beside later further (placed.foldl Draft.addPlaced left).schema
          (placed.foldl Draft.addPlaced right).schema ∧
        ((∀ entry ∈ further,
            entry.1 ∉ (placed.foldl Draft.addPlaced left).schema.tables.names) →
          left.schema.KeepsJoinNames rename →
            (placed.foldl Draft.addPlaced left).schema.KeepsJoinNames later) := by
  induction placed with
  | nil => exact fun _ _ rename hbeside _ _ => ⟨rename, hbeside, fun _ hkeeps => hkeeps⟩
  | cons first rest ih =>
    intro left right rename hbeside hsound hlies
    rw [List.forall_mem_cons] at hlies
    have hfirst := Draft.adds_addPlaced hsound hlies.1
    have hrest : ∀ step ∈ rest, step.LiesIn (left.addPlaced first).schema :=
      fun step hstep => (hlies.2 step hstep).grow hfirst.grows.grows
    obtain ⟨between, hbetween, hkeeps⟩ := hbeside.addPlaced hsound hlies.1
    obtain ⟨later, hlater, hkeeps'⟩ := ih _ (right.addPlaced first) between hbetween hfirst.sound
      hrest
    refine ⟨later, hlater, fun hfree hstart => hkeeps' hfree (hkeeps (fun entry hentry hmem => ?_)
      hstart)⟩
    have hgrows := (Draft.adds_foldl_addPlaced rest _ hfirst.sound hrest).grows.grows
    exact hfree entry hentry (hgrows.mem_names hmem)

end Beside

end Schema

namespace Diagram

variable {diagram : Diagram} {schema later : Schema} {added : List Element}

/-- The tables that further elements declare, under their names. -/
def declaredEntries (diagram : Diagram) (elements : List Element) : List (String × Table) :=
  elements.map fun element => (element.storedName, diagram.declaredTable element)

theorem beside_joinedDraft (hwell : diagram.JoinedWellFormed)
    (hwell' : (diagram.withElements added).JoinedWellFormed)
    (hadded : ∀ element ∈ added, element.kind.isStored = true) :
    Schema.Beside id (diagram.declaredEntries added) diagram.joinedDraft.schema
      (diagram.withElements added).joinedDraft.schema := by
  refine ⟨⟨diagram.joinedDraft.schema.tables.entries, [], (List.append_nil _).symm, ?_, ?_, ?_⟩,
    ?_, ?_⟩
  · rw [entries_joinedDraft_withElements hadded hwell' hwell, List.map_nil, List.append_nil,
      declaredEntries]
  · rw [hwell.entries_eq, List.forall_mem_map]
    exact fun element hmem => hwell.flat.isJoin_fit (table?_linkedSchema hwell.elements hmem)
  · simp
  · rw [hwell.links_eq_nil, hwell'.links_eq_nil, List.map_nil]
  · simp [hwell.links_eq_nil]

theorem exists_beside_of_schema (haccepted : diagram.schema = .ok schema)
    (hadded : ∀ element ∈ added, element.kind.isStored = true)
    (hlater : (diagram.withElements added).schema = .ok later) :
    ∃ rename, Schema.Beside rename (diagram.declaredEntries added) schema later ∧
      ((∀ element ∈ added, element.storedName ∉ schema.tables.names) →
        schema.KeepsJoinNames rename) := by
  have hwell := joinedWellFormed_of_schema haccepted
  have hwell' := joinedWellFormed_of_schema hlater
  obtain ⟨rename, hbeside, hkeeps⟩ := Schema.Beside.foldl_addPlaced diagram.placements
    diagram.joinedDraft (diagram.withElements added).joinedDraft id
    (beside_joinedDraft hwell hwell' hadded) hwell.sound (placements_lieIn hwell)
  obtain rfl := (schema_eq_ok_iff.1 haccepted).2
  obtain rfl := (schema_eq_ok_iff.1 hlater).2
  rw [draft_eq_foldl, draft_eq_foldl, placements_withElements hadded hwell' hwell]
  refine ⟨rename, hbeside, fun hfree => hkeeps ?_ fun _ _ _ _ => rfl⟩
  intro entry hentry
  obtain ⟨element, helement, rfl⟩ := List.mem_map.1 hentry
  exact hfree element helement

/-- Further classes leave the tables of the others and all foreign keys as they are. A join table
keeps what it holds, and also its name if no further class has the name. Then nothing else is new
but the tables of the further classes. -/
theorem schema_withElements (haccepted : diagram.schema = .ok schema)
    (hadded : ∀ element ∈ added, element.kind.isStored = true)
    (hlater : (diagram.withElements added).schema = .ok later) :
    (∀ name table, schema.table? name = some table → table.isJoin = false →
        later.table? name = some table) ∧
      (∃ rename : String → String, later.links = schema.links.map (Link.renamed rename) ∧
        ∀ name table, schema.table? name = some table → table.isJoin = true →
          later.table? (rename name) = some { table with name := rename name }) ∧
      ((∀ element ∈ added, element.storedName ∉ schema.tables.names) ↔
        (∀ name table, schema.table? name = some table → later.table? name = some table) ∧
          later.links = schema.links ∧
          schema.newTables later = added.map diagram.declaredTable) := by
  obtain ⟨rename, hbeside, hkeeps⟩ := exists_beside_of_schema haccepted hadded hlater
  refine ⟨hbeside.elementsIn, ⟨rename, hbeside.links, fun _ _ => hbeside.table?_rename⟩, ?_, ?_⟩
  · intro hfree
    have hrules := (sound_of_schema haccepted).rules
    refine ⟨fun _ _ => hbeside.table?_eq_of_keeps hrules.storedByName (hkeeps hfree),
      hbeside.links_eq_of_keeps hrules (hkeeps hfree), ?_⟩
    rw [hbeside.newTables_eq_of_keeps hrules.storedByName (hkeeps hfree), declaredEntries,
      List.map_map]
    · rfl
    · rw [declaredEntries, List.forall_mem_map]
      exact fun element helement => ⟨rfl, hfree element helement⟩
  · rintro ⟨-, -, hnew⟩ element helement
    have hdeclared := hnew ▸ List.mem_map_of_mem (f := diagram.declaredTable) helement
    exact (Schema.mem_newTables_iff.1 hdeclared).2

/-- A class of the shop that is drawn later. -/
def shopReview : Element where
  id := "5"
  className := "Review"
  attributes := ["stars: Integer"]
  methods := []
  kind := .classKind

theorem schema_withElements_shopReview :
    (shop.withElements [shopReview]).schema = .ok (shop.withElements [shopReview]).draft.schema ∧
      (shop.withElements [shopReview]).draft.schema.links = shop.draft.schema.links ∧
      shop.draft.schema.newTables (shop.withElements [shopReview]).draft.schema =
        [shop.declaredTable shopReview] := by
  have hlater : (shop.withElements [shopReview]).schema =
      .ok (shop.withElements [shopReview]).draft.schema :=
    schema_eq_ok_iff.2 ⟨by decide +kernel, rfl⟩
  obtain ⟨-, hlinks, hnew⟩ :=
    (schema_withElements shop_schema (by decide) hlater).2.2.1 (by decide +kernel)
  exact ⟨hlater, hlinks, hnew⟩

/-- Users and roles with a join table between them, which is named `role_user`. -/
def membership : Diagram where
  elements :=
    [{ id := "1", className := "User", attributes := ["id: Long"], methods := [],
       kind := .classKind },
      { id := "2", className := "Role", attributes := ["id: Long"], methods := [],
        kind := .classKind }]
  relationships :=
    [{ id := "r1", sourceId := "1", targetId := "2", kind := .association,
       sourceCardinality := "*", targetCardinality := "*" }]

/-- A class that is stored under the name of that join table. -/
def roleUser : Element where
  id := "3"
  className := "RoleUser"
  attributes := ["note: String"]
  methods := []
  kind := .classKind

/-- A further class takes the name of a join table. What is new is then the join table under its
other name, and the table of the class is taken for an old one. -/
theorem newTables_withElements_roleUser :
    membership.schema = .ok membership.draft.schema ∧
      (membership.withElements [roleUser]).schema =
        .ok (membership.withElements [roleUser]).draft.schema ∧
      (membership.draft.schema.table? "role_user").map Table.isJoin = some true ∧
      ((membership.withElements [roleUser]).draft.schema.table? "role_user").map Table.isJoin =
        some false ∧
      (membership.draft.schema.newTables
        (membership.withElements [roleUser]).draft.schema).map Table.name = ["role_user_2"] :=
  ⟨schema_eq_ok_iff.2 ⟨by decide +kernel, rfl⟩, schema_eq_ok_iff.2 ⟨by decide +kernel, rfl⟩,
    by decide +kernel, by decide +kernel, by decide +kernel⟩

end Diagram

end ClassDiagram
