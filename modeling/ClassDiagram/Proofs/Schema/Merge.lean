import ClassDiagram.Proofs.Derivation.Acceptance
import ClassDiagram.Proofs.Schema.Increment

/-!
# Rules of a merged schema

In a merged schema the tables of the earlier schema stand beside tables that were made for the later
one. The mixture keeps the rules exactly if no new table refers to a column that the later version
of an old table has and the earlier version lacks. It has no cycle of parents that none of the two
schemas has: the parents of old tables are old tables.
-/

namespace ClassDiagram.Schema

open Relation

variable {before after base candidate : Schema}

/-- The new tables refer to old ones only by columns that these have. -/
def NewReferencesFit (base candidate : Schema) : Prop :=
  ∀ table ∈ base.newTables candidate, ∀ column ∈ table.columns,
    ∀ reference ∈ column.references, ∀ old ∈ base.table? reference.table,
      reference.column ∈ old.columnNames

instance (base candidate : Schema) : Decidable (base.NewReferencesFit candidate) :=
  inferInstanceAs (Decidable (∀ table ∈ base.newTables candidate, ∀ column ∈ table.columns,
    ∀ reference ∈ column.references, ∀ old ∈ base.table? reference.table,
      reference.column ∈ old.columnNames))

/-! ## Rules of links -/

/-- A link goes on keeping the rules while the table that keeps it is there as before. -/
theorem LinkKeepsRules.of_kept {link : Link} (hrules : before.LinkKeepsRules link)
    (hnames : before.tables.names ⊆ after.tables.names)
    (hkept : ∀ name table, (link.kind = .foreignKey → name = link.owner) →
      (link.kind = .joinTable → link.joinTable = some name) →
        before.table? name = some table → after.table? name = some table) :
    after.LinkKeepsRules link := by
  refine ⟨hnames hrules.owner, hnames hrules.referenced, ?_⟩
  have hkind := hrules.kept
  cases hlink : link.kind with
  | foreignKey =>
    simp only [hlink] at hkind ⊢
    obtain ⟨name, owner, column, reference, hname, howner, hrest⟩ := hkind
    refine ⟨name, owner, column, reference, hname, ?_, hrest⟩
    exact hkept _ _ (fun _ => rfl) (fun heq => by simp [hlink] at heq) howner
  | joinTable =>
    simp only [hlink] at hkind ⊢
    obtain ⟨name, table, hname, htable, hjoin⟩ := hkind
    refine ⟨name, table, hname, ?_, hjoin⟩
    exact hkept _ _ (fun heq => by simp [hlink] at heq) (fun _ => hname) htable

/-- A link of the later schema comes along only if the table that keeps it is new. -/
theorem linkKeepsRules_merge (hbase : base.KeepsRules) (hcandidate : candidate.KeepsRules)
    {link : Link} (hlink : link ∈ (base.merge candidate).links) :
    (base.merge candidate).LinkKeepsRules link := by
  have hstored := hcandidate.storedByName
  rcases mem_links_merge_iff.1 hlink with hold | ⟨hnew, hkept⟩
  · exact (hbase.links link hold).of_kept (names_subset_merge hstored)
      fun name table _ _ => table?_merge_of_old hstored
  · refine (hcandidate.links link hnew).of_kept (names_candidate_subset_merge hstored)
      fun name table howner hjoin hfind => ?_
    have hname : name ∈ (base.newTables candidate).map Table.name := by
      cases hkind : link.kind with
      | foreignKey =>
        obtain rfl := howner hkind
        simpa [isKeptIn, hkind] using hkept
      | joinTable => simpa [isKeptIn, hkind, hjoin hkind] using hkept
    obtain ⟨new, hmem, rfl⟩ := List.mem_map.1 hname
    rw [table?_merge_of_new hstored (mem_newTables_iff.1 hmem).2, hfind]

/-! ## Rules of tables -/

theorem TableKeepsRules.of_resolves {name : String} {table : Table}
    (hrules : before.TableKeepsRules name table)
    (hnames : before.tables.names ⊆ after.tables.names)
    (hresolves : ∀ column ∈ table.columns, ∀ reference, column.references = some reference →
      after.Resolves reference) : after.TableKeepsRules name table where
  stored := hrules.stored
  distinct := hrules.distinct
  references := hresolves
  key := hrules.key
  parent := fun parent hparent => hnames (hrules.parent parent hparent)

theorem Resolves.merge_of_old (hstored : candidate.StoredByName) {reference : ColumnReference}
    (hresolves : base.Resolves reference) : (base.merge candidate).Resolves reference := by
  obtain ⟨target, hfind, hcolumn⟩ := hresolves
  exact ⟨target, table?_merge_of_old hstored hfind, hcolumn⟩

/-- A reference of the later schema is still good if the earlier version of the table that it leads
to, if there is one, has the column. -/
theorem Resolves.merge_iff (hstored : candidate.StoredByName) {reference : ColumnReference}
    (hresolves : candidate.Resolves reference) :
    (base.merge candidate).Resolves reference ↔
      ∀ old ∈ base.table? reference.table, reference.column ∈ old.columnNames := by
  rw [Resolves, table?_merge hstored]
  cases base.table? reference.table with
  | none =>
    rw [Option.none_or]
    exact iff_of_true hresolves (by simp)
  | some old => simp

theorem keepsRules_merge_iff (hbase : base.KeepsRules) (hcandidate : candidate.KeepsRules) :
    (base.merge candidate).KeepsRules ↔ base.NewReferencesFit candidate := by
  have hstored := hcandidate.storedByName
  constructor
  · intro hmerge table hnew column hcolumn reference hreference
    obtain ⟨hfind, hfree⟩ := (mem_newTables_iff_table? hstored).1 hnew
    have hmerged : (base.merge candidate).table? table.name = some table :=
      (table?_merge_of_new hstored hfree).trans hfind
    have hresolves := (hcandidate.tables _ table hfind).references column hcolumn _ hreference
    apply (hresolves.merge_iff hstored).1
    exact (hmerge.tables _ table hmerged).references column hcolumn reference hreference
  · intro hfit
    refine ⟨fun name table hfind => ?_, fun link => linkKeepsRules_merge hbase hcandidate⟩
    rw [table?_merge hstored, Option.or_eq_some_iff] at hfind
    rcases hfind with hold | ⟨hnone, hnew⟩
    · have hrules := hbase.tables name table hold
      refine hrules.of_resolves (names_subset_merge hstored) fun column hcolumn reference heq => ?_
      exact (hrules.references column hcolumn reference heq).merge_of_old hstored
    · have hrules := hcandidate.tables name table hnew
      refine hrules.of_resolves (names_candidate_subset_merge hstored)
        fun column hcolumn reference heq => ?_
      apply ((hrules.references column hcolumn reference heq).merge_iff hstored).2
      refine hfit table ((mem_newTables_iff_table? hstored).2 ?_) column hcolumn reference heq
      obtain rfl := hstored name table hnew
      exact ⟨hnew, Catalog.find?_eq_none_iff.1 hnone⟩

/-! ## Hierarchies -/

section Hierarchy

variable (hbase : base.KeepsRules) (hstored : candidate.StoredByName)

include hstored

theorem hasParent_merge_iff {child parent : String} :
    (base.merge candidate).HasParent child parent ↔ base.HasParent child parent ∨
      child ∉ base.tables.names ∧ candidate.HasParent child parent := by
  rw [hasParent_iff, hasParent_iff, hasParent_iff, table?_merge hstored,
    ← Catalog.find?_eq_none_iff]
  change _ ↔ _ ∨ base.table? child = none ∧ _
  cases base.table? child <;> simp

include hbase

theorem hasParent_of_merge_of_old {child parent : String}
    (hparent : (base.merge candidate).HasParent child parent)
    (hold : child ∈ base.tables.names) :
    base.HasParent child parent ∧ parent ∈ base.tables.names := by
  have hstep := ((hasParent_merge_iff hstored).1 hparent).resolve_right fun hnew => hnew.1 hold
  obtain ⟨table, hfind, heq⟩ := hasParent_iff.1 hstep
  exact ⟨hstep, (hbase.tables child table hfind).parent parent heq⟩

/-- From an old table only old tables are reached, and this along the old parents. -/
theorem transGen_of_merge_of_old {first last : String}
    (hreach : TransGen (base.merge candidate).HasParent first last)
    (hold : first ∈ base.tables.names) :
    TransGen base.HasParent first last ∧ last ∈ base.tables.names := by
  induction hreach with
  | single hparent =>
    obtain ⟨hstep, hmem⟩ := hasParent_of_merge_of_old hbase hstored hparent hold
    exact ⟨.single hstep, hmem⟩
  | tail _ hparent ih =>
    obtain ⟨hstep, hmem⟩ := hasParent_of_merge_of_old hbase hstored hparent ih.2
    exact ⟨ih.1.tail hstep, hmem⟩

/-- A way to a new table leads through new tables only. -/
theorem transGen_of_merge_of_new {first last : String}
    (hreach : TransGen (base.merge candidate).HasParent first last)
    (hnew : last ∉ base.tables.names) : TransGen candidate.HasParent first last := by
  have hstep : ∀ child parent, (base.merge candidate).HasParent child parent →
      parent ∉ base.tables.names → child ∉ base.tables.names ∧
        candidate.HasParent child parent := by
    intro child parent hparent hfree
    have hchild : child ∉ base.tables.names := fun hold =>
      hfree (hasParent_of_merge_of_old hbase hstored hparent hold).2
    exact ⟨hchild, (((hasParent_merge_iff hstored).1 hparent).resolve_left
      fun hbefore => hchild hbefore.mem_names).2⟩
  induction hreach with
  | single hparent => exact .single (hstep _ _ hparent hnew).2
  | tail _ hparent ih =>
    obtain ⟨hmiddle, hlast⟩ := hstep _ _ hparent hnew
    exact (ih hmiddle).tail hlast

theorem acyclic_merge (hbaseAcyclic : base.Acyclic) (hcandidateAcyclic : candidate.Acyclic) :
    (base.merge candidate).Acyclic := by
  intro name hcycle
  by_cases hold : name ∈ base.tables.names
  · exact hbaseAcyclic name (transGen_of_merge_of_old hbase hstored hcycle hold).1
  · exact hcandidateAcyclic name (transGen_of_merge_of_new hbase hstored hcycle hold)

end Hierarchy

/-- Of two schemas that keep the rules the mixture keeps them exactly if the references of the new
tables to old ones fit the old ones, and it has a cycle of parents only if one of the two has. -/
theorem faults_merge_eq_nil_iff (hbase : base.faults = []) (hcandidate : candidate.faults = []) :
    ((base.merge candidate).faults = [] ↔ base.NewReferencesFit candidate) ∧
      (base.Acyclic → candidate.Acyclic → (base.merge candidate).Acyclic) := by
  rw [faults_eq_nil_iff] at hbase hcandidate ⊢
  exact ⟨keepsRules_merge_iff hbase hcandidate, acyclic_merge hbase hcandidate.storedByName⟩

end ClassDiagram.Schema

namespace ClassDiagram.Diagram

/-- People that have the key of a given name. -/
def people (key : String) : Diagram where
  elements :=
    [{ id := "1"
       className := "Person"
       attributes := [key ++ ": Long", "name: String"]
       methods := []
       kind := .classKind }]
  relationships := []

/-- Beside the people the staff among them, and badges that are given to people. -/
def badges (key : String) : Diagram where
  elements := (people key).elements ++
    [{ id := "2"
       className := "Staff"
       attributes := ["since: LocalDate"]
       methods := []
       kind := .classKind },
      { id := "3"
        className := "Badge"
        attributes := []
        methods := []
        kind := .classKind }]
  relationships :=
    [{ id := "r1"
       sourceId := "2"
       targetId := "1"
       kind := .inheritance
       sourceCardinality := ""
       targetCardinality := "" },
      { id := "r2"
        sourceId := "3"
        targetId := "1"
        kind := .association
        sourceCardinality := "*"
        targetCardinality := "1" }]

/-- Staff and badges fit beside the people if these have kept the name of their key. -/
theorem faults_merge_badges :
    let base := (people "id").draft.schema
    let candidate := (badges "id").draft.schema
    let renamed := (badges "person_id").draft.schema
    base.faults = [] ∧ candidate.faults = [] ∧ renamed.faults = [] ∧
      (base.merge candidate).faults = [] ∧ (base.merge candidate).Acyclic ∧
      (base.merge renamed).faults ≠ [] := by
  intro base candidate renamed
  obtain ⟨hbase, hcandidate, hrenamed, hkept, hchanged, hacyclic⟩ :
      base.faults = [] ∧ candidate.faults = [] ∧ renamed.faults = [] ∧
        base.NewReferencesFit candidate ∧ ¬base.NewReferencesFit renamed ∧
          base.parentCycles = [] ∧ candidate.parentCycles = [] := by
    decide +kernel
  have hfit := Schema.faults_merge_eq_nil_iff hbase hcandidate
  have hunfit := Schema.faults_merge_eq_nil_iff hbase hrenamed
  refine ⟨hbase, hcandidate, hrenamed, hfit.1.2 hkept, ?_, mt hunfit.1.1 hchanged⟩
  exact hfit.2 (Schema.parentCycles_eq_nil_iff.1 hacyclic.1)
    (Schema.parentCycles_eq_nil_iff.1 hacyclic.2)

end ClassDiagram.Diagram
