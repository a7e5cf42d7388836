import ClassDiagram.Schema.Increment
import ClassDiagram.Proofs.Hierarchy.Fitting

/-!
# What is new in a later schema

A table or an enumeration is new if the earlier schema has none of its name. The two schemas
together have the tables and enumerations of the earlier one as they are and the new ones behind
them.
-/

namespace ClassDiagram.Schema

variable {base candidate : Schema}

theorem mem_newTables_iff {table : Table} :
    table ∈ base.newTables candidate ↔
      table ∈ candidate.tables.values ∧ table.name ∉ base.tables.names := by
  simp [newTables, Catalog.contains]

theorem mem_names_merge_iff {name : String} :
    name ∈ (base.merge candidate).tables.names ↔
      name ∈ base.tables.names ∨ name ∈ (base.newTables candidate).map Table.name :=
  Catalog.mem_names_foldl_insert Table.name id (base.newTables candidate) base.tables

theorem mem_links_merge_iff {link : Link} :
    link ∈ (base.merge candidate).links ↔ link ∈ base.links ∨ link ∈ candidate.links ∧
      isKeptIn ((base.newTables candidate).map Table.name) link = true := by
  rw [merge, mergeTables, List.mem_append, List.mem_filter]

/-- Every enumeration is stored under its name. -/
def EnumsStoredByName (schema : Schema) : Prop :=
  ∀ entry ∈ schema.enums.entries, entry.2.name = entry.1

/-- The new enumerations stand behind those of the earlier schema. -/
theorem entries_enums_merge : (base.merge candidate).enums.entries = base.enums.entries ++
    candidate.enums.entries.filter fun entry => !base.enums.contains entry.1 :=
  Catalog.entries_foldl_insert_if_new _ _ candidate.enums.distinct

theorem EnumsStoredByName.merge (hbase : base.EnumsStoredByName)
    (hcandidate : candidate.EnumsStoredByName) : (base.merge candidate).EnumsStoredByName := by
  intro entry hentry
  rw [entries_enums_merge, List.mem_append] at hentry
  apply hentry.elim (hbase entry)
  exact fun hnew => hcandidate entry (List.mem_filter.1 hnew).1

section Stored

variable (hstored : candidate.StoredByName)

include hstored

theorem mem_newTables_iff_table? {table : Table} :
    table ∈ base.newTables candidate ↔
      candidate.table? table.name = some table ∧ table.name ∉ base.tables.names := by
  rw [mem_newTables_iff, mem_values_iff_table? hstored]

theorem nodup_names_newTables : ((base.newTables candidate).map Table.name).Nodup := by
  have hnames := candidate.tables.nodup_names
  rw [names_eq_map_values hstored] at hnames
  exact hnames.sublist (List.filter_sublist.map Table.name)

/-- The new tables stand behind those of the earlier schema. -/
theorem entries_merge : (base.merge candidate).tables.entries =
    base.tables.entries ++ (base.newTables candidate).map fun table => (table.name, table) :=
  Catalog.entries_foldl_insert Table.name id (base.newTables candidate) base.tables
    (nodup_names_newTables hstored) fun _ hnew => (mem_newTables_iff.1 hnew).2

theorem values_merge :
    (base.merge candidate).tables.values = base.tables.values ++ base.newTables candidate := by
  rw [Catalog.values, entries_merge hstored, List.map_append, List.map_map]
  exact congrArg _ (List.map_id _)

/-- A table is that of the earlier schema if there is one, and else that of the later schema. -/
theorem table?_merge (name : String) :
    (base.merge candidate).table? name = (base.table? name).or (candidate.table? name) := by
  have hentries : ∀ table, (base.merge candidate).table? name = some table ↔
      base.table? name = some table ∨ table ∈ base.newTables candidate ∧ table.name = name := by
    intro table
    rw [table?, table?, Catalog.find?_eq_some_iff, Catalog.find?_eq_some_iff,
      entries_merge hstored, List.mem_append, List.mem_map]
    apply or_congr_right
    constructor
    · rintro ⟨new, hnew, heq⟩
      obtain ⟨rfl, rfl⟩ := Prod.mk.inj heq
      exact ⟨hnew, rfl⟩
    · rintro ⟨hnew, rfl⟩
      exact ⟨table, hnew, rfl⟩
  apply Option.ext
  intro table
  rw [hentries, Option.or_eq_some_iff, mem_newTables_iff_table? hstored]
  apply or_congr_right
  constructor
  · rintro ⟨⟨hfind, hnew⟩, rfl⟩
    exact ⟨Catalog.find?_eq_none_iff.2 hnew, hfind⟩
  · rintro ⟨hnone, hfind⟩
    obtain rfl := hstored name table hfind
    exact ⟨⟨hfind, Catalog.find?_eq_none_iff.1 hnone⟩, rfl⟩

theorem table?_merge_of_old {name : String} {table : Table}
    (hfind : base.table? name = some table) :
    (base.merge candidate).table? name = some table := by
  rw [table?_merge hstored, hfind, Option.some_or]

theorem table?_merge_of_new {name : String} (hnew : name ∉ base.tables.names) :
    (base.merge candidate).table? name = candidate.table? name := by
  rw [table?_merge hstored, table?, Catalog.find?_eq_none_iff.2 hnew, Option.none_or]

theorem StoredByName.merge (hbase : base.StoredByName) :
    (base.merge candidate).StoredByName := by
  intro name table hfind
  rw [table?_merge hstored, Option.or_eq_some_iff] at hfind
  exact hfind.elim (hbase name table) fun hnew => hstored name table hnew.2

theorem names_subset_merge : base.tables.names ⊆ (base.merge candidate).tables.names := by
  intro name hname
  obtain ⟨table, hfind⟩ := Catalog.mem_names_iff.1 hname
  exact Catalog.mem_names_of_find? (table?_merge_of_old hstored hfind)

theorem names_candidate_subset_merge :
    candidate.tables.names ⊆ (base.merge candidate).tables.names := by
  intro name hname
  by_cases hold : name ∈ base.tables.names
  · exact names_subset_merge hstored hold
  · obtain ⟨table, hfind⟩ := Catalog.mem_names_iff.1 hname
    exact Catalog.mem_names_of_find? ((table?_merge_of_new hstored hold).trans hfind)

end Stored

end ClassDiagram.Schema
