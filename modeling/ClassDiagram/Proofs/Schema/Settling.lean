import ClassDiagram.Proofs.Derivation.Appending

/-!
# A merge settles

The merge of two schemas has everything of the earlier one, unchanged and in front, and behind it
what is new in the later one. Nothing of the later schema is new to it any more, so merging it with
the later schema once again changes nothing.
-/

namespace ClassDiagram.Schema

variable {schema base candidate : Schema}

/-- Without new tables no link comes along, and enumerations that are known are left alone. -/
theorem mergeTables_nil (hknown : candidate.enums.names ⊆ schema.enums.names) :
    schema.mergeTables [] candidate = schema := by
  have hlinks : candidate.links.filter (isKeptIn []) = [] := by
    apply List.filter_eq_nil_iff.2
    intro link _
    cases hkind : link.kind <;> simp [isKeptIn, hkind]
  have henums : candidate.enums.entries.foldl
      (fun enums entry => if enums.contains entry.1 then enums else enums.insert entry.1 entry.2)
      schema.enums = schema.enums := by
    apply Catalog.ext
    rw [Catalog.entries_foldl_insert_if_new _ _ candidate.enums.distinct,
      List.filter_eq_nil_iff.2, List.append_nil]
    intro entry hentry
    simpa using hknown (List.mem_map_of_mem hentry)
  rw [mergeTables, List.map_nil, hlinks, henums, List.append_nil, List.foldl_nil]

theorem names_enums_subset_merge :
    candidate.enums.names ⊆ (base.merge candidate).enums.names := by
  intro name hname
  rw [Catalog.names, entries_enums_merge, List.map_append, List.mem_append]
  by_cases hold : name ∈ base.enums.names
  · exact .inl hold
  · obtain ⟨entry, hentry, rfl⟩ := List.mem_map.1 hname
    have hnew : entry ∈ candidate.enums.entries.filter fun entry =>
        !base.enums.contains entry.1 :=
      List.mem_filter.2 ⟨hentry, by simpa [Catalog.contains] using hold⟩
    exact .inr (List.mem_map_of_mem hnew)

theorem newEnums_merge : (base.merge candidate).newEnums candidate = [] := by
  apply List.filter_eq_nil_iff.2
  intro name hname
  simpa using names_enums_subset_merge hname

section Stored

variable (hstored : candidate.StoredByName)

include hstored

/-- The new tables under their names are the entries whose names the earlier schema lacks. -/
theorem entries_newTables :
    ((base.newTables candidate).map fun table => (table.name, table)) =
      candidate.tables.entries.filter fun entry => !base.tables.contains entry.1 := by
  have hnames : ∀ entry ∈ candidate.tables.entries, entry.2.name = entry.1 := fun entry hentry =>
    hstored entry.1 entry.2 (Catalog.find?_eq_some_iff.2 hentry)
  calc
    _ = (candidate.tables.entries.filter fun entry => !base.tables.contains entry.2.name).map
          fun entry => (entry.2.name, entry.2) := by
      rw [newTables, Catalog.values, List.filter_map, List.map_map]
      rfl
    _ = (candidate.tables.entries.filter fun entry => !base.tables.contains entry.1).map
          fun entry => (entry.2.name, entry.2) := by
      rw [List.filter_congr fun entry hentry => by rw [hnames entry hentry]]
    _ = _ := by
      refine (List.map_congr_left fun entry hentry => ?_).trans (List.map_id _)
      rw [hnames entry (List.mem_filter.1 hentry).1, id]

theorem newTables_merge : (base.merge candidate).newTables candidate = [] := by
  apply List.filter_eq_nil_iff.2
  intro table hmem
  obtain ⟨name, hfind⟩ := Catalog.mem_values_iff.1 hmem
  have hname : name ∈ (base.merge candidate).tables.names :=
    names_candidate_subset_merge hstored (Catalog.mem_names_of_find? hfind)
  simpa [hstored name table hfind] using hname

/-- A merge keeps all of the earlier schema in front. Of the later schema it adds, in order, the
tables whose names are new, the links that are kept in those tables, and the enumerations whose
names are new. After that nothing is new any more, and the next merge changes nothing. -/
theorem merge_settles :
    ((base.merge candidate).tables.entries = base.tables.entries ++
        candidate.tables.entries.filter fun entry => !base.tables.contains entry.1) ∧
      ((base.merge candidate).links = base.links ++
        candidate.links.filter (isKeptIn ((base.newTables candidate).map Table.name))) ∧
      ((base.merge candidate).enums.entries = base.enums.entries ++
        candidate.enums.entries.filter fun entry => !base.enums.contains entry.1) ∧
      (base.merge candidate).newTables candidate = [] ∧
      (base.merge candidate).newEnums candidate = [] ∧
      (base.merge candidate).merge candidate = base.merge candidate := by
  have htables : (base.merge candidate).newTables candidate = [] := newTables_merge hstored
  refine ⟨?_, rfl, entries_enums_merge, htables, newEnums_merge, ?_⟩
  · rw [← entries_newTables hstored]
    exact entries_merge hstored
  · rw [merge, htables]
    exact mergeTables_nil names_enums_subset_merge

end Stored

end ClassDiagram.Schema

namespace ClassDiagram.Diagram

/-- The later schema stores a class under the name that a join table of the earlier one has. Its own
join table is new and gets a link, the class counts as known, and all that stays so. -/
theorem merge_settles_membership :
    let base := membership.draft.schema
    let candidate := (membership.withElements [roleUser]).draft.schema
    let merged := base.merge candidate
    candidate.StoredByName ∧
      merged.tables.names = ["user", "role", "role_user", "role_user_2"] ∧
      merged.links.map Link.joinTable = [some "role_user", some "role_user_2"] ∧
      merged.newTables candidate = [] ∧ merged.merge candidate = merged := by
  intro base candidate merged
  obtain ⟨hfaults, hnames, hlinks⟩ : candidate.faults = [] ∧
      merged.tables.names = ["user", "role", "role_user", "role_user_2"] ∧
      merged.links.map Link.joinTable = [some "role_user", some "role_user_2"] := by
    decide +kernel
  have hstored : candidate.StoredByName := (Schema.faults_eq_nil_iff.1 hfaults).storedByName
  obtain ⟨-, -, -, htables, -, hmerge⟩ := @Schema.merge_settles base candidate hstored
  exact ⟨hstored, hnames, hlinks, htables, hmerge⟩

end ClassDiagram.Diagram
