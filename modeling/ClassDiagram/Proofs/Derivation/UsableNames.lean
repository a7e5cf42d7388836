import ClassDiagram.Proofs.Derivation.StoredNames
import ClassDiagram.Proofs.Outcomes
import ClassDiagram.Proofs.Text.Openings

/-!
# Names that begin as identifiers do

Names are stored in snake case, in which the marks before the first letter or numeral are gone.
Hence the names of a derived schema begin as identifiers do exactly if the first letter or numeral
of every class name and of every attribute name is a letter. What is joined or numbered begins as
its first part does.
-/

namespace ClassDiagram

open Text

/-! ## Tables -/

/-- The names of the table and of its columns begin as identifiers do. -/
structure Table.HasUsableNames (table : Table) : Prop where
  name : OpensIdentifier table.name
  columns : ∀ column ∈ table.columns, OpensIdentifier column.name

/-- What begins as an identifier does goes on as one. -/
theorem keptByNaming_opensIdentifier : KeptByNaming OpensIdentifier where
  joined hleft _ := (hleft.append _).append _
  numbered hbase _ := (hbase.append _).append _

namespace Schema

variable {schema : Schema}

/-- What the children of a hierarchy lose is kept by a table above them. -/
theorem Flat.exists_fitted_of_inherited (hflat : schema.Flat) {child name : String}
    (hinherited : name ∈ inheritedNames (schema.ancestors child)) :
    ∃ above table, schema.fitted.table? above = some table ∧ name ∈ table.plainNames := by
  have hascent := ascent_ancestors hflat.acyclic hflat.stored child
  rw [← hascent.mem_inheritedNames_map hflat.acyclic hflat.stored schema.tables.names,
    mem_inheritedNames_iff] at hinherited
  obtain ⟨fitted, hfitted, hname⟩ := hinherited
  obtain ⟨table, hmem, rfl⟩ := List.mem_map.1 hfitted
  obtain ⟨above, -, hfind⟩ := (mem_ancestors_iff hflat.acyclic hflat.stored).1 hmem
  have hlisted : table.name ∈ schema.tables.names := by
    rw [hflat.stored above table hfind]
    exact Catalog.mem_names_of_find? hfind
  rw [fitAmong, if_pos hlisted] at hname
  exact ⟨above, schema.fit table, by rw [table?_fitted, hfind, Option.map_some], hname⟩

end Schema

/-! ## Derived schemas -/

namespace Diagram

variable {diagram : Diagram} {schema : Schema}

/-- The first letter or numeral of every class name and of every attribute name is a letter. -/
structure NamesOpen (diagram : Diagram) : Prop where
  classes : ∀ element ∈ diagram.storedElements, OpensWithLetter element.className
  attributes : ∀ element ∈ diagram.storedElements, ∀ typed ∈ diagram.attributesOf element,
    OpensWithLetter typed.1.name

theorem opensIdentifier_storedName_iff (element : Element) :
    OpensIdentifier element.storedName ↔ OpensWithLetter element.className := by
  rw [Element.storedName, tableName, opensIdentifier_snakeCase_iff, opensWithLetter_trimmed_iff]

theorem opensIdentifier_column_iff (typed : TypedAttribute) :
    OpensIdentifier typed.column ↔ OpensWithLetter typed.1.name := by
  rw [TypedAttribute.column, columnName, opensIdentifier_snakeCase_iff,
    opensWithLetter_trimmed_iff]

theorem usableNames_of_schema (haccepted : diagram.schema = .ok schema)
    (hopen : diagram.NamesOpen) : schema.AllTables Table.HasUsableNames := by
  have hnames : schema.AllTables (Table.HasNames OpensIdentifier) :=
    hasNames_of_schema haccepted keptByNaming_opensIdentifier (by decide +kernel)
      (fun element helement =>
        (opensIdentifier_storedName_iff element).2 (hopen.classes element helement))
      fun element helement typed htyped =>
        (opensIdentifier_column_iff typed).2 (hopen.attributes element helement typed htyped)
  exact fun name table hfind => ⟨(hnames name table hfind).name, (hnames name table hfind).columns⟩

theorem KeptAs.name_eq {element : Element} {declared kept : Column}
    (hkept : diagram.KeptAs schema element declared kept) : kept.name = declared.name := by
  rw [KeptAs] at hkept
  split at hkept
  · rcases hkept with ⟨-, rfl⟩ | ⟨_, _, -, -, rfl⟩
    · rfl
    · rfl
  · rw [hkept]

/-- Every attribute has a column of its name, if not in the table of its element then above it. -/
theorem exists_column_of_attribute (haccepted : diagram.schema = .ok schema) {element : Element}
    (helement : element ∈ diagram.storedElements) {typed : TypedAttribute}
    (htyped : typed ∈ diagram.attributesOf element) :
    ∃ table ∈ schema.tables.values, ∃ column ∈ table.columns, column.name = typed.column := by
  have hwell := joinedWellFormed_of_schema haccepted
  have hfitted : ∃ name table, diagram.linkedSchema.fitted.table? name = some table ∧
      ∃ column ∈ table.columns, column.name = typed.column := by
    have hdeclared : typed.column ∈ (diagram.declaredColumns element).map Column.name := by
      have hown : typed.column ∈ (attributeColumns element.storedName
          (diagram.attributesOf element)).map Column.name := by
        rw [map_name_attributeColumns]
        exact List.mem_map_of_mem htyped
      rw [declaredColumns]
      split
      · exact hown
      · exact List.mem_cons_of_mem _ hown
    obtain ⟨column, hcolumn, hname⟩ := List.mem_map.1 hdeclared
    by_cases hinherited :
        column.name ∈ inheritedNames (diagram.linkedSchema.ancestors element.storedName)
    · obtain ⟨above, table, hfind, hplain⟩ := hwell.flat.exists_fitted_of_inherited hinherited
      obtain ⟨kept, hkept, heq⟩ := List.mem_map.1 hplain
      exact ⟨above, table, hfind, kept, (List.mem_filter.1 hkept).1, heq.trans hname⟩
    · obtain ⟨kept, hkept, hrelated⟩ := exists_result_of_forall₂ (forall₂_keptAs haccepted helement)
        column (List.mem_filter.2 ⟨hcolumn, by simp [hinherited]⟩)
      refine ⟨element.storedName, _, ?_, kept, hkept, hrelated.name_eq.trans hname⟩
      rw [Schema.table?_fitted, table?_linkedSchema hwell.elements helement, Option.map_some]
  obtain ⟨name, table, hfind, column, hcolumn, heq⟩ := hfitted
  obtain ⟨added, hafter, -⟩ := (fitted_growsTo_schema haccepted).kept name table hfind
  exact ⟨_, Catalog.mem_values_iff.2 ⟨name, hafter⟩, column,
    List.mem_append_left added hcolumn, heq⟩

/-- The names in a derived schema begin as identifiers do if and only if those in the diagram do
without the marks before them. -/
theorem usableNames_iff (haccepted : diagram.schema = .ok schema) :
    (∀ table ∈ schema.tables.values, table.HasUsableNames) ↔ diagram.NamesOpen := by
  have hstored := schema_storedByName haccepted
  constructor
  · intro husable
    refine ⟨fun element helement => ?_, fun element helement typed htyped => ?_⟩
    · obtain ⟨-, table, -, -, -, hfind, -⟩ := columns_of_schema haccepted helement
      have hname := (husable table (Catalog.mem_values_iff.2 ⟨_, hfind⟩)).name
      rw [hstored _ table hfind] at hname
      exact (opensIdentifier_storedName_iff element).1 hname
    · obtain ⟨table, htable, column, hcolumn, hname⟩ :=
        exists_column_of_attribute haccepted helement htyped
      have hopens := (husable table htable).columns column hcolumn
      rw [hname] at hopens
      exact (opensIdentifier_column_iff typed).1 hopens
  · intro hopen table htable
    obtain ⟨name, hfind⟩ := Catalog.mem_values_iff.1 htable
    exact usableNames_of_schema haccepted hopen name table hfind

end Diagram

end ClassDiagram
