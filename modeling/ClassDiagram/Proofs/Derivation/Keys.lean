import ClassDiagram.Proofs.Derivation.Soundness

/-!
# Keys along a derived hierarchy

The hierarchy of a derived schema is that of its elements: relationships neither give a table a
parent nor change a key. Each key below a root refers to the key of the parent, so all keys of a
hierarchy have the types of the root's key.
-/

namespace ClassDiagram

open Relation

namespace Schema

variable {schema before after : Schema}

/-! ## Growth keeps the hierarchy -/

theorem GrowsTo.parent?_eq (hgrows : before.GrowsTo after) (name : String) :
    after.parent? name = before.parent? name := by
  cases hbefore : before.table? name with
  | some table =>
    obtain ⟨added, hafter, -⟩ := hgrows.kept name table hbefore
    rw [parent?, parent?, hbefore, hafter]
    rfl
  | none =>
    cases hafter : after.table? name with
    | none => rw [parent?, parent?, hbefore, hafter]
    | some table =>
      have hnew : name ∉ before.tables.names := Catalog.find?_eq_none_iff.1 hbefore
      rw [parent?, parent?, hbefore, hafter]
      exact (hgrows.joins name table hafter hnew).2

theorem GrowsTo.hasParent_eq (hgrows : before.GrowsTo after) :
    after.HasParent = before.HasParent := by
  funext child parent
  rw [HasParent, hgrows.parent?_eq, HasParent]

theorem GrowsTo.keyOf?_eq (hgrows : before.GrowsTo after) {name : String} {key : Column}
    (hkey : before.keyOf? name = some key) : after.keyOf? name = some key := by
  obtain ⟨table, hfind, hkey⟩ := keyOf?_eq_some_iff.1 hkey
  obtain ⟨added, hafter, -⟩ := hgrows.kept name table hfind
  exact keyOf?_eq_some_iff.2 ⟨_, hafter, Table.primaryKey?_append hkey added⟩

/-- A key that refers to the parent has the types of the parent's key. -/
theorem Sound.hasTypeOf_of_references (hsound : schema.Sound) {name parent column : String}
    {key : Column} (hkey : schema.keyOf? name = some key)
    (hreference : key.references = some { table := parent, column }) :
    ∃ parentKey, schema.keyOf? parent = some parentKey ∧ key.HasTypeOf parentKey := by
  obtain ⟨table, hfind, hkey⟩ := keyOf?_eq_some_iff.1 hkey
  obtain ⟨target, parentKey, htarget, -, hparentKey, -, htypes⟩ :=
    hsound.types name table hfind key (List.mem_of_find?_eq_some hkey) _ hreference
  exact ⟨parentKey, keyOf?_eq_some_iff.2 ⟨target, htarget, hparentKey⟩, htypes⟩

namespace Flat

theorem fitted_hasParent_iff {child parent : String} :
    schema.fitted.HasParent child parent ↔ schema.HasParent child parent := by
  rw [HasParent, parent?, table?_fitted, HasParent, parent?]
  cases schema.table? child <;> simp [fit]

theorem fitted_acyclic (hflat : schema.Flat) : schema.fitted.Acyclic := by
  have hsame : schema.fitted.HasParent = schema.HasParent := by
    funext child parent
    rw [eq_iff_iff, fitted_hasParent_iff]
  rw [Acyclic, hsame]
  exact hflat.acyclic

/-- The key of a child refers to its parent. -/
theorem fitted_references_parent (hflat : schema.Flat) {child parent : String}
    (hparent : schema.fitted.HasParent child parent) :
    ∃ key column, schema.fitted.keyOf? child = some key ∧
      key.references = some { table := parent, column } := by
  obtain ⟨table, hfind, hparentOf⟩ := hasParent_iff.1 (fitted_hasParent_iff.1 hparent)
  obtain ⟨parentTable, parentKey, hparentFind, -, heq⟩ := hflat.fit_eq_fitTo_parent hfind hparentOf
  obtain ⟨key, hkey⟩ := hflat.exists_primaryKey hfind
  refine ⟨childKey parentTable parentKey parentKey key, parentKey.name,
    keyOf?_eq_some_iff.2 ⟨schema.fit table, ?_, ?_⟩, ?_⟩
  · rw [table?_fitted, hfind, Option.map_some]
  · rw [heq, Table.primaryKey?_fitTo, hkey, Option.map_some]
  · rw [← hflat.stored parent parentTable hparentFind]
    rfl

/-- Parents are tables of elements. -/
theorem fitted_parent_isElement (hflat : schema.Flat) {child parent : String}
    (hparent : schema.fitted.HasParent child parent) :
    schema.fitted.HasElementTable parent := by
  obtain ⟨table, hfind, hparentOf⟩ := hasParent_iff.1 (fitted_hasParent_iff.1 hparent)
  obtain ⟨parentTable, hparentFind, -⟩ := hflat.exists_parent hfind hparentOf
  exact ⟨schema.fit parentTable, by rw [table?_fitted, hparentFind, Option.map_some],
    hflat.isJoin_fit hparentFind⟩

end Flat

end Schema

namespace Diagram

variable {diagram : Diagram} {schema : Schema}

/-! ## The hierarchy of a derived schema -/

theorem fitted_growsTo_schema (haccepted : diagram.schema = .ok schema) :
    diagram.linkedSchema.fitted.GrowsTo schema :=
  (joinedWellFormed_of_schema haccepted).schema_eq ▸ (growsBy_of_schema haccepted).grows

theorem schema_hasParent_eq (haccepted : diagram.schema = .ok schema) :
    schema.HasParent = diagram.linkedSchema.fitted.HasParent :=
  (fitted_growsTo_schema haccepted).hasParent_eq

theorem schema_acyclic (haccepted : diagram.schema = .ok schema) : schema.Acyclic := by
  rw [Schema.Acyclic, schema_hasParent_eq haccepted]
  exact (joinedWellFormed_of_schema haccepted).flat.fitted_acyclic

theorem schema_storedByName (haccepted : diagram.schema = .ok schema) : schema.StoredByName :=
  fun _ _ hfind => (sound_of_schema haccepted).table_name hfind

/-- A child has a key of the types of its parent's key. -/
theorem schema_hasTypeOf_parent (haccepted : diagram.schema = .ok schema) {child parent : String}
    (hparent : schema.HasParent child parent) :
    ∃ key parentKey, schema.keyOf? child = some key ∧ schema.keyOf? parent = some parentKey ∧
      key.HasTypeOf parentKey := by
  rw [schema_hasParent_eq haccepted] at hparent
  obtain ⟨key, column, hkey, hreference⟩ :=
    (joinedWellFormed_of_schema haccepted).flat.fitted_references_parent hparent
  have hkey := (fitted_growsTo_schema haccepted).keyOf?_eq hkey
  obtain ⟨parentKey, hparentKey, htypes⟩ :=
    (sound_of_schema haccepted).hasTypeOf_of_references hkey hreference
  exact ⟨key, parentKey, hkey, hparentKey, htypes⟩

theorem schema_parent_isElement (haccepted : diagram.schema = .ok schema) {child parent : String}
    (hparent : schema.HasParent child parent) : schema.HasElementTable parent := by
  rw [schema_hasParent_eq haccepted] at hparent
  exact (fitted_growsTo_schema haccepted).hasElementTable
    ((joinedWellFormed_of_schema haccepted).flat.fitted_parent_isElement hparent)

/-- Up the whole hierarchy keys have one Java type, and every table is that of an element. -/
theorem schema_keyType_above (haccepted : diagram.schema = .ok schema) {name above : String}
    (habove : TransGen schema.HasParent name above) :
    schema.HasElementTable above ∧
      ∃ key aboveKey, schema.keyOf? name = some key ∧ schema.keyOf? above = some aboveKey ∧
        key.HasTypeOf aboveKey := by
  induction habove with
  | single hparent =>
    exact ⟨schema_parent_isElement haccepted hparent, schema_hasTypeOf_parent haccepted hparent⟩
  | tail _ hparent ih =>
    obtain ⟨-, key, middleKey, hkey, hmiddle, htypes⟩ := ih
    obtain ⟨middleKey', aboveKey, hmiddle', haboveKey, htypes'⟩ :=
      schema_hasTypeOf_parent haccepted hparent
    cases hmiddle.symm.trans hmiddle'
    exact ⟨schema_parent_isElement haccepted hparent, key, aboveKey, hkey, haboveKey,
      htypes.sqlType.trans htypes'.sqlType, htypes.javaType.trans htypes'.javaType⟩

end Diagram

end ClassDiagram
