import ClassDiagram.Proofs.Derivation.Keys
import ClassDiagram.Proofs.Java.KeyFields

/-!
# Types of references in a derived schema

Every reference of a derived schema leads to the key of an element's table and has its types, and
the entity of that table shows a key field of the same Java type, though it takes the field from the
root of the hierarchy. This does not depend on the project, nor on the tables that are written.
-/

namespace ClassDiagram.Diagram

variable {diagram : Diagram} {schema : Schema}

/-- At the top of the hierarchy of an element's table stands an element's table with a key of the
same types. A backend takes the key field from its entity. -/
theorem exists_root (haccepted : diagram.schema = .ok schema) {name : String} {table : Table}
    (hfind : schema.table? name = some table) (helement : table.isJoin = false) {key : Column}
    (hkey : table.primaryKey? = some key) :
    ∃ root rootKey, schema.table? root.name = some root ∧ root.isJoin = false ∧
      root.primaryKey? = some rootKey ∧ key.HasTypeOf rootKey ∧
      ∀ backend : Backend, backend.schema = schema →
        backend.keyField? name = (backend.entity? root.name).bind Entity.ownKey? := by
  have hstored := schema_storedByName haccepted
  cases hlast : (schema.ancestors name).getLast? with
  | none =>
    have hname : table.name = name := hstored name table hfind
    refine ⟨table, key, hname.symm ▸ hfind, helement, hkey, ⟨rfl, rfl⟩, fun backend hbackend => ?_⟩
    simp only [Backend.keyField?, hbackend, hlast, hname]
  | some root =>
    obtain ⟨above, habove, hrootFind⟩ :=
      (Schema.mem_ancestors_iff (schema_acyclic haccepted) hstored).1 (List.mem_of_getLast? hlast)
    have hname : root.name = above := hstored above root hrootFind
    obtain ⟨⟨root', hroot', hrootElement⟩, key', rootKey, hkey', hrootKey, htypes⟩ :=
      schema_keyType_above haccepted habove
    cases hroot'.symm.trans hrootFind
    cases hkey'.symm.trans (Schema.keyOf?_eq_some_iff.2 ⟨table, hfind, hkey⟩)
    obtain ⟨root'', hroot'', hrootKey⟩ := Schema.keyOf?_eq_some_iff.1 hrootKey
    cases hroot''.symm.trans hrootFind
    refine ⟨root, rootKey, hname.symm ▸ hrootFind, hrootElement, hrootKey, htypes,
      fun backend hbackend => ?_⟩
    simp only [Backend.keyField?, hbackend, hlast]

/-- The key field of an element's table has the Java type of the table's own key. -/
theorem exists_keyField (haccepted : diagram.schema = .ok schema) {name : String} {table : Table}
    (hfind : schema.table? name = some table) (helement : table.isJoin = false)
    {key : Column} (hkey : table.primaryKey? = some key) (project : JavaProject)
    (written enums : List String) :
    ∃ field, (Backend.restricted schema project written enums).keyField? name = some field ∧
      field.javaType = key.javaType := by
  obtain ⟨root, rootKey, hrootFind, hrootElement, hrootKey, htypes, hfield⟩ :=
    exists_root haccepted hfind helement hkey
  obtain ⟨entity, hentity, rfl, hkeys⟩ := Schema.exists_entity (schema_storedByName haccepted)
    hrootFind (schema.tables.names.filter fun name => written.contains name)
  obtain ⟨field, hown, htype⟩ := Entity.ownKey?_eq hrootElement hkeys hrootKey
  refine ⟨field, ?_, htype.trans htypes.javaType.symm⟩
  rw [hfield _ rfl, show (Backend.restricted schema project written enums).entity?
    entity.table.name = some entity from hentity, Option.bind_some, hown]

/-- References have the types of the keys that they lead to, and these are the Java types that the
key fields of the entities have. -/
theorem schema_referenceTypes (haccepted : diagram.schema = .ok schema) :
    schema.KeysAgree ∧ ∀ (project : JavaProject) (written enums : List String) name table,
      schema.table? name = some table → table.isJoin = false →
        ∃ field key,
          (Backend.restricted schema project written enums).keyField? name = some field ∧
          table.primaryKey? = some key ∧ field.javaType = key.javaType ∧
          ∀ other owner, schema.table? other = some owner → ∀ column ∈ owner.columns,
            ∀ reference, column.references = some reference → reference.table = name →
              field.javaType = column.javaType := by
  have hsound := sound_of_schema haccepted
  refine ⟨hsound.types, fun project written enums name table hfind helement => ?_⟩
  obtain ⟨key, hkey⟩ := hsound.exists_primaryKey hfind
  obtain ⟨field, hfield, htype⟩ :=
    exists_keyField haccepted hfind helement hkey project written enums
  refine ⟨field, key, hfield, hkey, htype, ?_⟩
  intro other owner howner column hmem reference hreference hname
  obtain ⟨target, targetKey, htarget, -, htargetKey, -, htypes⟩ :=
    hsound.types other owner howner column hmem reference hreference
  rw [hname] at htarget
  cases htarget.symm.trans hfind
  cases htargetKey.symm.trans hkey
  exact htype.trans htypes.javaType.symm

/-- The staff of the shop have the keys of the users, whose type is not the usual one. -/
theorem schema_referenceTypes_shop :
    shop.draft.schema.KeysAgree ∧ ∃ field,
      (Backend.full shop.draft.schema
        { basePackage := "com.example.demo", name := "demo" }).keyField? "staff" = some field ∧
      field.javaType = "UUID" := by
  have hstaff : ((shop.draft.schema.table? "staff").map fun table =>
      (table.isJoin, table.primaryKey?.map Column.javaType)) = some (false, some "UUID") := by
    decide +kernel
  obtain ⟨table, hfind, hshape⟩ := Option.map_eq_some_iff.1 hstaff
  rw [Prod.mk.injEq] at hshape
  obtain ⟨hagree, hfields⟩ := schema_referenceTypes shop_schema
  obtain ⟨field, key, hfield, hkey, htype, -⟩ := hfields
    { basePackage := "com.example.demo", name := "demo" } shop.draft.schema.tables.names
    shop.draft.schema.enums.names "staff" table hfind hshape.1
  rw [hkey, Option.map_some, Option.some.injEq] at hshape
  exact ⟨hagree, field, hfield, htype.trans hshape.2⟩

end ClassDiagram.Diagram
