import ClassDiagram.Java.TransferObject
import ClassDiagram.Proofs.Derivation.ReferenceTypes
import ClassDiagram.Proofs.Java.Files
import ClassDiagram.Proofs.Java.ForeignKeyFields
import ClassDiagram.Proofs.Java.SourceLines

/-!
# Declared accessors

A class declares a getter and a setter for each of its fields. An entity class leaves the key to the
root of the hierarchy, whose class declares it for all entities below. A transfer object declares
what it exchanges with an entity under the name and with the type that the entity, or the entity at
the other end of an association, has for it.
-/

namespace ClassDiagram

/-- The class declares the getter and the setter of a property. -/
def Declares (source : String) (property : Property) : Prop :=
  HasLines source (property.accessors.map indent)

theorem declares_sourceFile {properties : List Property} {property : Property}
    (hmem : property ∈ properties) {body : List String}
    (hbody : properties.flatMap Property.accessors <:+: body) (package : String)
    (imports annotations : List String) (head : String) :
    Declares (sourceFile package imports (annotations ++ block head body)) property := by
  have haccessors : property.accessors <:+: properties.flatMap Property.accessors :=
    List.infix_of_mem_flatten (List.mem_map_of_mem hmem)
  have hclass : property.accessors.map indent <:+: block head body :=
    map_indent_infix_block (haccessors.trans hbody) head
  apply hasLines_sourceFile
  exact hclass.trans (List.suffix_append annotations _).isInfix

namespace Backend

theorem declares_entityClass (backend : Backend) {entity : Entity} {field : Field}
    (hmem : field ∈ entity.declaredFields) :
    Declares (backend.entityClass entity) field.property := by
  have hproperty : field.property ∈ entity.declaredFields.map Field.property :=
    List.mem_map_of_mem hmem
  apply declares_sourceFile hproperty
  rw [List.flatMap_map]
  exact List.infix_append _ _ _

theorem declares_transferClass (backend : Backend) {entity : Entity} {field : TransferField}
    (hmem : field ∈ backend.transferFields entity) :
    Declares (backend.transferClass entity) field.property := by
  have hproperty : field.property ∈ (backend.transferFields entity).map TransferField.property :=
    List.mem_map_of_mem hmem
  exact declares_sourceFile hproperty (List.suffix_append _ _).isInfix _ _ [] _

/-- The class of a table's entity or of one above it declares the accessors of a property. -/
def LineageDeclares (backend : Backend) (table : String) (property : Property) : Prop :=
  ∃ member ∈ backend.lineage table, Declares (backend.entityClass member) property

end Backend

/-! ## The root of a hierarchy -/

namespace Schema

/-- The table at the top of the hierarchy of a table. -/
def rootName (schema : Schema) (name : String) : String :=
  ((schema.ancestors name).getLast?.map Table.name).getD name

variable {schema : Schema} {name : String}

/-- A table without ancestors names no parent. -/
theorem KeepsRules.parent_eq_none (hrules : schema.KeepsRules) (hacyclic : schema.Acyclic)
    {table : Table} (hfind : schema.table? name = some table) (hnone : schema.ancestors name = []) :
    table.parent = none := by
  cases hparent : table.parent with
  | none => rfl
  | some above =>
    obtain ⟨parent, habove⟩ :=
      Catalog.mem_names_iff.1 ((hrules.tables name table hfind).parent above hparent)
    rw [ancestors_eq_cons hacyclic hrules.storedByName
      (hasParent_iff.2 ⟨table, hfind, hparent⟩) habove] at hnone
    cases hnone

theorem KeepsRules.exists_root (hrules : schema.KeepsRules) (hacyclic : schema.Acyclic)
    (hname : name ∈ schema.tables.names) :
    ∃ root, schema.table? (schema.rootName name) = some root ∧ root.parent = none := by
  rw [rootName]
  cases hlast : (schema.ancestors name).getLast? with
  | none =>
    obtain ⟨table, hfind⟩ := Catalog.mem_names_iff.1 hname
    have hnone : schema.ancestors name = [] := List.getLast?_eq_none_iff.1 hlast
    exact ⟨table, hfind, hrules.parent_eq_none hacyclic hfind hnone⟩
  | some root =>
    obtain ⟨above, -, hfind⟩ :=
      (mem_ancestors_iff hacyclic hrules.storedByName).1 (List.mem_of_getLast? hlast)
    obtain rfl : root.name = above := hrules.storedByName above root hfind
    have hnone : schema.ancestors root.name = [] :=
      (ascent_ancestors hacyclic hrules.storedByName name).ancestors_getLast hacyclic
        hrules.storedByName hlast
    exact ⟨root, hfind, hrules.parent_eq_none hacyclic hfind hnone⟩

end Schema

namespace Entity

variable {entity : Entity} {field : Field}

theorem mem_declaredFields_of_ownKey? (hroot : entity.table.parent = none)
    (hkey : entity.ownKey? = some field) : field ∈ entity.declaredFields := by
  have hmem : field ∈ entity.fields := by
    rw [ownKey?] at hkey
    split at hkey
    · cases hkey
    · exact List.mem_of_find?_eq_some hkey
  exact List.mem_filter.2 ⟨hmem, by simp [parentType?, hroot]⟩

theorem mem_declaredFields_of_isKey_eq_false (hmem : field ∈ entity.fields)
    (hkey : field.isKey = false) : field ∈ entity.declaredFields :=
  List.mem_filter.2 ⟨hmem, by simp [hkey]⟩

end Entity

/-! ## Members of a lineage -/

namespace Backend

variable {backend : Backend} {name : String} {entity : Entity}

theorem keyField?_eq (backend : Backend) (name : String) :
    backend.keyField? name =
      (backend.entity? (backend.schema.rootName name)).bind Entity.ownKey? := by
  rw [keyField?, Schema.rootName]
  cases (backend.schema.ancestors name).getLast? <;> rfl

theorem mem_lineage_root (hfind : backend.entity? (backend.schema.rootName name) = some entity) :
    entity ∈ backend.lineage name := by
  rw [Schema.rootName] at hfind
  cases hlast : (backend.schema.ancestors name).getLast? with
  | none =>
    rw [hlast] at hfind
    exact List.mem_append_right _ (Option.mem_toList.2 hfind)
  | some root =>
    rw [hlast] at hfind
    have hroot : root ∈ (backend.schema.ancestors name).reverse :=
      List.mem_reverse.2 (List.mem_of_getLast? hlast)
    exact List.mem_append_left _ (List.mem_filterMap.2 ⟨root, hroot, hfind⟩)

theorem exists_entity?_of_mem_lineage (hmem : entity ∈ backend.lineage name) :
    ∃ member, backend.entity? member = some entity := by
  rcases List.mem_append.1 hmem with habove | hself
  · obtain ⟨ancestor, -, hfind⟩ := List.mem_filterMap.1 habove
    exact ⟨ancestor.name, hfind⟩
  · exact ⟨name, Option.mem_toList.1 hself⟩

/-- The backend shows the entities of an accepted diagram, whichever tables it writes classes
for. -/
structure Shows (backend : Backend) (diagram : Diagram) : Prop where
  accepted : diagram.schema = .ok backend.schema
  entities : ∃ written, backend.entities = backend.schema.entities written

variable {diagram : Diagram}

/-- The key is declared at the top of the hierarchy. -/
theorem Shows.lineageDeclares_key (hshows : backend.Shows diagram)
    (hname : name ∈ backend.schema.tables.names) {key : Field}
    (hkey : backend.keyField? name = some key) :
    backend.LineageDeclares name key.property := by
  have hrules := (Diagram.sound_of_schema hshows.accepted).rules
  obtain ⟨root, hfind, hparent⟩ :=
    hrules.exists_root (Diagram.schema_acyclic hshows.accepted) hname
  rw [keyField?_eq, Option.bind_eq_some_iff] at hkey
  obtain ⟨entity, hentity, hown⟩ := hkey
  obtain ⟨written, hwritten⟩ := hshows.entities
  obtain ⟨other, hother, rfl, -⟩ := Schema.exists_entity hrules.storedByName hfind written
  obtain rfl : entity = other := by
    rw [entity?, hwritten, hother] at hentity
    exact (Option.some.inj hentity).symm
  have hdeclared : key ∈ entity.declaredFields := Entity.mem_declaredFields_of_ownKey? hparent hown
  exact ⟨entity, mem_lineage_root hentity, backend.declares_entityClass hdeclared⟩

/-! ## What is exchanged -/

/-- The entities declare what is exchanged with one field of a transfer object: the value itself,
or an association and the key of what it leads to. A repository finds the target by such a key. -/
def Exchanges (backend : Backend) (table : String) (field : TransferField) : Prop :=
  match field.reference with
  | none => backend.LineageDeclares table field.property
  | some reference => ∃ target, reference.targetType = typeName target ∧
      backend.LineageDeclares table { name := reference.field, javaType := typeName target } ∧
      backend.LineageDeclares target { name := reference.targetKey, javaType := field.javaType } ∧
      backend.keyType target = field.javaType

/-- A key in place of an association may have another name in the transfer object. -/
theorem Exchanges.rename {field : TransferField} (hexchanges : backend.Exchanges name field)
    (hreference : field.reference.isSome) (newName : String) :
    backend.Exchanges name { field with name := newName } := by
  obtain ⟨reference, hsome⟩ := Option.isSome_iff_exists.1 hreference
  simp only [Exchanges, hsome] at hexchanges ⊢
  exact hexchanges

/-- What a field of an entity contributes to the transfer objects of the entities below. -/
theorem Shows.exchanges_of_transferField? (hshows : backend.Shows diagram)
    (hmember : entity ∈ backend.lineage name) {field : Field} (hfield : field ∈ entity.fields)
    {transfer : TransferField} (htransfer : backend.transferField? field = some transfer) :
    backend.Exchanges name transfer := by
  have hdeclared : field.isKey = false → backend.LineageDeclares name field.property :=
    fun hplain => ⟨entity, hmember, backend.declares_entityClass
      (Entity.mem_declaredFields_of_isKey_eq_false hfield hplain)⟩
  -- an association has the type of its target, and the root above the target declares the key
  have hassociation : ∀ column target, field.isKey = false →
      field.foreignKey? = some (column, target) →
      backend.flattened? field target = some transfer → backend.Exchanges name transfer := by
    intro column target hplain hforeign hflattened
    obtain ⟨member, hfind⟩ := exists_entity?_of_mem_lineage hmember
    obtain ⟨written, hwritten⟩ := hshows.entities
    rw [entity?, hwritten] at hfind
    obtain ⟨htype, htarget⟩ :=
      (Diagram.sound_of_schema hshows.accepted).rules.foreignKey? hfind hfield hforeign
    obtain ⟨key, hkey, rfl⟩ := Option.map_eq_some_iff.1 hflattened
    have htyped : backend.LineageDeclares name { name := field.name, javaType := typeName target } :=
      htype ▸ hdeclared hplain
    have hkeyType : backend.keyType target = key.javaType := by
      rw [keyType, hkey]
      rfl
    exact ⟨target, rfl, htyped, hshows.lineageDeclares_key htarget hkey, hkeyType⟩
  rw [transferField?] at htransfer
  split at htransfer
  · rename_i hkind
    cases htransfer
    exact hdeclared (by rw [Field.isKey, hkind])
  · rename_i column target nullable hkind
    exact hassociation column target (by rw [Field.isKey, hkind])
      (by rw [Field.foreignKey?, hkind]) htransfer
  · rename_i column target nullable hkind
    exact hassociation column target (by rw [Field.isKey, hkind])
      (by rw [Field.foreignKey?, hkind]) htransfer
  · cases htransfer

end Backend

theorem mem_renameReferences {fields : List TransferField} {taken : List String}
    {field : TransferField} (hmem : field ∈ renameReferences taken fields) :
    field ∈ fields ∨ ∃ original ∈ fields, original.reference.isSome ∧
      ∃ name, field = { original with name } := by
  induction fields generalizing taken with
  | nil => cases hmem
  | cons first rest ih =>
    have hrest {taken : List String} (hmem : field ∈ renameReferences taken rest) :
        field ∈ first :: rest ∨ ∃ original ∈ first :: rest, original.reference.isSome ∧
          ∃ name, field = { original with name } := by
      rcases ih hmem with hsame | ⟨original, horiginal, hrenamed⟩
      · exact .inl (List.mem_cons_of_mem _ hsame)
      · exact .inr ⟨original, List.mem_cons_of_mem _ horiginal, hrenamed⟩
    rw [renameReferences] at hmem
    split at hmem
    · rcases List.mem_cons.1 hmem with rfl | hmem
      · exact .inl List.mem_cons_self
      · exact hrest hmem
    · rename_i hreference
      rcases List.mem_cons.1 hmem with heq | hmem
      · exact .inr ⟨first, List.mem_cons_self, by rw [hreference]; rfl, _, heq⟩
      · exact hrest hmem

/-- Every field of a transfer object is exchanged with something that the entities declare. -/
theorem Backend.Shows.exchanges {backend : Backend} {diagram : Diagram}
    (hshows : backend.Shows diagram) {entity : Entity}
    (hname : entity.table.name ∈ backend.schema.tables.names) {field : TransferField}
    (hmem : field ∈ backend.transferFields entity) :
    backend.Exchanges entity.table.name field := by
  have hfields : ∀ original ∈ (backend.keyField? entity.table.name).toList.map plainField ++
      (backend.lineage entity.table.name).flatMap fun member =>
        member.fields.filterMap backend.transferField?,
      backend.Exchanges entity.table.name original := by
    intro original horiginal
    rcases List.mem_append.1 horiginal with hplain | hmember
    · obtain ⟨key, hkey, rfl⟩ := List.mem_map.1 hplain
      exact hshows.lineageDeclares_key hname (Option.mem_toList.1 hkey)
    · obtain ⟨member, hmember, htransfer⟩ := List.mem_flatMap.1 hmember
      obtain ⟨own, hown, htransfer⟩ := List.mem_filterMap.1 htransfer
      exact hshows.exchanges_of_transferField? hmember hown htransfer
  rcases mem_renameReferences hmem with hsame | ⟨original, horiginal, hreference, newName, rfl⟩
  · exact hfields field hsame
  · exact (hfields original horiginal).rename hreference newName

end ClassDiagram
