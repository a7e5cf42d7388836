import ClassDiagram.Proofs.Derivation.ColumnTypes
import ClassDiagram.Proofs.Derivation.Enumerations
import ClassDiagram.Proofs.Derivation.Regularity
import ClassDiagram.Proofs.Java.InheritedNames
import ClassDiagram.Proofs.Java.SourceLines

/-!
# Scalar fields and enumerations

An entity has a scalar field for every column of its table that is no key and refers to nothing. In
a derived schema such a column comes from an attribute, whose type word names an enumeration or is
one of the vocabulary. The entity asks once more whether the Java type of the column is that of an
enumeration, and words of the vocabulary may have the Java type that an enumeration is named after.
-/

namespace ClassDiagram

/-! ## Scalar fields of a table -/

/-- The field holds the value of a column, which is neither a key nor an association. -/
def Field.isScalar (field : Field) : Bool :=
  match field.kind with
  | .scalar .. => true
  | _ => false

/-- The Java types and the kinds of the scalar fields. -/
def scalarFields (fields : List Field) : List (String × FieldKind) :=
  (fields.filter Field.isScalar).map fun field => (field.javaType, field.kind)

/-- The scalar field that a column gives. -/
def Column.scalarField? (schema : Schema) (column : Column) : Option (String × FieldKind) :=
  if column.primaryKey || column.references.isSome then none
  else some (column.javaType, .scalar column.name column.nullable column.unique
    (schema.enums.contains column.javaType))

theorem Column.scalarField?_eq_some_iff {schema : Schema} {column : Column} {javaType : String}
    {kind : FieldKind} :
    column.scalarField? schema = some (javaType, kind) ↔
      column.primaryKey = false ∧ column.references = none ∧ column.javaType = javaType ∧
        .scalar column.name column.nullable column.unique
          (schema.enums.contains column.javaType) = kind := by
  rw [scalarField?]
  cases column.primaryKey <;> cases column.references <;> simp

theorem mem_scalarFields_iff {fields : List Field} {javaType column : String}
    {nullable unique enumerated : Bool} :
    (javaType, .scalar column nullable unique enumerated) ∈ scalarFields fields ↔
      ∃ field ∈ fields, field.javaType = javaType ∧
        field.kind = .scalar column nullable unique enumerated := by
  simp only [scalarFields, List.mem_map, List.mem_filter, Prod.mk.injEq, and_assoc]
  apply exists_congr
  intro field
  apply and_congr_right
  intro _
  constructor
  · rintro ⟨-, htype, hkind⟩
    exact ⟨htype, hkind⟩
  · rintro ⟨htype, hkind⟩
    exact ⟨by rw [Field.isScalar, hkind], htype, hkind⟩

namespace FieldDraft

theorem scalarFields_add (draft : FieldDraft) (candidates : List String) (javaType : String)
    (kind : FieldKind) : scalarFields (draft.add candidates javaType kind).fields =
      scalarFields draft.fields ++
        scalarFields [{ name := freshAmong candidates draft.taken, javaType, kind }] := by
  rw [fields_add, scalarFields, List.filter_append, List.map_append]
  rfl

/-- A column gives one scalar field if it is no key and refers to nothing, and none otherwise. -/
theorem scalarFields_addColumn (schema : Schema) (table : Table) (draft : FieldDraft)
    (column : Column) : scalarFields (draft.addColumn schema table column).fields =
      scalarFields draft.fields ++ (column.scalarField? schema).toList := by
  have hnone : ∀ {kind : FieldKind} {candidates : List String} {javaType : String}
      {draft : FieldDraft}, (∀ name, Field.isScalar { name, javaType, kind } = false) →
        scalarFields (draft.add candidates javaType kind).fields = scalarFields draft.fields := by
    intro kind candidates javaType draft hother
    rw [scalarFields_add, scalarFields, scalarFields, List.filter_cons_of_neg (by simp [hother]),
      List.filter_nil, List.map_nil, List.append_nil]
  cases hreferences : column.references with
  | none =>
    cases hkey : column.primaryKey with
    | true =>
      simp only [addColumn, hreferences, hkey, Column.scalarField?]
      simpa using hnone fun _ => rfl
    | false =>
      simp only [addColumn, hreferences, hkey, Column.scalarField?]
      exact scalarFields_add _ _ _ _
  | some reference =>
    have hcolumn : (column.scalarField? schema).toList = [] := by
      simp [Column.scalarField?, hreferences]
    rw [hcolumn, List.append_nil]
    cases hkey : column.primaryKey with
    | true =>
      simp only [addColumn, hreferences, hkey]
      split
      · exact (hnone fun _ => rfl).trans (hnone fun _ => rfl)
      · exact hnone fun _ => rfl
    | false =>
      simp only [addColumn, hreferences, hkey]
      cases column.unique <;> exact hnone fun _ => rfl

end FieldDraft

theorem scalarFields_columnFields (schema : Schema) (drafts : Catalog FieldDraft) (table : Table) :
    scalarFields (columnFields schema drafts table).fields =
      table.columns.filterMap (Column.scalarField? schema) := by
  suffices hfold : ∀ (columns : List Column) (draft : FieldDraft),
      scalarFields (columns.foldl (FieldDraft.addColumn schema table) draft).fields =
        scalarFields draft.fields ++ columns.filterMap (Column.scalarField? schema) from
    hfold table.columns _
  intro columns
  induction columns with
  | nil => simp
  | cons column rest ih =>
    intro draft
    rw [List.foldl_cons, ih, FieldDraft.scalarFields_addColumn, List.append_assoc]
    cases hcolumn : column.scalarField? schema <;> simp [hcolumn]

/-- The entity of a table has the scalar fields of its columns. What it gains besides is none. -/
theorem Schema.exists_entity_scalarFields {schema : Schema} (hacyclic : schema.Acyclic)
    (hstored : schema.StoredByName) {table : Table}
    (hfind : schema.table? table.name = some table) (written : List String) :
    ∃ entity, (schema.entities written).find? table.name = some entity ∧ entity.table = table ∧
      scalarFields entity.fields = table.columns.filterMap (Column.scalarField? schema) := by
  obtain ⟨entity, gained, hentity, htable, hfields, hgained⟩ :=
    exists_entity_fields hacyclic hstored hfind written
  refine ⟨entity, hentity, htable, ?_⟩
  have hnone : gained.filter Field.isScalar = [] := by
    rw [List.filter_eq_nil_iff]
    intro field hfield hscalar
    have hown := hgained field hfield
    rw [Field.isScalar] at hscalar
    split at hscalar
    · rename_i hkind
      rw [hkind] at hown
      cases hown
    · cases hscalar
  rw [hfields, scalarFields, List.filter_append, hnone, List.append_nil]
  exact scalarFields_columnFields schema _ table

/-! ## Columns of attributes -/

namespace Diagram

variable {diagram : Diagram} {schema : Schema}

/-- The columns of the table that are no keys and refer to nothing are those of attributes. -/
def HasPlainColumns (diagram : Diagram) (table : Table) : Prop :=
  ∀ column ∈ table.columns, column.primaryKey = false → column.references = none →
    ∃ element ∈ diagram.storedElements, element.storedName = table.name ∧
      ∃ typed ∈ diagram.attributesOf element, column = typed.plain

theorem hasPlainColumns_keptByAdditions : KeptByAdditions diagram.HasPlainColumns where
  foreignKey := by
    intro owner referenced key helement howner hreferenced hkey nullable unique column hcolumn
    rcases List.mem_append.1 hcolumn with hold | hnew
    · exact howner column hold
    · intro _ hreference
      rw [List.mem_singleton.1 hnew] at hreference
      cases hreference
  joinTable := by
    intro first second firstKey secondKey _ _ _ _ taken column hcolumn hplain
    rw [joinTableOf, List.mem_cons, List.mem_singleton] at hcolumn
    rcases hcolumn with rfl | rfl
    · cases hplain
    · cases hplain

theorem hasPlainColumns_linkedTable {element : Element}
    (helement : element ∈ diagram.storedElements) :
    diagram.HasPlainColumns (diagram.linkedTable element) := by
  intro column hcolumn hplain _
  rw [columns_linkedTable] at hcolumn
  rcases mem_declaredColumns_cases hcolumn with rfl | ⟨typed, htyped, primaryKey, rfl⟩
  · cases hplain
  · obtain rfl : primaryKey = false := hplain
    exact ⟨element, helement, rfl, typed, htyped, rfl⟩

theorem hasPlainColumns_of_schema (haccepted : diagram.schema = .ok schema) :
    schema.AllTables diagram.HasPlainColumns := by
  refine allTables_of_elements haccepted hasPlainColumns_keptByAdditions
    (fun _ helement => hasPlainColumns_linkedTable helement) ?_
  intro child hchild _ above parent parentKey rootKey
  exact Table.forall_mem_columns_fitTo hchild fun key _ hkey hplain => by
    cases hkey.symm.trans hplain

/-- The attributes that an element neither inherits nor has as its key keep their columns. -/
theorem mem_columns_of_declared (haccepted : diagram.schema = .ok schema) {element : Element}
    (helement : element ∈ diagram.storedElements) {table : Table}
    (hfind : schema.table? element.storedName = some table) {column : Column}
    (hcolumn : column ∈ attributeColumns element.storedName (diagram.attributesOf element))
    (hplain : column.primaryKey = false) (hown : ¬ diagram.Inherits element column.name) :
    column ∈ table.columns := by
  obtain ⟨-, found, inherited, own, foreignKeys, hfound, hcolumns, hinherited, hkept, -⟩ :=
    columns_of_schema haccepted helement
  obtain rfl : found = table := Option.some.inj (hfound.symm.trans hfind)
  have hdeclared : column ∈ diagram.declaredColumns element := by
    rw [declaredColumns]
    split
    · exact hcolumn
    · exact List.mem_cons_of_mem _ hcolumn
  obtain ⟨kept, hmem, hrelated⟩ := exists_result_of_forall₂ hkept column
    (List.mem_filter.2 ⟨hdeclared, by simpa [hplain, hinherited] using hown⟩)
  rw [KeptAs, hplain, if_neg Bool.false_ne_true] at hrelated
  rw [hcolumns, ← hrelated]
  exact List.mem_append_left _ hmem

/-! ## Types of attributes -/

theorem contains_enums_iff (haccepted : diagram.schema = .ok schema) {name : String} :
    schema.enums.contains name = true ↔ diagram.NamesEnum name := by
  have hstored := enumsStoredByName_of_schema haccepted
  rw [Catalog.contains_iff, Catalog.names, List.mem_map, ← exists_enumType_iff haccepted,
    Catalog.values]
  constructor
  · rintro ⟨entry, hentry, rfl⟩
    exact ⟨entry.2, List.mem_map_of_mem hentry, hstored entry hentry⟩
  · rintro ⟨enumType, henum, rfl⟩
    obtain ⟨entry, hentry, rfl⟩ := List.mem_map.1 henum
    exact ⟨entry, hentry, (hstored entry hentry).symm⟩

theorem typing?_of_mem_attributesOf {element : Element} {typed : TypedAttribute}
    (htyped : typed ∈ diagram.attributesOf element) :
    diagram.typing? typed.1.typeToken = some typed.2 := by
  obtain ⟨declaration, -, hread⟩ := List.mem_filterMap.1 htyped
  obtain ⟨declared, -, htyping⟩ := Option.bind_eq_some_iff.1 hread
  obtain ⟨typing, hfound, heq⟩ := Option.bind_eq_some_iff.1 htyping
  cases heq
  exact hfound

/-- No word of the vocabulary stands for what an enumeration stands for. -/
theorem ne_ofEnum_of_typing? {word : String} {typing : Typing}
    (htyping : ClassDiagram.typing? word = some typing) (name : String) :
    typing ≠ Typing.ofEnum name := by
  have hlisted : ∀ entry ∈ primitiveTypings ++ referenceTypings,
      entry.2.sqlType ≠ (Typing.ofEnum "").sqlType := by
    decide
  rintro rfl
  exact hlisted _ (entry_of_typing? htyping) rfl

section Typing

variable {element : Element} {typed : TypedAttribute}

theorem eq_ofEnum_iff_namesEnum (htyped : typed ∈ diagram.attributesOf element) :
    typed.2 = Typing.ofEnum typed.1.typeToken ↔ diagram.NamesEnum typed.1.typeToken := by
  have htyping := typing?_of_mem_attributesOf htyped
  rw [typing?] at htyping
  split at htyping
  · rename_i hnames
    exact iff_of_true (Option.some.inj htyping).symm hnames
  · rename_i hother
    exact iff_of_false (ne_ofEnum_of_typing? htyping _) hother

/-- The Java type of an attribute is that of an enumeration if its type word names one, or if the
vocabulary gives that word the Java type which an enumeration is named after. -/
theorem namesEnum_javaType_iff (htyped : typed ∈ diagram.attributesOf element) :
    diagram.NamesEnum typed.2.javaType ↔ diagram.NamesEnum typed.1.typeToken ∨
      ∃ typing, ClassDiagram.typing? typed.1.typeToken = some typing ∧
        diagram.NamesEnum typing.javaType := by
  have htyping := typing?_of_mem_attributesOf htyped
  rw [typing?] at htyping
  split at htyping
  · rename_i hnames
    obtain heq : Typing.ofEnum typed.1.typeToken = typed.2 := Option.some.inj htyping
    exact iff_of_true (heq ▸ hnames) (.inl hnames)
  · rename_i hother
    rw [htyping, or_iff_right hother]
    simp

end Typing

end Diagram

/-! ## Imports -/

namespace Backend

theorem enums_infix_qualified (backend : Backend) (javaType : String) :
    ".enums.".toList <:+: (backend.qualified "enums" javaType).toList := by
  refine ⟨backend.project.basePackage.toList, javaType.toList, ?_⟩
  rw [← String.toList_append, ← String.toList_append, qualified, JavaProject.package]
  simp only [String.append_assoc]
  rfl

theorem qualified_injective (backend : Backend) (layer : String) :
    Function.Injective (backend.qualified layer) := by
  intro left right heq
  have hlists := congrArg String.toList heq
  simp only [qualified, String.toList_append, List.append_cancel_left_eq] at hlists
  exact String.toList_injective hlists

/-- The enumeration of a Java type is imported for that type only, and not even for that if the
vocabulary has an import, which goes first. -/
theorem qualified_enums_mem_importsOf_iff (backend : Backend) (javaType other : String) :
    backend.qualified "enums" javaType ∈ backend.importsOf other ↔
      other = javaType ∧ backend.isEnum javaType = true ∧ importOf? javaType = none := by
  cases himport : importOf? other with
  | none =>
    have himports : backend.importsOf other =
        if backend.isEnum other then [backend.qualified "enums" other] else [] := by
      rw [importsOf, himport]
    constructor
    · intro hmem
      rw [himports] at hmem
      split at hmem
      · obtain rfl := backend.qualified_injective _ (List.mem_singleton.1 hmem)
        exact ⟨rfl, ‹_›, himport⟩
      · cases hmem
    · rintro ⟨rfl, henum, -⟩
      rw [himports, if_pos henum]
      exact List.mem_singleton_self _
  | some qualified =>
    have hother : backend.qualified "enums" javaType ≠ qualified := by
      intro heq
      have hcontained := heq ▸ backend.enums_infix_qualified javaType
      unfold importOf? at himport
      split at himport <;> cases himport <;> revert hcontained <;> decide
    rw [importsOf, himport, List.mem_singleton]
    refine iff_of_false hother ?_
    rintro ⟨rfl, -, hnone⟩
    rw [himport] at hnone
    cases hnone

/-- An entity class has an import line for the enumeration of one of its fields if that field needs
the import. -/
theorem importLine_enums_mem_iff (backend : Backend) {entity : Entity} {field : Field}
    (hmem : field ∈ entity.declaredFields) :
    importLine (backend.qualified "enums" field.javaType) ∈ backend.entityLines entity ↔
      backend.isEnum field.javaType = true ∧ importOf? field.javaType = none := by
  have hfixed (fixed : String) (hlacks : ¬ ".enums.".toList <:+: fixed.toList) :
      backend.qualified "enums" field.javaType ≠ fixed :=
    fun heq => hlacks (heq ▸ backend.enums_infix_qualified field.javaType)
  rw [importLine_mem_entityLines_iff, entityImports]
  constructor
  · intro himport
    simp only [List.cons_append, List.mem_cons, List.mem_append, List.mem_flatMap] at himport
    rcases himport with hpersistence | ⟨other, hother, himports⟩ | hkeyClass
    · exact absurd hpersistence (hfixed _ (by decide))
    · simp only [fieldImports, List.mem_append] at himports
      rcases himports with (harrays | hlists) | himports
      · split at harrays
        · exact absurd (List.mem_singleton.1 harrays) (hfixed _ (by decide))
        · cases harrays
      · split at hlists
        · exact absurd (List.mem_singleton.1 hlists) (hfixed _ (by decide))
        · cases hlists
      · exact ((backend.qualified_enums_mem_importsOf_iff _ _).1 himports).2
    · split at hkeyClass
      · rw [keyClassImports, List.mem_cons, List.mem_singleton] at hkeyClass
        rcases hkeyClass with hserial | hobjects
        · exact absurd hserial (hfixed _ (by decide))
        · exact absurd hobjects (hfixed _ (by decide))
      · cases hkeyClass
  · intro henum
    have himports := (backend.qualified_enums_mem_importsOf_iff _ _).2 ⟨rfl, henum⟩
    refine List.mem_append_left _ (List.mem_cons_of_mem _ (List.mem_flatMap.2 ⟨field, hmem, ?_⟩))
    exact List.mem_append_right _ himports

end Backend

/-- The source of a class has a scalar field below the annotation of its column, and above that the
mark of an enumeration if the field is marked. The enumeration of a marked field is imported unless
the vocabulary has an import for its Java type. -/
structure Backend.WritesScalar (backend : Backend) (entity : Entity) (field : Field)
    (column : String) (nullable unique enumerated : Bool) : Prop where
  source : backend.entityClass entity = unlines (backend.entityLines entity)
  lines : ("" :: (if enumerated then ["    @Enumerated(EnumType.STRING)"] else []) ++
    ["    @Column(" ++ columnSettings column nullable unique ++ ")", field.line]) <:+:
      backend.entityLines entity
  imported : importLine (backend.qualified "enums" field.javaType) ∈ backend.entityLines entity ↔
    enumerated = true ∧ importOf? field.javaType = none

theorem Backend.writesScalar (backend : Backend) {entity : Entity} {field : Field}
    (hmem : field ∈ entity.fields) {column : String} {nullable unique enumerated : Bool}
    (hkind : field.kind = .scalar column nullable unique enumerated)
    (hmarked : enumerated = backend.isEnum field.javaType) :
    backend.WritesScalar entity field column nullable unique enumerated := by
  have hdeclared : field ∈ entity.declaredFields :=
    List.mem_filter.2 ⟨hmem, by simp [Field.isKey, hkind]⟩
  have hcolumn : indent ("@Column(" ++ columnSettings column nullable unique ++ ")") =
      "    @Column(" ++ columnSettings column nullable unique ++ ")" := by
    apply String.toList_injective
    simp [indent]
  have hlines : field.lines =
      "" :: (if enumerated then ["    @Enumerated(EnumType.STRING)"] else []) ++
        ["    @Column(" ++ columnSettings column nullable unique ++ ")", field.line] := by
    have hmark : indent "@Enumerated(EnumType.STRING)" = "    @Enumerated(EnumType.STRING)" := by
      decide
    rw [Field.lines, hkind, FieldKind.annotations, List.map_append, List.map_singleton, hcolumn]
    cases enumerated with
    | false => rfl
    | true =>
      rw [if_pos rfl, if_pos rfl, List.map_singleton, hmark]
      rfl
  refine ⟨backend.entityClass_eq entity, hlines ▸ backend.lines_infix_entityLines hdeclared, ?_⟩
  rw [backend.importLine_enums_mem_iff hdeclared, hmarked]

/-! ## Entities of a diagram -/

namespace Diagram

variable {diagram : Diagram} {schema : Schema}

/-- A scalar field stands for an attribute. It is marked as an enumeration if its Java type is that
of one, whether or not the type word of the attribute names it. -/
structure ScalarOf (diagram : Diagram) (backend : Backend) (typed : TypedAttribute)
    (field : Field) (enumerated : Bool) : Prop where
  javaType : field.javaType = typed.2.javaType
  typing : typed.2 = Typing.ofEnum typed.1.typeToken ↔ diagram.NamesEnum typed.1.typeToken
  marked : enumerated = true ↔ diagram.NamesEnum typed.1.typeToken ∨
    ∃ typing, ClassDiagram.typing? typed.1.typeToken = some typing ∧
      diagram.NamesEnum typing.javaType
  imported : backend.qualified "enums" field.javaType ∈ backend.importsOf field.javaType ↔
    enumerated = true ∧ importOf? field.javaType = none

/-- Every scalar field of an entity stands for an attribute of the class, and every attribute that
the class neither inherits nor has as its key has such a field. Beside the attributes that are typed
by an enumeration, those are marked as one that the vocabulary gives a Java type of the same name. A
marked field imports the enumeration unless the vocabulary has an import for its Java type. The
source of the class has the marks and the imports. -/
theorem schema_enumeratedFields (haccepted : diagram.schema = .ok schema) (project : JavaProject)
    (tables enums : List String) :
    let backend := Backend.restricted schema project tables enums
    ∀ table ∈ schema.tables.values, ∃ entity, backend.entity? table.name = some entity ∧
      entity.table = table ∧
      (∀ field ∈ entity.fields, ∀ column nullable unique enumerated,
        field.kind = .scalar column nullable unique enumerated →
          backend.WritesScalar entity field column nullable unique enumerated ∧
          ∃ element ∈ diagram.storedElements, element.storedName = table.name ∧
            ∃ typed ∈ diagram.attributesOf element, typed.column = column ∧
              diagram.ScalarOf backend typed field enumerated) ∧
      ∀ element ∈ diagram.storedElements, element.storedName = table.name →
        ∀ column ∈ attributeColumns element.storedName (diagram.attributesOf element),
          column.primaryKey = false → ¬ diagram.Inherits element column.name →
            ∃ field ∈ entity.fields, ∃ enumerated,
              field.kind = .scalar column.name column.nullable column.unique enumerated := by
  intro backend table htable
  have hstored := schema_storedByName haccepted
  have hfind := (Schema.mem_values_iff_table? hstored).1 htable
  obtain ⟨entity, hentity, hown, hscalar⟩ :=
    Schema.exists_entity_scalarFields (schema_acyclic haccepted) hstored hfind backend.written
  refine ⟨entity, hentity, hown, ?_, ?_⟩
  · intro field hfield column nullable unique enumerated hkind
    have hmem : (field.javaType, .scalar column nullable unique enumerated) ∈
        scalarFields entity.fields := mem_scalarFields_iff.2 ⟨field, hfield, rfl, hkind⟩
    rw [hscalar, List.mem_filterMap] at hmem
    obtain ⟨source, hsource, hgives⟩ := hmem
    obtain ⟨hplain, hfree, htype, heq⟩ := Column.scalarField?_eq_some_iff.1 hgives
    obtain ⟨element, helement, hname, typed, htyped, rfl⟩ :=
      hasPlainColumns_of_schema haccepted _ table hfind source hsource hplain hfree
    obtain ⟨rfl, -, -, rfl⟩ := FieldKind.scalar.inj heq
    change typed.2.javaType = field.javaType at htype
    refine ⟨backend.writesScalar hfield hkind (congrArg backend.isEnum htype), element, helement,
      hname, typed, htyped, rfl, htype.symm, eq_ofEnum_iff_namesEnum htyped, ?_, ?_⟩
    · exact (contains_enums_iff haccepted).trans (namesEnum_javaType_iff htyped)
    · rw [← htype]
      exact (backend.qualified_enums_mem_importsOf_iff _ _).trans (and_iff_right rfl)
  · intro element helement hname column hcolumn hplain hinherits
    have hkept :=
      mem_columns_of_declared haccepted helement (hname ▸ hfind) hcolumn hplain hinherits
    have hgives : column.scalarField? schema = some _ := Column.scalarField?_eq_some_iff.2
      ⟨hplain, references_of_mem_attributeColumns hcolumn, rfl, rfl⟩
    have hmem := List.mem_filterMap.2 ⟨column, hkept, hgives⟩
    rw [← hscalar] at hmem
    obtain ⟨field, hfield, -, hkind⟩ := mem_scalarFields_iff.1 hmem
    exact ⟨field, hfield, _, hkind⟩

/-- The role of the staff is marked as an enumeration, and the enumeration is imported. -/
theorem schema_enumeratedFields_shop :
    let backend :=
      Backend.full shop.draft.schema { basePackage := "com.example.demo", name := "demo" }
    shop.schema = .ok shop.draft.schema ∧ shopStaff ∈ shop.storedElements ∧
      ∃ entity, backend.entity? shopStaff.storedName = some entity ∧
        ∃ field ∈ entity.fields, ∃ nullable unique,
          field.kind = .scalar "role" nullable unique true ∧
          backend.WritesScalar entity field "role" nullable unique true ∧
          backend.qualified "enums" field.javaType ∈ backend.importsOf field.javaType := by
  intro backend
  have hstaff : shopStaff ∈ shop.storedElements := by decide
  have hwell := joinedWellFormed_of_schema shop_schema
  obtain ⟨hrole, hroles⟩ :
      (∃ column ∈ attributeColumns shopStaff.storedName (shop.attributesOf shopStaff),
        column.primaryKey = false ∧ column.name = "role" ∧
          column.name ∉ inheritedNames (shop.linkedSchema.ancestors shopStaff.storedName)) ∧
      ∀ element ∈ shop.storedElements, ∀ typed ∈ shop.attributesOf element,
        typed.column = "role" →
          shop.NamesEnum typed.1.typeToken ∧ importOf? typed.2.javaType = none := by
    decide +kernel
  obtain ⟨column, hcolumn, hplain, hname, hinherited⟩ := hrole
  rw [mem_inheritedNames_ancestors_iff hwell] at hinherited
  obtain ⟨-, table, -, -, -, hfind, -⟩ := columns_of_schema shop_schema hstaff
  have hstored := schema_storedByName shop_schema _ table hfind
  obtain ⟨entity, hentity, -, hscalars, hfields⟩ := schema_enumeratedFields shop_schema
    { basePackage := "com.example.demo", name := "demo" } shop.draft.schema.tables.names
    shop.draft.schema.enums.names table (Catalog.mem_values_iff.2 ⟨_, hfind⟩)
  obtain ⟨field, hfield, enumerated, hkind⟩ :=
    hfields shopStaff hstaff hstored.symm column hcolumn hplain hinherited
  obtain ⟨hwrites, element, helement, -, typed, htyped, htypedColumn, hscalar⟩ :=
    hscalars field hfield _ _ _ _ hkind
  obtain ⟨hnames, himport⟩ := hroles element helement typed htyped (htypedColumn.trans hname)
  obtain rfl : enumerated = true := hscalar.marked.2 (.inl hnames)
  refine ⟨shop_schema, hstaff, entity, hstored ▸ hentity, field, hfield, _, _, hname ▸ hkind,
    hname ▸ hwrites, ?_⟩
  exact hscalar.imported.2 ⟨rfl, hscalar.javaType ▸ himport⟩

/-- A class with a text, beside an enumeration that has the name of a Java type. -/
def notes : Diagram where
  elements :=
    [{ id := "1"
       className := "String"
       attributes := ["A"]
       methods := []
       kind := .enumKind },
      { id := "2"
        className := "Note"
        attributes := ["body: Text"]
        methods := []
        kind := .classKind }]
  relationships := []

/-- The text is marked as an enumeration, which it was not declared as, and imports it. -/
theorem exists_enumerated_text :
    let backend :=
      Backend.full notes.draft.schema { basePackage := "com.example.demo", name := "demo" }
    notes.schema = .ok notes.draft.schema ∧ ¬ notes.NamesEnum "Text" ∧
      (∃ element ∈ notes.storedElements, element.storedName = "note" ∧
        ∃ typed ∈ notes.attributesOf element, typed.column = "body" ∧ typed.1.typeToken = "Text" ∧
          typed.2 ≠ Typing.ofEnum "Text") ∧
      ∃ entity, backend.entity? "note" = some entity ∧ ∃ field ∈ entity.fields,
        field.kind = .scalar "body" true false true ∧
          backend.importsOf field.javaType = ["com.example.demo.enums.String"] ∧
          HasLines (backend.entityClass entity) ["import com.example.demo.enums.String;"] ∧
          HasLines (backend.entityClass entity) ["    @Enumerated(EnumType.STRING)",
            "    @Column(name = \"body\")", "    private String body;"] := by
  intro backend
  obtain ⟨hfaults, hlists, hnames⟩ : notes.draft.faults = [] ∧
      notes.draft.schema.ListsRootsFirst ∧ ¬ notes.NamesEnum "Text" ∧
      ∃ element ∈ notes.storedElements, element.storedName = "note" ∧
        ∃ typed ∈ notes.attributesOf element, typed.column = "body" ∧ typed.1.typeToken = "Text" ∧
          typed.2 ≠ Typing.ofEnum "Text" := by
    decide +kernel
  refine ⟨schema_eq_ok_iff.2 ⟨hfaults, rfl⟩, hnames.1, hnames.2, ?_⟩
  obtain ⟨entity, hentity, field, hfield, hkind, himports, himport, hlines⟩ :
      ∃ entity ∈ backend.entity? "note", ∃ field ∈ entity.fields,
        field.kind = .scalar "body" true false true ∧
          backend.importsOf field.javaType = ["com.example.demo.enums.String"] ∧
          "com.example.demo.enums.String" ∈ backend.entityImports entity ∧
          field.lines = ["", "    @Enumerated(EnumType.STRING)", "    @Column(name = \"body\")",
            "    private String body;"] := by
    simp only [backend, Backend.entity?, Backend.importsOf, Backend.isEnum, Backend.qualified,
      Backend.full, Backend.restricted, Schema.entities, Schema.ownFields_eq_foldl hlists]
    decide +kernel
  have hdeclared : field ∈ entity.declaredFields :=
    List.mem_filter.2 ⟨hfield, by simp [Field.isKey, hkind]⟩
  refine ⟨entity, hentity, field, hfield, hkind, himports, ?_, ?_⟩
  · exact backend.hasLines_entityClass ((backend.importLine_mem_entityLines_iff entity _).2 himport)
  · rw [backend.entityClass_eq]
    have hcontained := backend.lines_infix_entityLines hdeclared
    rw [hlines] at hcontained
    exact hasLines_unlines ((List.suffix_cons _ _).isInfix.trans hcontained)

end Diagram

end ClassDiagram
