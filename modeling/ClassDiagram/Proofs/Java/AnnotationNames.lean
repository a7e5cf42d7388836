import ClassDiagram.Proofs.Derivation.ReservedNames
import ClassDiagram.Proofs.Java.Associations
import ClassDiagram.Proofs.Java.ScalarFields
import ClassDiagram.Proofs.Java.SourceLines
import ClassDiagram.Proofs.Sql.BareNames

/-!
# Names of tables and columns in annotations

The source of an entity class is fixed words, with names of tables and columns in its annotations.
Those of tables are quoted if they are reserved words, as a script quotes them, and those of columns
never are. The two agree on every name but on those of attributes that are called by a reserved
word.
-/

namespace ClassDiagram

open Text

/-! ## Annotations in pieces -/

/-- A name that an annotation writes. -/
inductive AnnotatedName where
  | table (name : String)
  | column (name : String)
  deriving DecidableEq, Repr

namespace AnnotatedName

def bare : AnnotatedName → String
  | table name | column name => name

/-- What stands in the annotation for the name. -/
def written : AnnotatedName → String
  | table name => quotedTable name
  | column name => name

end AnnotatedName

theorem spelled_lines {ν : Type} (write : ν → String) (lines : List (List (TextPiece ν))) :
    spelled write (lines.flatMap fun line => line ++ [.fixed "\n"]) =
      unlines (lines.map (spelled write)) := by
  induction lines with
  | nil => rfl
  | cons line rest ih =>
    rw [List.flatMap_cons, spelled_append, ih]
    simp [unlines]

theorem namesIn_lines {ν : Type} (lines : List (List (TextPiece ν))) :
    namesIn (lines.flatMap fun line => line ++ [.fixed "\n"]) = lines.flatMap namesIn := by
  induction lines with
  | nil => rfl
  | cons line rest ih =>
    rw [List.flatMap_cons, namesIn_append, ih]
    simp

/-- A line without names. -/
def fixedLine (words : String) : List (TextPiece AnnotatedName) := [.fixed words]

@[simp]
theorem namesIn_fixedLine (words : String) : namesIn (fixedLine words) = [] := rfl

@[simp]
theorem spelled_fixedLine (words : String) :
    spelled AnnotatedName.written (fixedLine words) = words := by
  rw [fixedLine, spelled_fixed, spelled_nil, String.append_empty]

def columnSettingPieces (column : String) (nullable unique : Bool) :
    List (TextPiece AnnotatedName) :=
  [.fixed "name = \"", .name (.column column), .fixed "\"",
    .fixed (if nullable then "" else ", nullable = false"),
    .fixed (if unique then ", unique = true" else "")]

/-- The lines of the annotations of a field. -/
def FieldKind.annotationPieces : FieldKind → List (List (TextPiece AnnotatedName))
  | .key column generated =>
    [fixedLine "@Id"]
      ++ (if generated then [fixedLine "@GeneratedValue(strategy = GenerationType.IDENTITY)"]
        else [])
      ++ [[.fixed "@Column(name = \"", .name (.column column), .fixed "\")"]]
  | .scalar column nullable unique enumerated =>
    (if enumerated then [fixedLine "@Enumerated(EnumType.STRING)"] else [])
      ++ [.fixed "@Column(" :: columnSettingPieces column nullable unique ++ [.fixed ")"]]
  | .manyToOne column _ nullable =>
    [fixedLine ("@ManyToOne(" ++ lazyFetch nullable ++ ")"),
      .fixed "@JoinColumn(" :: columnSettingPieces column nullable false ++ [.fixed ")"]]
  | .oneToOne column _ nullable =>
    [fixedLine ("@OneToOne(" ++ lazyFetch nullable ++ ")"),
      .fixed "@JoinColumn(" :: columnSettingPieces column nullable true ++ [.fixed ")"]]
  | .manyToMany _ joinTable joinColumn inverseColumn =>
    [fixedLine "@ManyToMany",
      fixedLine "@JoinTable(",
      [.fixed "    name = \"", .name (.table joinTable), .fixed "\","],
      [.fixed "    joinColumns = @JoinColumn(name = \"", .name (.column joinColumn), .fixed "\"),"],
      [.fixed "    inverseJoinColumns = @JoinColumn(name = \"", .name (.column inverseColumn),
        .fixed "\")"],
      fixedLine ")"]
  | .joinReference column _ =>
    [fixedLine ("@ManyToOne(" ++ lazyFetch true ++ ")"),
      [.fixed "@JoinColumn(name = \"", .name (.column column),
        .fixed "\", insertable = false, updatable = false)"]]
  | .oneToOneInverse _ mappedBy => [fixedLine s!"@OneToOne(mappedBy = \"{mappedBy}\")"]
  | .oneToMany _ mappedBy => [fixedLine s!"@OneToMany(mappedBy = \"{mappedBy}\")"]
  | .manyToManyInverse _ mappedBy => [fixedLine s!"@ManyToMany(mappedBy = \"{mappedBy}\")"]

/-- The names in the annotations of a field. -/
def FieldKind.annotatedNames : FieldKind → List AnnotatedName
  | .key column _ | .scalar column .. | .manyToOne column .. | .oneToOne column ..
  | .joinReference column _ => [.column column]
  | .manyToMany _ joinTable joinColumn inverseColumn =>
    [.table joinTable, .column joinColumn, .column inverseColumn]
  | .oneToOneInverse .. | .oneToMany .. | .manyToManyInverse .. => []

theorem spelled_columnSettingPieces (column : String) (nullable unique : Bool) :
    spelled AnnotatedName.written (columnSettingPieces column nullable unique) =
      columnSettings column nullable unique := by
  unfold columnSettings columnSettingPieces
  simp [AnnotatedName.written, toString, String.append_assoc]

@[simp]
theorem namesIn_columnSettingPieces (column : String) (nullable unique : Bool) :
    namesIn (columnSettingPieces column nullable unique) = [.column column] := rfl

theorem FieldKind.annotations_eq (kind : FieldKind) :
    kind.annotations = kind.annotationPieces.map (spelled AnnotatedName.written) := by
  unfold annotations annotationPieces
  cases kind with
  | key column generated =>
    cases generated <;> simp [AnnotatedName.written, toString, String.append_assoc]
  | scalar column nullable unique enumerated =>
    cases enumerated <;> simp [spelled_columnSettingPieces, String.append_assoc]
  | manyToOne | oneToOne => simp [spelled_columnSettingPieces, String.append_assoc]
  | manyToMany | joinReference => simp [AnnotatedName.written, toString, String.append_assoc]
  | oneToOneInverse | oneToMany | manyToManyInverse => simp

theorem FieldKind.namesIn_annotationPieces (kind : FieldKind) :
    kind.annotationPieces.flatMap namesIn = kind.annotatedNames := by
  cases kind with
  | key column generated => cases generated <;> rfl
  | scalar column nullable unique enumerated => cases enumerated <;> rfl
  | _ => rfl

/-- The lines of a field in a class. -/
def Field.linePieces (field : Field) : List (List (TextPiece AnnotatedName)) :=
  fixedLine "" :: (field.kind.annotationPieces.map fun line => .fixed "    " :: line)
    ++ [fixedLine field.line]

theorem Field.spelled_linePieces (field : Field) :
    field.linePieces.map (spelled AnnotatedName.written) = field.lines := by
  have hindent : field.kind.annotations.map indent =
      field.kind.annotations.map fun line => "    " ++ line :=
    List.map_congr_left fun _ hline =>
      indent_of_ne_empty (FieldKind.ne_empty_of_mem_annotations hline)
  rw [lines, hindent, field.kind.annotations_eq, linePieces]
  simp

theorem Field.namesIn_linePieces (field : Field) :
    field.linePieces.flatMap namesIn = field.kind.annotatedNames := by
  rw [← field.kind.namesIn_annotationPieces, linePieces, List.flatMap_append, List.flatMap_cons,
    List.flatMap_map]
  simp

def parentKeyPieces (key : Column) : List (TextPiece AnnotatedName) :=
  [.fixed "@PrimaryKeyJoinColumn(name = \"", .name (.column key.name),
    .fixed "\", referencedColumnName = \"",
    .name (.column ((key.references.map ColumnReference.column).getD key.name)), .fixed "\")"]

theorem spelled_parentKeyPieces (key : Column) :
    spelled AnnotatedName.written (parentKeyPieces key) = parentKeyLine key := by
  unfold parentKeyLine parentKeyPieces
  simp [AnnotatedName.written, toString, String.append_assoc]

namespace Backend

/-- The lines of the annotations of a class. -/
def classAnnotationPieces (backend : Backend) (entity : Entity) :
    List (List (TextPiece AnnotatedName)) :=
  [fixedLine "@Entity",
    [.fixed "@Table(name = \"", .name (.table entity.table.name), .fixed "\")"]]
    ++ (if entity.table.isJoin then [fixedLine s!"@IdClass({entity.typeName}.Key.class)"] else [])
    ++ (if backend.schema.hasChildren entity.table.name then
        [fixedLine "@Inheritance(strategy = InheritanceType.JOINED)"]
      else [])
    ++ match entity.table.parent, entity.table.primaryKey? with
      | some _, some key => [parentKeyPieces key]
      | _, _ => []

theorem classAnnotations_eq (backend : Backend) (entity : Entity) :
    backend.classAnnotations entity =
      (backend.classAnnotationPieces entity).map (spelled AnnotatedName.written) := by
  unfold classAnnotations classAnnotationPieces
  simp only [List.map_append]
  refine congrArg₂ (· ++ ·) ?_ ?_
  · cases entity.table.isJoin <;> cases backend.schema.hasChildren entity.table.name <;>
      simp [AnnotatedName.written, toString, String.append_assoc]
  · cases entity.table.parent with
    | none => rfl
    | some parent =>
      cases entity.table.primaryKey? with
      | none => rfl
      | some key => exact congrArg (fun line => [line]) (spelled_parentKeyPieces key).symm

/-- The lines of the class of an entity. -/
def linePieces (backend : Backend) (entity : Entity) : List (List (TextPiece AnnotatedName)) :=
  (openingLines (backend.project.package "entity") (backend.entityImports entity)).map fixedLine
    ++ backend.classAnnotationPieces entity
    ++ fixedLine entity.headLine :: entity.declaredFields.flatMap Field.linePieces
    ++ (entity.members.map indent).map fixedLine ++ [fixedLine "\x7d"]

theorem entityLines_eq (backend : Backend) (entity : Entity) :
    backend.entityLines entity =
      (backend.linePieces entity).map (spelled AnnotatedName.written) := by
  have hfixed (lines : List String) :
      (lines.map fixedLine).map (spelled AnnotatedName.written) = lines := by
    simp [Function.comp_def]
  have hfields : (entity.declaredFields.flatMap Field.linePieces).map
      (spelled AnnotatedName.written) = entity.declaredFields.flatMap Field.lines := by
    rw [List.map_flatMap]
    exact List.flatMap_congr fun field _ => field.spelled_linePieces
  rw [linePieces, ← List.singleton_append]
  simp only [List.map_append, hfixed, hfields, ← classAnnotations_eq]
  simp [entityLines, classLines]

/-- The class of an entity, in pieces. -/
def entityPieces (backend : Backend) (entity : Entity) : List (TextPiece AnnotatedName) :=
  (backend.linePieces entity).flatMap fun line => line ++ [.fixed "\n"]

/-- The source of the class of an entity has these names at these places. -/
theorem entityClass_eq_spelled (backend : Backend) (entity : Entity) :
    backend.entityClass entity =
      spelled AnnotatedName.written (backend.entityPieces entity) := by
  rw [entityClass_eq, entityLines_eq, entityPieces, spelled_lines]

theorem namesIn_entityPieces (backend : Backend) (entity : Entity) :
    namesIn (backend.entityPieces entity) = .table entity.table.name ::
      (match entity.table.parent, entity.table.primaryKey? with
        | some _, some key =>
          [.column key.name, .column ((key.references.map ColumnReference.column).getD key.name)]
        | _, _ => []) ++
      entity.declaredFields.flatMap fun field => field.kind.annotatedNames := by
  have hfixed (lines : List String) : (lines.map fixedLine).flatMap namesIn = [] := by
    simp [List.flatMap_eq_nil_iff]
  have hfields : (entity.declaredFields.flatMap Field.linePieces).flatMap namesIn =
      entity.declaredFields.flatMap fun field => field.kind.annotatedNames := by
    rw [List.flatMap_assoc]
    exact List.flatMap_congr fun field _ => field.namesIn_linePieces
  have hclass : (backend.classAnnotationPieces entity).flatMap namesIn =
      .table entity.table.name :: (match entity.table.parent, entity.table.primaryKey? with
        | some _, some key =>
          [.column key.name, .column ((key.references.map ColumnReference.column).getD key.name)]
        | _, _ => []) := by
    unfold classAnnotationPieces
    cases entity.table.isJoin <;> cases backend.schema.hasChildren entity.table.name <;>
      cases entity.table.parent <;> cases entity.table.primaryKey? <;> rfl
  rw [entityPieces, namesIn_lines, linePieces, ← List.singleton_append]
  simp only [List.flatMap_append, hfixed, hfields, hclass]
  simp

end Backend

/-! ## Quoted names -/

theorem quotedTable_eq_self_iff (name : String) :
    quotedTable name = name ↔ isReserved name = false := by
  unfold quotedTable
  cases isReserved name with
  | false => simp
  | true =>
    rw [if_pos rfl]
    exact iff_of_false (enclosed_ne (by decide) name) (by decide)

namespace AnnotatedName

/-- The table or the column is one of the schema. -/
def StandsIn (schema : Schema) : AnnotatedName → Prop
  | table name => name ∈ schema.tables.names
  | column name => ∃ table ∈ schema.tables.values, name ∈ table.columnNames

theorem StandsIn.mem_scriptNames {schema : Schema} {name : AnnotatedName}
    (hname : name.StandsIn schema) (hstored : schema.StoredByName) (dialect : Dialect) :
    name.bare ∈ namesIn (scriptPieces dialect (schema.statements schema.tables.names)) := by
  rw [namesIn_scriptPieces]
  cases name with
  | table name =>
    rw [StandsIn, Schema.names_eq_map_values hstored] at hname
    obtain ⟨table, htable, rfl⟩ := List.mem_map.1 hname
    exact Schema.mem_names_statements hstored htable _ List.mem_cons_self
  | column name =>
    obtain ⟨table, htable, hmem⟩ := hname
    exact Schema.mem_names_statements hstored htable _ (List.mem_cons_of_mem _ hmem)

/-- The annotation quotes the name if and only if a script in the dialect does. -/
def QuotedAlike (dialect : Dialect) (name : AnnotatedName) : Prop :=
  name.written ≠ name.bare ↔ dialect.quote name.bare ≠ name.bare

theorem quotedAlike_table (dialect : Dialect) (name : String) :
    (table name).QuotedAlike dialect :=
  not_congr ((quotedTable_eq_self_iff name).trans (quote_eq_self_iff dialect name).symm)

theorem quotedAlike_column_iff {dialect : Dialect} {name : String} :
    (column name).QuotedAlike dialect ↔ isReserved name = false := by
  rw [QuotedAlike, ← quote_eq_self_iff dialect name]
  simp [written, bare]

/-- What a name in the annotations of a table's class stands for: a table, a column that is a key or
refers to one, or another column of the table itself. -/
inductive StandsFor (schema : Schema) (own : Table) : AnnotatedName → Prop where
  | table {other : Table} (hother : other ∈ schema.tables.values) :
      StandsFor schema own (.table other.name)
  | keyed {other : Table} (hother : other ∈ schema.tables.values) {column : Column}
      (hcolumn : column ∈ other.columns) (hkeyed : column.IsKeyed) :
      StandsFor schema own (.column column.name)
  | plain {column : Column} (hcolumn : column ∈ own.columns) (hplain : ¬ column.IsKeyed) :
      StandsFor schema own (.column column.name)

section StandsFor

variable {schema : Schema} {own : Table} {name : AnnotatedName}

theorem StandsFor.standsIn (hname : name.StandsFor schema own) (hstored : schema.StoredByName)
    (hown : own ∈ schema.tables.values) : name.StandsIn schema := by
  cases hname with
  | @table other hother =>
    rw [StandsIn, Schema.names_eq_map_values hstored]
    exact List.mem_map_of_mem hother
  | keyed hother hcolumn => exact ⟨_, hother, List.mem_map_of_mem hcolumn⟩
  | plain hcolumn => exact ⟨own, hown, List.mem_map_of_mem hcolumn⟩

/-- Only plain columns that are called by reserved words are quoted in a script alone. -/
theorem StandsFor.not_quotedAlike_iff (hname : name.StandsFor schema own)
    (hunreserved : schema.AllTables Table.HasUnreservedKeys) {dialect : Dialect} :
    ¬ name.QuotedAlike dialect ↔ ∃ column ∈ own.columns, ¬ column.IsKeyed ∧
      isReserved column.name = true ∧ name = .column column.name := by
  constructor
  · intro hother
    cases hname with
    | table => exact absurd (quotedAlike_table dialect _) hother
    | @keyed source hsource column hcolumn hkeyed =>
      obtain ⟨stored, hfind⟩ := Catalog.mem_values_iff.1 hsource
      exact absurd (quotedAlike_column_iff.2 (hunreserved stored source hfind _ hcolumn hkeyed))
        hother
    | @plain column hcolumn hplain =>
      rw [quotedAlike_column_iff, Bool.not_eq_false] at hother
      exact ⟨column, hcolumn, hplain, hother, rfl⟩
  · rintro ⟨column, -, -, hreserved, rfl⟩
    rwa [quotedAlike_column_iff, Bool.not_eq_false]

end StandsFor

end AnnotatedName

/-! ## Names in the annotations of a schema -/

theorem FieldDraft.kind_of_mem_add {draft : FieldDraft} {candidates : List String}
    {javaType : String} {kind : FieldKind} {field : Field}
    (hfield : field ∈ (draft.add candidates javaType kind).fields) :
    field ∈ draft.fields ∨ field.kind = kind := by
  rcases List.mem_append.1 hfield with hold | hlast
  · exact .inl hold
  · exact .inr (congrArg Field.kind (List.mem_singleton.1 hlast))

/-- The annotations of the fields that a column adds name that column. -/
theorem FieldDraft.AddsColumn.annotatedNames {draft later : FieldDraft} {column : Column}
    (hadds : draft.AddsColumn column later) {field : Field} (hfield : field ∈ later.fields) :
    field ∈ draft.fields ∨ field.kind.annotatedNames = [.column column.name] := by
  cases hadds with
  | key | scalar => exact (kind_of_mem_add hfield).imp_right fun hkind => by rw [hkind]; rfl
  | joinKey =>
    rcases kind_of_mem_add hfield with hmem | hkind
    · exact (kind_of_mem_add hmem).imp_right fun hkind => by rw [hkind]; rfl
    · exact .inr (by rw [hkind]; rfl)
  | association _ hkind =>
    obtain ⟨-, reference, -, rfl⟩ := Column.associationKind?_eq_some_iff.1 hkind
    refine (kind_of_mem_add hfield).imp_right fun hkind => ?_
    rw [hkind]
    cases column.unique <;> rfl

/-- The annotations of each field name one of the columns. -/
def FieldDraft.NamesColumns (columns : List Column) (draft : FieldDraft) : Prop :=
  ∀ field ∈ draft.fields, ∃ column ∈ columns, field.kind.annotatedNames = [.column column.name]

theorem namesColumns_columnFields (schema : Schema) (drafts : Catalog FieldDraft) (table : Table) :
    (columnFields schema drafts table).NamesColumns table.columns := by
  refine List.foldlRecOn (motive := FieldDraft.NamesColumns table.columns) table.columns _
    (List.forall_mem_nil _) ?_
  intro draft hdraft column hcolumn field hmem
  rcases (draft.addsColumn schema table column).annotatedNames hmem with hold | hnames
  · exact hdraft field hold
  · exact ⟨column, hcolumn, hnames⟩

theorem FieldKind.annotatedNames_of_not_isOwn {kind : FieldKind} (hown : kind.isOwn = false) :
    kind.annotatedNames = [] ∨
      ∃ target joinTable joinColumn inverseColumn,
        kind = .manyToMany target joinTable joinColumn inverseColumn := by
  cases kind with
  | oneToOneInverse | oneToMany | manyToManyInverse => exact .inl rfl
  | manyToMany => exact .inr ⟨_, _, _, _, rfl⟩
  | _ => cases hown

namespace Schema

variable {schema : Schema} {table : Table}

theorem standsFor_of_mem_columns (htable : table ∈ schema.tables.values) {column : Column}
    (hcolumn : column ∈ table.columns) :
    (AnnotatedName.column column.name).StandsFor schema table := by
  by_cases hkeyed : column.IsKeyed
  · exact .keyed htable hcolumn hkeyed
  · exact .plain hcolumn hkeyed

/-- The annotation of a child's key names the key above it as well. -/
theorem KeysAgree.standsFor_referenced (htypes : schema.KeysAgree)
    (hfind : schema.table? table.name = some table) {key : Column} (hkey : key ∈ table.columns) :
    (AnnotatedName.column ((key.references.map ColumnReference.column).getD key.name)).StandsFor
      schema table := by
  cases hreferences : key.references with
  | none => exact standsFor_of_mem_columns (Catalog.mem_values_iff.2 ⟨_, hfind⟩) hkey
  | some reference =>
    obtain ⟨target, above, htarget, -, habove, hname, -⟩ :=
      htypes table.name table hfind key hkey reference hreferences
    rw [Option.map_some, Option.getD_some, ← hname]
    exact .keyed (Catalog.mem_values_iff.2 ⟨_, htarget⟩) (List.mem_of_find?_eq_some habove)
      (.inl (List.find?_some habove))

/-- The owning side of a many-to-many association names a join table and two of its keys. -/
theorem JoinsField.standsFor {own : String} {field : Field} (hjoins : schema.JoinsField own field)
    (hown : field.kind.isOwn = false) :
    ∀ name ∈ field.kind.annotatedNames, name.StandsFor schema table := by
  rcases FieldKind.annotatedNames_of_not_isOwn hown with hnone | ⟨_, _, _, _, hkind⟩
  · rw [hnone]
    exact List.forall_mem_nil _
  · obtain ⟨join, first, second, hthrough, rfl, rfl, rfl⟩ := hjoins _ _ _ _ hkind
    have hjoin : join ∈ schema.tables.values := Catalog.mem_values_iff.2 ⟨_, hthrough.find⟩
    have hkey : ∀ key ∈ join.keyColumns,
        (AnnotatedName.column key.name).StandsFor schema table := by
      intro key hmem
      obtain ⟨hcolumn, hprimary⟩ := List.mem_filter.1 hmem
      exact .keyed hjoin hcolumn (.inl hprimary)
    rw [hkind, FieldKind.annotatedNames, List.forall_mem_cons, List.forall_mem_cons,
      List.forall_mem_singleton]
    exact ⟨.table hjoin, hkey first hthrough.toOwner_mem, hkey second hthrough.toTarget_mem⟩

/-- The names in the annotations of an entity stand for tables and columns of the schema. -/
theorem Sound.standsFor_of_mem_annotatedNames (hsound : schema.Sound)
    (hacyclic : schema.Acyclic) {backend : Backend} {written : List String}
    (hentities : backend.entities = schema.entities written)
    (hagree : schema.AssociationsAgree backend.entities)
    (hfind : schema.table? table.name = some table) {entity : Entity}
    (hentity : backend.entity? table.name = some entity) {name : AnnotatedName}
    (hname : name ∈ namesIn (backend.entityPieces entity)) : name.StandsFor schema table := by
  have htable : table ∈ schema.tables.values := Catalog.mem_values_iff.2 ⟨_, hfind⟩
  obtain ⟨found, gained, hfound, hown, hfields, hgained⟩ :=
    exists_entity_fields hacyclic hsound.rules.storedByName hfind written
  obtain rfl : found = entity := Option.some.inj (hfound.symm.trans (hentities ▸ hentity))
  rw [Backend.namesIn_entityPieces, hown, List.mem_append, List.mem_cons, List.mem_flatMap] at hname
  rcases hname with (rfl | hkeys) | ⟨field, hfield, hmem⟩
  · exact .table htable
  · split at hkeys
    · rename_i hkey
      have hkeyMem := List.mem_of_find?_eq_some hkey
      rw [List.mem_cons, List.mem_singleton] at hkeys
      rcases hkeys with rfl | rfl
      · exact standsFor_of_mem_columns htable hkeyMem
      · exact hsound.types.standsFor_referenced hfind hkeyMem
    · cases hkeys
  · have hdeclared := (List.mem_filter.1 hfield).1
    have hjoins := hagree.joins table.name found hentity field hdeclared
    rw [hfields, List.mem_append] at hdeclared
    rcases hdeclared with hcolumns | hfurther
    · obtain ⟨column, hcolumn, hnames⟩ := namesColumns_columnFields _ _ _ field hcolumns
      rw [hnames, List.mem_singleton] at hmem
      rw [hmem]
      exact standsFor_of_mem_columns htable hcolumn
    · exact hjoins.standsFor (hgained field hfurther) name hmem

/-- Every plain column is named in the annotations of its entity. -/
theorem mem_annotatedNames_of_plain (hacyclic : schema.Acyclic) (hstored : schema.StoredByName)
    {backend : Backend} {written : List String}
    (hentities : backend.entities = schema.entities written)
    (hfind : schema.table? table.name = some table) {entity : Entity}
    (hentity : backend.entity? table.name = some entity) {column : Column}
    (hcolumn : column ∈ table.columns) (hplain : ¬ column.IsKeyed) :
    .column column.name ∈ namesIn (backend.entityPieces entity) := by
  obtain ⟨found, hfound, -, hscalars⟩ :=
    exists_entity_scalarFields hacyclic hstored hfind written
  obtain rfl : found = entity := Option.some.inj (hfound.symm.trans (hentities ▸ hentity))
  obtain ⟨hkey, hreferences⟩ := Column.not_isKeyed_iff.1 hplain
  have hgives : column.scalarField? schema = some _ :=
    Column.scalarField?_eq_some_iff.2 ⟨hkey, hreferences, rfl, rfl⟩
  have hmem := List.mem_filterMap.2 ⟨column, hcolumn, hgives⟩
  rw [← hscalars] at hmem
  obtain ⟨field, hfield, -, hkind⟩ := mem_scalarFields_iff.1 hmem
  have hdeclared : field ∈ found.declaredFields :=
    List.mem_filter.2 ⟨hfield, by simp [Field.isKey, hkind]⟩
  rw [Backend.namesIn_entityPieces]
  refine List.mem_append_right _ (List.mem_flatMap.2 ⟨field, hdeclared, ?_⟩)
  rw [hkind]
  exact List.mem_singleton_self _

end Schema

/-! ## Annotations of derived schemas -/

namespace Diagram

variable {diagram : Diagram} {schema : Schema}

/-- No attribute has a column that is called by a reserved word. -/
def AvoidsReservedWords (diagram : Diagram) : Prop :=
  ∀ element ∈ diagram.storedElements, ∀ typed ∈ diagram.attributesOf element,
    isReserved typed.column = false

instance (diagram : Diagram) : Decidable diagram.AvoidsReservedWords :=
  inferInstanceAs (Decidable (∀ element ∈ _, ∀ typed ∈ _, _ = _))

/-- An attribute that is called by a reserved word has a plain column, if not in the table of its
element then above it. -/
theorem exists_plain_of_isReserved (haccepted : diagram.schema = .ok schema) {element : Element}
    (helement : element ∈ diagram.storedElements) {typed : TypedAttribute}
    (htyped : typed ∈ diagram.attributesOf element) (hreserved : isReserved typed.column = true) :
    ∃ table ∈ schema.tables.values, ∃ column ∈ table.columns,
      ¬ column.IsKeyed ∧ column.name = typed.column := by
  obtain ⟨table, htable, column, hcolumn, hname⟩ :=
    exists_column_of_attribute haccepted helement htyped
  refine ⟨table, htable, column, hcolumn, fun hkeyed => ?_, hname⟩
  obtain ⟨stored, hfind⟩ := Catalog.mem_values_iff.1 htable
  have hfree := unreservedKeys_of_schema haccepted stored table hfind column hcolumn hkeyed
  rw [hname, hreserved] at hfree
  cases hfree

section Annotations

variable {project : JavaProject} {tables enums : List String} {table : Table} {entity : Entity}

theorem standsFor_annotatedNames (haccepted : diagram.schema = .ok schema)
    (htable : table ∈ schema.tables.values)
    (hentity : (Backend.restricted schema project tables enums).entity? table.name = some entity)
    {name : AnnotatedName}
    (hname : name ∈
      namesIn ((Backend.restricted schema project tables enums).entityPieces entity)) :
    name.StandsFor schema table :=
  (sound_of_schema haccepted).standsFor_of_mem_annotatedNames (schema_acyclic haccepted) rfl
    (schema_associationsAgree haccepted project tables enums)
    ((Schema.mem_values_iff_table? (schema_storedByName haccepted)).1 htable) hentity hname

/-- Only names of attributes are quoted in a script and not in the annotations. -/
theorem not_quotedAlike_iff_attribute (haccepted : diagram.schema = .ok schema)
    (htable : table ∈ schema.tables.values) {name : AnnotatedName}
    (hname : name.StandsFor schema table) {dialect : Dialect} :
    ¬ name.QuotedAlike dialect ↔
      ∃ element ∈ diagram.storedElements, element.storedName = table.name ∧
        ∃ typed ∈ diagram.attributesOf element,
          isReserved typed.column = true ∧ name = .column typed.column := by
  constructor
  · rw [hname.not_quotedAlike_iff (unreservedKeys_of_schema haccepted)]
    rintro ⟨column, hcolumn, hplain, hreserved, rfl⟩
    obtain ⟨hkey, hreferences⟩ := Column.not_isKeyed_iff.1 hplain
    have hfind := (Schema.mem_values_iff_table? (schema_storedByName haccepted)).1 htable
    obtain ⟨element, helement, hstored, typed, htyped, rfl⟩ :=
      hasPlainColumns_of_schema haccepted _ table hfind column hcolumn hkey hreferences
    exact ⟨element, helement, hstored, typed, htyped, hreserved, rfl⟩
  · rintro ⟨element, -, -, typed, -, hreserved, rfl⟩
    rwa [AnnotatedName.quotedAlike_column_iff, Bool.not_eq_false]

end Annotations

theorem exists_entity_of_schema (haccepted : diagram.schema = .ok schema) (project : JavaProject)
    (tables enums : List String) {table : Table} (htable : table ∈ schema.tables.values) :
    ∃ entity, (Backend.restricted schema project tables enums).entity? table.name = some entity ∧
      entity.table = table := by
  have hstored := schema_storedByName haccepted
  have hfind := (Schema.mem_values_iff_table? hstored).1 htable
  obtain ⟨entity, hentity, hown, -⟩ := Schema.exists_entity hstored hfind
    (Backend.restricted schema project tables enums).written
  exact ⟨entity, hentity, hown⟩

/-- All annotations quote their names as the script does unless an attribute is called by a reserved
word. -/
theorem forall_quotedAlike_iff (haccepted : diagram.schema = .ok schema) (project : JavaProject)
    (tables enums : List String) (dialect : Dialect) :
    let backend := Backend.restricted schema project tables enums
    (∀ table ∈ schema.tables.values, ∀ entity, backend.entity? table.name = some entity →
        ∀ name ∈ namesIn (backend.entityPieces entity), name.QuotedAlike dialect) ↔
      diagram.AvoidsReservedWords := by
  intro backend
  constructor
  · intro halike element helement typed htyped
    rw [← Bool.not_eq_true]
    intro hreserved
    obtain ⟨table, htable, column, hcolumn, hplain, hname⟩ :=
      exists_plain_of_isReserved haccepted helement htyped hreserved
    obtain ⟨entity, hentity, -⟩ := exists_entity_of_schema haccepted project tables enums htable
    have hstored := schema_storedByName haccepted
    have hfind := (Schema.mem_values_iff_table? hstored).1 htable
    have hmem : .column column.name ∈ namesIn (backend.entityPieces entity) :=
      Schema.mem_annotatedNames_of_plain (schema_acyclic haccepted) hstored rfl hfind hentity
        hcolumn hplain
    have hfree := AnnotatedName.quotedAlike_column_iff.1 (halike table htable entity hentity _ hmem)
    rw [hname, hreserved] at hfree
    cases hfree
  · intro hfree table htable entity hentity name hname
    by_contra hother
    have hstands := standsFor_annotatedNames haccepted htable hentity hname
    obtain ⟨element, helement, -, typed, htyped, hreserved, -⟩ :=
      (not_quotedAlike_iff_attribute haccepted htable hstands).1 hother
    cases hreserved.symm.trans (hfree element helement typed htyped)

/-- The source of an entity class is fixed words and, in its annotations, names of tables and
columns, which the script writes too. The annotations quote the same names as the script, but for
the columns of attributes that are called by reserved words. So all annotations agree with the
script if and only if there are no such attributes. -/
theorem schema_quotedNames (haccepted : diagram.schema = .ok schema) (project : JavaProject)
    (tables enums : List String) (dialect : Dialect) :
    let backend := Backend.restricted schema project tables enums
    let scriptNames := namesIn (scriptPieces dialect (schema.statements schema.tables.names))
    schema.script dialect = .ok (spelled dialect.quote
      (scriptPieces dialect (schema.statements schema.tables.names))) ∧
    (∀ table ∈ schema.tables.values, ∃ entity, backend.entity? table.name = some entity ∧
      entity.table = table ∧
      backend.entityClass entity =
        spelled AnnotatedName.written (backend.entityPieces entity) ∧
      ∀ name ∈ namesIn (backend.entityPieces entity), name.StandsIn schema ∧
        name.bare ∈ scriptNames ∧
        (¬ name.QuotedAlike dialect ↔
          ∃ element ∈ diagram.storedElements, element.storedName = table.name ∧
            ∃ typed ∈ diagram.attributesOf element,
              isReserved typed.column = true ∧ name = .column typed.column)) ∧
    ((∀ table ∈ schema.tables.values, ∀ entity, backend.entity? table.name = some entity →
        ∀ name ∈ namesIn (backend.entityPieces entity), name.QuotedAlike dialect) ↔
      diagram.AvoidsReservedWords) := by
  intro backend scriptNames
  have hstored := schema_storedByName haccepted
  refine ⟨(hasSqlTypes_of_schema haccepted).scriptFor_eq schema.tables.names dialect,
    fun table htable => ?_, forall_quotedAlike_iff haccepted project tables enums dialect⟩
  obtain ⟨entity, hentity, hown⟩ := exists_entity_of_schema haccepted project tables enums htable
  refine ⟨entity, hentity, hown, backend.entityClass_eq_spelled entity, fun name hname => ?_⟩
  have hstands := standsFor_annotatedNames haccepted htable hentity hname
  have hstandsIn := hstands.standsIn hstored htable
  exact ⟨hstandsIn, hstandsIn.mem_scriptNames hstored dialect,
    not_quotedAlike_iff_attribute haccepted htable hstands⟩

/-- The users of the shop have a reserved word for their table, which annotations and scripts both
quote. No attribute in the shop is called by one. -/
theorem schema_quotedNames_shop :
    let backend :=
      Backend.full shop.draft.schema { basePackage := "com.example.demo", name := "demo" }
    shop.schema = .ok shop.draft.schema ∧ shop.AvoidsReservedWords ∧
      ∃ entity, backend.entity? "user" = some entity ∧
        HasLines (backend.entityClass entity) ["@Table(name = \"\\\"user\\\"\")"] ∧
        .table "user" ∈ namesIn (backend.entityPieces entity) ∧
        AnnotatedName.written (.table "user") = "\\\"user\\\"" ∧
        ∀ dialect : Dialect, dialect.quote "user" ≠ "user" ∧
          ∀ name ∈ namesIn (backend.entityPieces entity), name.QuotedAlike dialect := by
  intro backend
  obtain ⟨hfree, huser, hreserved, hwritten⟩ : shop.AvoidsReservedWords ∧
      "user" ∈ shop.draft.schema.tables.names ∧ isReserved "user" = true ∧
      AnnotatedName.written (.table "user") = "\\\"user\\\"" := by
    decide +kernel
  obtain ⟨table, hfind⟩ := Catalog.mem_names_iff.1 huser
  have hname : table.name = "user" := schema_storedByName shop_schema _ table hfind
  have htable : table ∈ shop.draft.schema.tables.values := Catalog.mem_values_iff.2 ⟨_, hfind⟩
  have hquoted := schema_quotedNames shop_schema
    { basePackage := "com.example.demo", name := "demo" } shop.draft.schema.tables.names
    shop.draft.schema.enums.names
  obtain ⟨entity, hentity, hown, -⟩ := (hquoted .standard).2.1 table htable
  refine ⟨shop_schema, hfree, entity, hname ▸ hentity, ?_, ?_, hwritten, fun dialect => ?_⟩
  · apply backend.hasLines_entityClass
    rw [← backend.mem_classAnnotations_iff entity (by decide), Backend.classAnnotations, hown,
      hname]
    refine List.mem_append_left _ (List.mem_append_left _ (List.mem_append_left _ ?_))
    decide +kernel
  · rw [Backend.namesIn_entityPieces, hown, hname]
    exact List.mem_append_left _ List.mem_cons_self
  · refine ⟨?_, (hquoted dialect).2.2.2 hfree table htable entity hentity⟩
    rw [Ne, quote_eq_self_iff, Bool.not_eq_false]
    exact hreserved

/-- A class with an attribute that is called by a reserved word. -/
def items : Diagram where
  elements :=
    [{ id := "1"
       className := "Item"
       attributes := ["key: String"]
       methods := []
       kind := .classKind }]
  relationships := []

/-- Every dialect quotes the name of the attribute, which stands bare in the annotation. -/
theorem exists_unquoted_column :
    let backend :=
      Backend.full items.draft.schema { basePackage := "com.example.demo", name := "demo" }
    items.schema = .ok items.draft.schema ∧
      ∃ entity, backend.entity? "item" = some entity ∧
        HasLines (backend.entityClass entity) ["    @Column(name = \"key\")"] ∧
        .column "key" ∈ namesIn (backend.entityPieces entity) ∧
        ∀ dialect : Dialect, dialect.quote "key" ≠ "key" ∧
          ¬ AnnotatedName.QuotedAlike dialect (.column "key") := by
  intro backend
  obtain ⟨hfaults, hlists, hreserved⟩ : items.draft.faults = [] ∧
      items.draft.schema.ListsRootsFirst ∧ isReserved "key" = true := by
    decide +kernel
  have hentity : ∃ entity ∈ backend.entity? "item",
      ∃ field ∈ entity.declaredFields, field.kind = .scalar "key" true false false := by
    simp only [backend, Backend.entity?, Backend.full, Backend.restricted, Schema.entities,
      Schema.ownFields_eq_foldl hlists]
    decide +kernel
  refine ⟨schema_eq_ok_iff.2 ⟨hfaults, rfl⟩, ?_⟩
  obtain ⟨entity, hfind, field, hfield, hkind⟩ := hentity
  refine ⟨entity, hfind, ?_, ?_, fun dialect => ⟨?_, ?_⟩⟩
  · apply backend.hasLines_entityClass
    apply (backend.lines_infix_entityLines hfield).mem
    rw [Field.lines, hkind]
    exact List.mem_append_left _ (List.mem_cons_of_mem _ (by decide))
  · rw [Backend.namesIn_entityPieces]
    refine List.mem_append_right _ (List.mem_flatMap.2 ⟨field, hfield, ?_⟩)
    rw [hkind]
    exact List.mem_singleton_self _
  · rw [Ne, quote_eq_self_iff, Bool.not_eq_false]
    exact hreserved
  · rw [AnnotatedName.quotedAlike_column_iff, Bool.not_eq_false]
    exact hreserved

end Diagram

end ClassDiagram
