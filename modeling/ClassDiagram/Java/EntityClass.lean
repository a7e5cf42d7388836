import ClassDiagram.Java.Backend
import ClassDiagram.Java.Source
import ClassDiagram.Sql.Dialect

/-!
# Entity classes

The persistent class of a table. A child inherits the key of its root; the class of a join table
carries a class for its composite key.
-/

namespace ClassDiagram

open Text

/-- The fields that the class of an entity declares itself. -/
def Entity.declaredFields (entity : Entity) : List Field :=
  entity.fields.filter fun field => !(field.isKey && entity.parentType?.isSome)

/-- A table name inside an annotation; a reserved word is quoted there. -/
def quotedTable (table : String) : String :=
  if isReserved table then "\\\"" ++ table ++ "\\\"" else table

def columnSettings (column : String) (nullable unique : Bool) : String :=
  s!"name = \"{column}\"" ++ (if nullable then "" else ", nullable = false")
    ++ if unique then ", unique = true" else ""

def lazyFetch (nullable : Bool) : String :=
  "fetch = FetchType.LAZY" ++ if nullable then "" else ", optional = false"

def FieldKind.annotations : FieldKind → List String
  | .key column generated =>
    ["@Id"]
      ++ (if generated then ["@GeneratedValue(strategy = GenerationType.IDENTITY)"] else [])
      ++ [s!"@Column(name = \"{column}\")"]
  | .scalar column nullable unique enumerated =>
    (if enumerated then ["@Enumerated(EnumType.STRING)"] else [])
      ++ ["@Column(" ++ columnSettings column nullable unique ++ ")"]
  | .manyToOne column _ nullable =>
    ["@ManyToOne(" ++ lazyFetch nullable ++ ")",
      "@JoinColumn(" ++ columnSettings column nullable false ++ ")"]
  | .oneToOne column _ nullable =>
    ["@OneToOne(" ++ lazyFetch nullable ++ ")",
      "@JoinColumn(" ++ columnSettings column nullable true ++ ")"]
  | .oneToOneInverse _ mappedBy => [s!"@OneToOne(mappedBy = \"{mappedBy}\")"]
  | .oneToMany _ mappedBy => [s!"@OneToMany(mappedBy = \"{mappedBy}\")"]
  | .manyToMany _ joinTable joinColumn inverseColumn =>
    ["@ManyToMany",
      "@JoinTable(",
      "    name = \"" ++ quotedTable joinTable ++ "\",",
      s!"    joinColumns = @JoinColumn(name = \"{joinColumn}\"),",
      s!"    inverseJoinColumns = @JoinColumn(name = \"{inverseColumn}\")",
      ")"]
  | .manyToManyInverse _ mappedBy => [s!"@ManyToMany(mappedBy = \"{mappedBy}\")"]
  | .joinReference column _ =>
    ["@ManyToOne(" ++ lazyFetch true ++ ")",
      s!"@JoinColumn(name = \"{column}\", insertable = false, updatable = false)"]

def Field.declaration (field : Field) : String :=
  s!"private {field.javaType} {field.name}"
    ++ (if field.isCollection then " = new ArrayList<>()" else "") ++ ";"

def Backend.fieldImports (backend : Backend) (field : Field) : List String :=
  (if field.isCollection then ["java.util.ArrayList"] else [])
    ++ (if "List<".toList.isPrefixOf field.javaType.toList then ["java.util.List"] else [])
    ++ backend.importsOf field.javaType

/-- The class of composite keys. -/
def keyClass (keys : List Property) : List String :=
  let parameters := keys.map fun key => s!"{key.javaType} {key.name}"
  let assignments := keys.map fun key => s!"this.{key.name} = {key.name};"
  let comparisons := keys.map fun key => s!"Objects.equals({key.name}, other.{key.name})"
  block "public static class Key implements Serializable"
    ([""] ++ keys.map Property.declaration
      ++ "" :: block "public Key()" []
      ++ "" :: block ("public Key(" ++ String.intercalate ", " parameters ++ ")") assignments
      ++ "" :: "@Override" :: block "public boolean equals(Object o)"
        (block "if (this == o)" ["return true;"]
          ++ block "if (!(o instanceof Key other))" ["return false;"]
          ++ ["return " ++ String.intercalate " && " comparisons ++ ";"])
      ++ "" :: "@Override" :: block "public int hashCode()"
        ["return Objects.hash(" ++ String.intercalate ", " (keys.map Property.name) ++ ");"])

def keyClassImports : List String :=
  ["java.io.Serializable", "java.util.Objects"]

/-- The annotation that names the key of a child and the key it refers to. -/
def parentKeyLine (key : Column) : String :=
  let referenced := (key.references.map ColumnReference.column).getD key.name
  s!"@PrimaryKeyJoinColumn(name = \"{key.name}\", referencedColumnName = \"{referenced}\")"

def Backend.classAnnotations (backend : Backend) (entity : Entity) : List String :=
  let table := entity.table
  ["@Entity", "@Table(name = \"" ++ quotedTable table.name ++ "\")"]
    ++ (if table.isJoin then [s!"@IdClass({entity.typeName}.Key.class)"] else [])
    ++ (if backend.schema.hasChildren table.name then
        ["@Inheritance(strategy = InheritanceType.JOINED)"]
      else [])
    ++ match table.parent, table.primaryKey? with
      | some _, some key => [parentKeyLine key]
      | _, _ => []

def Entity.classHead (entity : Entity) : String :=
  "public " ++ (if entity.table.isAbstract then "abstract " else "") ++ "class " ++ entity.typeName
    ++ match entity.parentType? with
      | some parent => " extends " ++ parent
      | none => ""

def Backend.entityClass (backend : Backend) (entity : Entity) : String :=
  let fields := entity.declaredFields
  let keys := entity.keyFields.map Field.property
  let isJoin := entity.table.isJoin
  let body :=
    (fields.flatMap fun field => "" :: field.kind.annotations ++ [field.declaration])
      ++ "" :: block s!"public {entity.typeName}()" []
      ++ (fields.flatMap fun field => field.property.accessors)
      ++ if isJoin then "" :: keyClass keys else []
  let imports :=
    "jakarta.persistence.*" :: fields.flatMap backend.fieldImports
      ++ if isJoin then keyClassImports else []
  sourceFile (backend.project.package "entity") imports
    (backend.classAnnotations entity ++ block entity.classHead body)

end ClassDiagram
