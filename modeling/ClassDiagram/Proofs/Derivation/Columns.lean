import ClassDiagram.Proofs.Derivation.Keys

/-!
# Columns of a derived table

The columns that the table of an element has in a derived schema: its own attributes without what
it inherits, with a key in front if it declares none, and then the foreign keys of relationships.
What an element inherits is told from the declarations alone, so neither the order of the elements
nor the columns that its ancestors have lost count.
-/

namespace ClassDiagram

open Relation

/-! ## What is told from the diagram -/

namespace Diagram

variable {diagram : Diagram} {schema : Schema}

/-- The columns that an element declares, with a key in front if no attribute has a key name. -/
def declaredColumns (diagram : Diagram) (element : Element) : List Column :=
  let own := attributeColumns element.storedName (diagram.attributesOf element)
  if (diagram.attributesOf element).any fun typed => namesKey element.storedName typed.column then
    own
  else surrogateKey :: own

/-- An element that this one extends, directly or not, declares an attribute of this column name
that is not its key. -/
def Inherits (diagram : Diagram) (element : Element) (name : String) : Prop :=
  ∃ ancestor ∈ diagram.storedElements,
    TransGen diagram.Extends element.storedName ancestor.storedName ∧
      ∃ column ∈ attributeColumns ancestor.storedName (diagram.attributesOf ancestor),
        column.primaryKey = false ∧ column.name = name

/-- The name of the table in which the element with an id is stored. -/
def tableName? (diagram : Diagram) (id : String) : Option String :=
  (diagram.storedElements.map fun element => (element.id, element.storedName)).lookup id

/-- The foreign key that a relationship stands for. -/
def keyPlace? (diagram : Diagram) (relationship : Relationship) : Option KeyPlace :=
  match relationship.kind.family with
  | .structural => do
    let source ← diagram.tableName? relationship.sourceId
    let target ← diagram.tableName? relationship.targetId
    let sourceEnd ← Cardinality.ofText? relationship.sourceCardinality
    let targetEnd ← Cardinality.ofText? relationship.targetCardinality
    KeyPlace.between? source target sourceEnd targetEnd
  | _ => none

/-- The foreign keys that a table is to get, in the order of the relationships. -/
def keysOn (diagram : Diagram) (table : String) : List KeyPlace :=
  (diagram.relationships.filterMap diagram.keyPlace?).filter fun place => place.owner == table

/-- The declared column as it is kept in a schema. The key of an element that extends another has
the types of the other's key, refers to it, and is neither generated nor empty. -/
def KeptAs (diagram : Diagram) (schema : Schema) (element : Element)
    (declared kept : Column) : Prop :=
  if declared.primaryKey then
    (∀ parent, ¬ diagram.Extends element.storedName parent) ∧ kept = declared ∨
      ∃ parent key, diagram.Extends element.storedName parent ∧
        schema.keyOf? parent = some key ∧
        kept = { declared with
          sqlType := key.sqlType
          javaType := key.javaType
          nullable := false
          generated := false
          references := some { table := parent, column := key.name } }
  else kept = declared

theorem linkedTable_name (element : Element) :
    (diagram.linkedTable element).name = element.storedName := rfl

theorem columns_declaredTable (element : Element) :
    (diagram.declaredTable element).columns = diagram.declaredColumns element := by
  rw [declaredTable, Element.declaredTable, declaredColumns]
  cases hkey : (diagram.attributesOf element).any fun typed =>
      namesKey element.storedName typed.column with
  | true => exact withKey_attributeColumns_of_key hkey
  | false => exact withKey_attributeColumns_of_plain hkey

theorem columns_linkedTable (element : Element) :
    (diagram.linkedTable element).columns = diagram.declaredColumns element :=
  columns_declaredTable element

/-- A column of an element's table comes from an attribute, unless it is the surrogate key. -/
theorem mem_declaredColumns_cases {element : Element} {column : Column}
    (hmem : column ∈ diagram.declaredColumns element) :
    column = surrogateKey ∨ ∃ typed ∈ diagram.attributesOf element, ∃ primaryKey,
      column = declaredColumn typed.1 typed.2 primaryKey := by
  have hdeclared : ∀ column ∈ attributeColumns element.storedName (diagram.attributesOf element),
      ∃ typed ∈ diagram.attributesOf element, ∃ primaryKey,
        column = declaredColumn typed.1 typed.2 primaryKey := by
    intro column hmem
    obtain ⟨place, hplace, rfl⟩ := List.mem_mapIdx.1 hmem
    exact ⟨_, List.getElem_mem hplace, _, rfl⟩
  rw [declaredColumns] at hmem
  split at hmem
  · exact .inr (hdeclared column hmem)
  · exact (List.mem_cons.1 hmem).imp_right (hdeclared column)

theorem mem_plainNames_linkedTable_iff {element : Element} {name : String} :
    name ∈ (diagram.linkedTable element).plainNames ↔
      ∃ column ∈ attributeColumns element.storedName (diagram.attributesOf element),
        column.primaryKey = false ∧ column.name = name := by
  rw [Table.plainNames, columns_linkedTable, declaredColumns]
  split
  · simp [and_assoc]
  · rw [List.filter_cons_of_neg (by simp [surrogateKey])]
    simp [and_assoc]

/-- What the tables above the table of an element have is what the element inherits. -/
theorem mem_inheritedNames_ancestors_iff (hwell : diagram.JoinedWellFormed) (element : Element)
    (name : String) :
    name ∈ inheritedNames (diagram.linkedSchema.ancestors element.storedName) ↔
      diagram.Inherits element name := by
  have hparents : diagram.linkedSchema.HasParent = diagram.Extends := by
    funext child parent
    rw [eq_iff_iff, linkedSchema_hasParent_iff hwell.elements hwell.hierarchy]
  simp only [mem_inheritedNames_iff, Schema.mem_ancestors_iff hwell.flat.acyclic hwell.flat.stored,
    hparents, Inherits]
  constructor
  · rintro ⟨table, ⟨above, habove, hfind⟩, hname⟩
    obtain ⟨ancestor, hmem, rfl, rfl⟩ := table?_linkedSchema_eq_some hwell.elements hfind
    exact ⟨ancestor, hmem, habove, mem_plainNames_linkedTable_iff.1 hname⟩
  · rintro ⟨ancestor, hmem, habove, hname⟩
    exact ⟨diagram.linkedTable ancestor,
      ⟨_, habove, table?_linkedSchema hwell.elements hmem⟩,
      mem_plainNames_linkedTable_iff.2 hname⟩

/-! ## The foreign keys -/

theorem tableName?_eq_some_iff (hwell : diagram.ElementsWellFormed) {id table : String} :
    diagram.tableName? id = some table ↔ diagram.Stores id table := by
  have hdistinct : (diagram.storedElements.map Element.id).Nodup :=
    hwell.ids.sublist (List.filter_sublist.map Element.id)
  rw [tableName?, Catalog.lookup_eq_some_iff_mem (by simpa [Function.comp_def] using hdistinct)]
  simp [Stores]

theorem keyPlace?_eq_none_of_placed {placed : PlacedRelationship}
    (hother : ∀ source target, placed.placement ≠ .structural source target) :
    placed.keyPlace? = none := by
  rw [PlacedRelationship.keyPlace?]
  split
  · rename_i hplacement _
    exact absurd hplacement (hother _ _)
  · rfl

/-- Where a relationship puts a foreign key can be told from the diagram. -/
theorem keyPlace?_placed (hwell : diagram.ElementsWellFormed) (relationship : Relationship) :
    PlacedRelationship.keyPlace? {
      relationship
      placement := relationship.placement diagram.elementIds diagram.elementDraft.tableOf } =
        diagram.keyPlace? relationship := by
  by_cases hplaced : ∃ source target, relationship.kind.family = .structural ∧
      diagram.tableName? relationship.sourceId = some source ∧
      diagram.tableName? relationship.targetId = some target
  · obtain ⟨source, target, hfamily, hsource, htarget⟩ := hplaced
    have hplacement := (placement_eq_structural_iff hwell).2
      ⟨hfamily, (tableName?_eq_some_iff hwell).1 hsource, (tableName?_eq_some_iff hwell).1 htarget⟩
    simp only [PlacedRelationship.keyPlace?, hplacement, Relationship.cardinalities,
      Diagram.keyPlace?, hfamily, hsource, htarget, Option.bind_eq_bind, Option.bind_some]
    cases Cardinality.ofText? relationship.sourceCardinality <;>
      cases Cardinality.ofText? relationship.targetCardinality <;> rfl
  · have hnone : diagram.keyPlace? relationship = none := by
      rw [Diagram.keyPlace?]
      split
      · rename_i hfamily
        cases hsource : diagram.tableName? relationship.sourceId with
        | none => rfl
        | some source =>
          cases htarget : diagram.tableName? relationship.targetId with
          | none => rfl
          | some target => exact absurd ⟨source, target, hfamily, hsource, htarget⟩ hplaced
      · rfl
    rw [hnone]
    apply keyPlace?_eq_none_of_placed
    intro source target hplacement
    obtain ⟨hfamily, hsource, htarget⟩ := (placement_eq_structural_iff hwell).1 hplacement
    exact hplaced ⟨source, target, hfamily, (tableName?_eq_some_iff hwell).2 hsource,
      (tableName?_eq_some_iff hwell).2 htarget⟩

theorem filterMap_keyPlace?_placements (hwell : diagram.ElementsWellFormed) :
    diagram.placements.filterMap PlacedRelationship.keyPlace? =
      diagram.relationships.filterMap diagram.keyPlace? := by
  rw [placements, placedRelationships, List.filterMap_map]
  exact List.filterMap_congr fun relationship _ => keyPlace?_placed hwell relationship

/-! ## The own columns -/

theorem forall₂_modifyFirstKey {relation : Column → Column → Prop} {change : Column → Column}
    {columns : List Column}
    (hkey : ∀ column ∈ columns, column.primaryKey = true → relation column (change column))
    (hplain : ∀ column ∈ columns, column.primaryKey = false → relation column column)
    (hone : (columns.filter Column.primaryKey).length ≤ 1) :
    List.Forall₂ relation columns (modifyFirstKey change columns) := by
  rcases modifyFirstKey_cases change columns with
    ⟨hnone, heq⟩ | ⟨before, key, after, rfl, hbefore, hfirst, heq⟩
  · rw [heq]
    exact List.forall₂_same.2 fun column hmem => hplain column hmem (hnone column hmem)
  · have hafter : ∀ column ∈ after, column.primaryKey = false := by
      rw [List.filter_append, List.length_append, List.filter_cons_of_pos hfirst,
        List.length_cons] at hone
      have hnone : after.filter Column.primaryKey = [] := List.length_eq_zero_iff.1 (by omega)
      simpa using hnone
    rw [List.forall_mem_append, List.forall_mem_cons] at hkey hplain
    rw [heq]
    refine List.rel_append (List.forall₂_same.2 fun column hmem => ?_)
      (.cons (hkey.2.1 hfirst) (List.forall₂_same.2 fun column hmem => ?_))
    · exact hplain.1 column hmem (hbefore column hmem)
    · exact hplain.2.2 column hmem (hafter column hmem)

theorem extends_iff_parent (hwell : diagram.JoinedWellFormed) {element : Element}
    (hmem : element ∈ diagram.storedElements) {parent : String} :
    diagram.Extends element.storedName parent ↔
      (diagram.linkedTable element).parent = some parent := by
  rw [← linkedSchema_hasParent_iff hwell.elements hwell.hierarchy, Schema.HasParent,
    Schema.parent?, table?_linkedSchema hwell.elements hmem, Option.bind_some]

theorem keptAs_plain {element : Element} {column : Column}
    (hplain : column.primaryKey = false) : diagram.KeptAs schema element column column := by
  rw [KeptAs, hplain, if_neg Bool.false_ne_true]

theorem keptAs_of_root {element : Element}
    (hroot : ∀ parent, ¬ diagram.Extends element.storedName parent) (column : Column) :
    diagram.KeptAs schema element column column := by
  cases hcolumn : column.primaryKey with
  | true =>
    rw [KeptAs, if_pos hcolumn]
    exact .inl ⟨hroot, rfl⟩
  | false => exact keptAs_plain hcolumn

theorem keptAs_childKey {element : Element} {parent : Table} {key column : Column}
    (hextends : diagram.Extends element.storedName parent.name)
    (hkey : schema.keyOf? parent.name = some key) (hcolumn : column.primaryKey = true) :
    diagram.KeptAs schema element column (childKey parent key key column) := by
  rw [KeptAs, if_pos hcolumn]
  exact .inr ⟨parent.name, key, hextends, hkey, rfl⟩

/-- A root keeps all its columns. A child keeps those that it does not inherit, and its key is
fitted to the parent. -/
theorem forall₂_keptAs (haccepted : diagram.schema = .ok schema) {element : Element}
    (hmem : element ∈ diagram.storedElements) :
    List.Forall₂ (diagram.KeptAs schema element)
      ((diagram.declaredColumns element).filter fun column => column.primaryKey ||
        !(inheritedNames (diagram.linkedSchema.ancestors element.storedName)).contains column.name)
      (diagram.linkedSchema.fit (diagram.linkedTable element)).columns := by
  have hwell := joinedWellFormed_of_schema haccepted
  have hfind := table?_linkedSchema hwell.elements hmem
  cases hparent : (diagram.linkedTable element).parent with
  | none =>
    have hroot : ∀ parent, ¬ diagram.Extends element.storedName parent := by
      intro parent
      rw [extends_iff_parent hwell hmem, hparent]
      simp
    have hancestors := hwell.flat.ancestors_eq_nil hfind hparent
    rw [linkedTable_name] at hancestors
    rw [hwell.flat.fit_eq_self hfind hparent, columns_linkedTable, hancestors, inheritedNames_nil,
      List.filter_eq_self.2 fun column _ => by simp, List.forall₂_same]
    exact fun column _ => keptAs_of_root hroot column
  | some parentName =>
    obtain ⟨parent, key, hparentFind, hkey, heq⟩ := hwell.flat.fit_eq_fitTo_parent hfind hparent
    obtain rfl : parent.name = parentName := hwell.flat.stored parentName parent hparentFind
    rw [heq, linkedTable_name, Table.fitTo, columns_linkedTable]
    apply forall₂_modifyFirstKey
    · exact fun column _ hcolumn => keptAs_childKey ((extends_iff_parent hwell hmem).2 hparent)
        ((fitted_growsTo_schema haccepted).keyOf?_eq hkey) hcolumn
    · exact fun column _ hcolumn => keptAs_plain hcolumn
    · have hone := hwell.flat.key _ _ hfind
      rw [Table.keyColumns, columns_linkedTable] at hone
      exact hone ▸ (List.filter_sublist.filter _).length_le

theorem length_attributesOf (hwell : diagram.ElementsWellFormed) {element : Element}
    (hmem : element ∈ diagram.storedElements) :
    (diagram.attributesOf element).length = element.attributes.length := by
  rw [attributesOf, List.filterMap_length_eq_length]
  intro declaration hdeclaration
  have hread : ∃ typed,
      element.readAttribute diagram.enumDraft.schema.enums declaration = .ok typed :=
    (Element.readAttribute_eq_ok_iff diagram declaration).2
      (hwell.attributes element hmem declaration hdeclaration)
  obtain ⟨typed, htyped⟩ := hread
  rw [← Element.readAttribute_enumDraft element, htyped]
  rfl

/-! ## The order of the diagram -/

section Order

variable {other : Diagram}

theorem typing?_perm (helements : other.elements.Perm diagram.elements) (token : String) :
    other.typing? token = diagram.typing? token := by
  have hnames : other.NamesEnum token ↔ diagram.NamesEnum token := by
    simp only [NamesEnum, enumElements, (helements.filter _).mem_iff]
  simp only [typing?, hnames]

theorem attributesOf_perm (helements : other.elements.Perm diagram.elements) (element : Element) :
    other.attributesOf element = diagram.attributesOf element := by
  simp only [attributesOf, typing?_perm helements]

theorem declaredColumns_perm (helements : other.elements.Perm diagram.elements)
    (element : Element) : other.declaredColumns element = diagram.declaredColumns element := by
  simp only [declaredColumns, attributesOf_perm helements]

/-- What an element inherits does not depend on the order in which the elements and the
relationships stand. -/
theorem inherits_perm (helements : other.elements.Perm diagram.elements)
    (hrelationships : other.relationships.Perm diagram.relationships) (element : Element)
    (name : String) : other.Inherits element name ↔ diagram.Inherits element name := by
  have hstored : ∀ ancestor, ancestor ∈ other.storedElements ↔ ancestor ∈ diagram.storedElements :=
    fun _ => (helements.filter _).mem_iff
  have hextends : other.Extends = diagram.Extends := by
    funext child parent
    simp only [Extends, Stores, hrelationships.mem_iff, hstored]
  simp only [Inherits, hstored, hextends, attributesOf_perm helements]

end Order

/-- The table of an element has the declared columns that it does not inherit and then one foreign
key for each relationship that puts one on it, in the orders of the diagram. What is declared and
what is inherited is the same in whatever order the elements and the relationships stand. -/
theorem columns_of_schema (haccepted : diagram.schema = .ok schema) {element : Element}
    (hmem : element ∈ diagram.storedElements) :
    (diagram.attributesOf element).length = element.attributes.length ∧
    ∃ table, ∃ inherited : List String, ∃ own foreignKeys,
      schema.table? element.storedName = some table ∧ table.columns = own ++ foreignKeys ∧
      (∀ name, name ∈ inherited ↔ diagram.Inherits element name) ∧
      List.Forall₂ (diagram.KeptAs schema element)
        ((diagram.declaredColumns element).filter fun column =>
          column.primaryKey || !inherited.contains column.name) own ∧
      List.Forall₂ (fun place column => place.IsTakenBy schema column)
        (diagram.keysOn element.storedName) foreignKeys ∧
      ∀ other : Diagram, other.elements.Perm diagram.elements →
        other.relationships.Perm diagram.relationships →
          other.declaredColumns element = diagram.declaredColumns element ∧
            ∀ name, other.Inherits element name ↔ diagram.Inherits element name := by
  have hwell := joinedWellFormed_of_schema haccepted
  obtain ⟨foreignKeys, hfind, hkeys⟩ :=
    (growsBy_of_schema haccepted).keys _ _ (hwell.table?_eq hmem)
  rw [filterMap_keyPlace?_placements hwell.elements] at hkeys
  exact ⟨length_attributesOf hwell.elements hmem, _,
    inheritedNames (diagram.linkedSchema.ancestors element.storedName), _, foreignKeys, hfind, rfl,
    mem_inheritedNames_ancestors_iff hwell element, forall₂_keptAs haccepted hmem, hkeys,
    fun other helements hrelationships => ⟨declaredColumns_perm helements element,
      inherits_perm helements hrelationships element⟩⟩

/-- Of the shop's two associations the one that is not many-to-many gives the products a key. -/
theorem columns_of_schema_shop :
    shopProduct ∈ shop.storedElements ∧
      shop.keysOn shopProduct.storedName =
        [{ owner := "product", referenced := "staff", nullable := true, unique := false }] ∧
      ∃ table own foreignKey, shop.draft.schema.table? shopProduct.storedName = some table ∧
        table.columns = own ++ [foreignKey] ∧
        KeyPlace.IsTakenBy
          { owner := "product", referenced := "staff", nullable := true, unique := false }
          shop.draft.schema foreignKey := by
  have hmem : shopProduct ∈ shop.storedElements := by decide
  have hkeys : shop.keysOn shopProduct.storedName =
      [{ owner := "product", referenced := "staff", nullable := true, unique := false }] := by
    decide +kernel
  obtain ⟨-, table, -, own, foreignKeys, hfind, hcolumns, -, -, htaken, -⟩ :=
    columns_of_schema shop_schema hmem
  rw [hkeys] at htaken
  cases htaken with
  | cons hfirst hrest =>
    cases hrest
    exact ⟨hmem, hkeys, table, own, _, hfind, hcolumns, hfirst⟩

/-- The staff declare no key and yet have no generated one: their key is that of the users. -/
theorem key_of_shopStaff_not_generated :
    shop.schema = .ok shop.draft.schema ∧ shopStaff ∈ shop.storedElements ∧
      (∀ typed ∈ shop.attributesOf shopStaff,
        namesKey shopStaff.storedName typed.column = false) ∧
      ∃ table key, shop.draft.schema.table? shopStaff.storedName = some table ∧
        table.columns.head? = some key ∧ key.name = "id" ∧ key.sqlType ≠ "BIGINT" ∧
        key.generated = false ∧ surrogateKey ∉ table.columns := by
  have hkey : (shop.draft.schema.table? shopStaff.storedName).map (fun table =>
      (table.columns.head?.map fun key => (key.name, key.sqlType, key.generated),
        table.columns.contains surrogateKey)) = some (some ("id", "UUID", false), false) := by
    decide +kernel
  obtain ⟨table, hfind, hshape⟩ := Option.map_eq_some_iff.1 hkey
  rw [Prod.mk.injEq, Option.map_eq_some_iff] at hshape
  obtain ⟨⟨key, hhead, heq⟩, hnot⟩ := hshape
  rw [Prod.mk.injEq, Prod.mk.injEq] at heq
  refine ⟨shop_schema, by decide, by decide +kernel, table, key, hfind, hhead, heq.1, ?_, heq.2.2,
    by simpa using hnot⟩
  rw [heq.2.1]
  decide

end Diagram

end ClassDiagram
