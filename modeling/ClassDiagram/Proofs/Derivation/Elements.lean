import ClassDiagram.Proofs.Catalog
import ClassDiagram.Proofs.Derivation.Attributes

/-!
# Tables of the elements

What the derivation makes of the elements before it comes to their relationships. It finds no fault
exactly if ids and table names are all different and every declaration can be read; then every
stored element has its table, in the order of the elements.
-/

namespace ClassDiagram

open Text

/-- The name of the table in which instances of an element are stored. -/
def Element.storedName (element : Element) : String :=
  tableName element.className

namespace Diagram

/-- An enumeration of the diagram has this name. -/
def NamesEnum (diagram : Diagram) (token : String) : Prop :=
  ∃ element ∈ diagram.enumElements, trimmed element.className = token

instance (diagram : Diagram) (token : String) : Decidable (diagram.NamesEnum token) :=
  inferInstanceAs (Decidable (∃ element ∈ diagram.enumElements, trimmed element.className = token))

/-- What a type token stands for in a diagram. -/
def typing? (diagram : Diagram) (token : String) : Option Typing :=
  if diagram.NamesEnum token then some (Typing.ofEnum token) else ClassDiagram.typing? token

/-- The attributes of an element whose declarations can be read. -/
def attributesOf (diagram : Diagram) (element : Element) : List TypedAttribute :=
  element.attributes.filterMap fun declaration => do
    let declared ← (Attribute.read declaration).toOption
    let typing ← diagram.typing? declared.typeToken
    return (declared, typing)

def startDraft (diagram : Diagram) : Draft :=
  { schema := Schema.empty, faults := duplicateIds [] diagram.elements, notes := [] }

/-- The draft with all enumerations and no table. -/
def enumDraft (diagram : Diagram) : Draft :=
  diagram.enumElements.foldl Draft.addEnum diagram.startDraft

theorem elementDraft_eq (diagram : Diagram) :
    diagram.elementDraft = diagram.storedElements.foldl TableDraft.addTable
      { toDraft := diagram.enumDraft, tableOf := [] } := rfl

end Diagram

theorem duplicateIds_eq_nil_iff (seen : List String) (elements : List Element) :
    duplicateIds seen elements = [] ↔
      (elements.map Element.id).Nodup ∧ ∀ element ∈ elements, element.id ∉ seen := by
  induction elements generalizing seen with
  | nil => simp [duplicateIds]
  | cons element rest ih =>
    rw [duplicateIds, List.append_eq_nil_iff, ih,
      Catalog.nodup_and_new_cons_iff Element.id (· ∈ seen)]
    by_cases hseen : element.id ∈ seen <;> simp [hseen]

/-! ## Enumerations -/

namespace Draft

variable {draft : Draft}

theorem addEnum_frame (draft : Draft) (element : Element) :
    (draft.addEnum element).faults = draft.faults ++ element.constantFaults ∧
      (draft.addEnum element).schema.tables = draft.schema.tables ∧
      (draft.addEnum element).schema.links = draft.schema.links := by
  rw [addEnum]
  split <;> exact ⟨rfl, rfl, rfl⟩

/-- A later element with the name of an earlier one leaves no trace in the schema. -/
theorem schema_addEnum_of_mem {element : Element}
    (hused : trimmed element.className ∈ draft.schema.enums.names) :
    (draft.addEnum element).schema = draft.schema := by
  have hcontains : draft.schema.enums.contains element.enumType.name = true :=
    Catalog.contains_iff.2 hused
  simp only [addEnum, blame, hcontains, if_true]
  rfl

theorem enums_addEnum_of_not_mem {element : Element}
    (hnew : trimmed element.className ∉ draft.schema.enums.names) :
    (draft.addEnum element).schema.enums =
      draft.schema.enums.insert (trimmed element.className) element.enumType := by
  have hcontains : draft.schema.enums.contains element.enumType.name = false :=
    Bool.eq_false_iff.2 fun h => hnew (Catalog.contains_iff.1 h)
  simp only [addEnum, blame, hcontains, Bool.false_eq_true, if_false]
  rfl

theorem find?_enums_addEnum (draft : Draft) (element : Element) (name : String) :
    (draft.addEnum element).schema.enums.find? name =
      (draft.schema.enums.find? name).or
        (if name = trimmed element.className then some element.enumType else none) := by
  by_cases hused : trimmed element.className ∈ draft.schema.enums.names
  · obtain ⟨existing, hfind⟩ := Catalog.mem_names_iff.1 hused
    rw [schema_addEnum_of_mem hused]
    by_cases hname : name = trimmed element.className
    · simp [hname, hfind]
    · simp [hname]
  · rw [enums_addEnum_of_not_mem hused, Catalog.find?_insert]
    by_cases hname : name = trimmed element.className
    · simp [hname, Catalog.find?_eq_none_iff.2 hused]
    · simp [hname]

theorem foldl_addEnum_frame (elements : List Element) (draft : Draft) :
    (elements.foldl addEnum draft).faults =
        draft.faults ++ elements.flatMap Element.constantFaults ∧
      (elements.foldl addEnum draft).schema.tables = draft.schema.tables ∧
      (elements.foldl addEnum draft).schema.links = draft.schema.links := by
  induction elements generalizing draft with
  | nil => exact ⟨(List.append_nil _).symm, rfl, rfl⟩
  | cons element rest ih =>
    obtain ⟨hfaults, htables, hlinks⟩ := ih (draft.addEnum element)
    obtain ⟨hfaults', htables', hlinks'⟩ := draft.addEnum_frame element
    exact ⟨by rw [List.foldl_cons, hfaults, hfaults', List.flatMap_cons, List.append_assoc],
      htables.trans htables', hlinks.trans hlinks'⟩

/-- An enumeration is found under a name exactly if an element has it, and it bears that name. -/
theorem find?_enums_foldl_addEnum (elements : List Element) (draft : Draft) (name : String) :
    (elements.foldl addEnum draft).schema.enums.find? name =
      (draft.schema.enums.find? name).or
        ((elements.find? fun element => name == trimmed element.className).map
          Element.enumType) := by
  induction elements generalizing draft with
  | nil => simp
  | cons element rest ih =>
    rw [List.foldl_cons, ih, find?_enums_addEnum, Option.or_assoc]
    by_cases hname : name = trimmed element.className <;> simp [hname]

end Draft

theorem Diagram.typingIn?_enumDraft (diagram : Diagram) (token : String) :
    typingIn? diagram.enumDraft.schema.enums token = diagram.typing? token := by
  have hfind : diagram.enumDraft.schema.enums.find? token =
      (diagram.enumElements.find? fun element => token == trimmed element.className).map
        Element.enumType := by
    rw [enumDraft, Draft.find?_enums_foldl_addEnum, startDraft, Schema.empty, Catalog.find?_empty,
      Option.none_or]
  rw [typingIn?, hfind, Diagram.typing?]
  cases hnamed : diagram.enumElements.find? fun element => token == trimmed element.className with
  | none =>
    have hnone : ¬ diagram.NamesEnum token := by
      rintro ⟨element, hmem, hname⟩
      simpa [hname] using List.find?_eq_none.1 hnamed element hmem
    rw [if_neg hnone]
    rfl
  | some element =>
    have hname : token = trimmed element.className := by simpa using List.find?_some hnamed
    rw [if_pos ⟨element, List.mem_of_find?_eq_some hnamed, hname.symm⟩, hname]
    rfl

/-! ## One table -/

namespace Element

variable {element : Element} {enums : Catalog EnumType}

/-- The table of an element whose attributes are known. -/
def declaredTable (element : Element) (attributes : List TypedAttribute) : Table :=
  { name := element.storedName
    columns := withKey (attributeColumns element.storedName attributes)
    elementId := some element.id
    parent := none
    isAbstract := element.kind == .abstractKind
    methods := element.declaredMethods }

theorem constantFaults_eq_nil_iff :
    element.constantFaults = [] ↔
      ∀ declaration ∈ element.attributes, ∃ name, readConstant declaration = .ok name := by
  rw [constantFaults, List.filterMap_eq_nil_iff]
  refine forall₂_congr fun declaration _ => ?_
  cases readConstant declaration <;> simp

theorem methodFaults_eq_nil_iff :
    element.methodFaults = [] ↔
      ∀ signature ∈ element.methods, ∃ method, Method.read signature = .ok method := by
  rw [methodFaults, List.filterMap_eq_nil_iff]
  refine forall₂_congr fun signature _ => ?_
  cases Method.read signature <;> simp

theorem table_faults_eq_nil_iff :
    (element.table enums).2 = [] ↔
      (∀ declaration ∈ element.attributes, ∃ typed,
        element.readAttribute enums declaration = .ok typed) ∧
      ((element.typedAttributes enums element.attributes).map TypedAttribute.column).Nodup ∧
      ∀ signature ∈ element.methods, ∃ method, Method.read signature = .ok method := by
  rw [show (element.table enums).2 = (element.declaredColumns enums element.storedName []
      element.attributes).2 ++ element.methodFaults from rfl, List.append_eq_nil_iff,
    declaredColumns_faults_eq_nil_iff, methodFaults_eq_nil_iff, and_assoc, and_assoc]
  simp

theorem table_fst (hfaults : (element.table enums).2 = []) :
    (element.table enums).1 =
      element.declaredTable (element.typedAttributes enums element.attributes) := by
  have hcolumns : (element.declaredColumns enums element.storedName [] element.attributes).2 = [] :=
    (List.append_eq_nil_iff.1 hfaults).1
  have hfst := declaredColumns_fst hcolumns
  rw [List.nil_append, addedColumns, List.any_nil, if_neg Bool.false_ne_true] at hfst
  rw [declaredTable, ← hfst]
  rfl

theorem readAttribute_enumDraft (element : Element) (diagram : Diagram) (declaration : String) :
    (element.readAttribute diagram.enumDraft.schema.enums declaration).toOption = (do
      let declared ← (Attribute.read declaration).toOption
      let typing ← diagram.typing? declared.typeToken
      return (declared, typing)) := by
  rw [readAttribute]
  cases Attribute.read declaration with
  | error reason => rfl
  | ok declared =>
    simp only [diagram.typingIn?_enumDraft, Except.toOption, Option.bind_eq_bind, Option.bind_some]
    cases diagram.typing? declared.typeToken <;> rfl

theorem typedAttributes_enumDraft (diagram : Diagram) :
    element.typedAttributes diagram.enumDraft.schema.enums element.attributes =
      diagram.attributesOf element := by
  rw [typedAttributes, Diagram.attributesOf]
  congr 1
  funext declaration
  exact readAttribute_enumDraft element diagram declaration

/-- A declaration is accepted if it is an attribute of a type that stands for something. -/
theorem readAttribute_eq_ok_iff (diagram : Diagram) (declaration : String) :
    (∃ typed, element.readAttribute diagram.enumDraft.schema.enums declaration = .ok typed) ↔
      ∃ declared, Attribute.read declaration = .ok declared ∧
        (diagram.NamesEnum declared.typeToken ∨
          (ClassDiagram.typing? declared.typeToken).isSome) := by
  rw [readAttribute]
  cases Attribute.read declaration with
  | error reason => simp
  | ok declared =>
    simp only [diagram.typingIn?_enumDraft, Diagram.typing?]
    by_cases hnamed : diagram.NamesEnum declared.typeToken
    · simp [hnamed]
    · cases htyping : ClassDiagram.typing? declared.typeToken <;> simp [hnamed, htyping]

end Element

/-! ## All tables -/

namespace TableDraft

variable {draft : TableDraft} {element : Element}

theorem addTable_of_used (hused : element.storedName ∈ draft.schema.tables.names) :
    ∃ first, draft.addTable element = { draft with
      toDraft := draft.toDraft.blame
        [.duplicateTableName element.storedName first element.id] } := by
  obtain ⟨existing, hfind⟩ := Catalog.mem_names_iff.1 hused
  have hfind' : draft.schema.table? (tableName element.className) = some existing := hfind
  refine ⟨existing.elementId.getD "", ?_⟩
  simp only [addTable, hfind']
  rfl

theorem addTable_of_new (hnew : element.storedName ∉ draft.schema.tables.names) :
    (draft.addTable element).schema =
        { draft.schema with
          tables := draft.schema.tables.insert element.storedName
            (element.table draft.schema.enums).1 } ∧
      (draft.addTable element).faults =
        draft.faults ++ (element.table draft.schema.enums).2 ∧
      (draft.addTable element).tableOf = (element.id, element.storedName) :: draft.tableOf := by
  have hfind : draft.schema.table? (tableName element.className) = none :=
    Catalog.find?_eq_none_iff.2 hnew
  simp only [addTable, hfind]
  exact ⟨rfl, rfl, rfl⟩

theorem foldl_addTable_faults_ne_nil (elements : List Element) (hfaults : draft.faults ≠ []) :
    (elements.foldl addTable draft).faults ≠ [] := by
  induction elements generalizing draft with
  | nil => exact hfaults
  | cons element rest ih =>
    apply ih
    by_cases hused : element.storedName ∈ draft.schema.tables.names
    · obtain ⟨first, heq⟩ := addTable_of_used hused
      rw [heq]
      exact fun hnil => hfaults (List.append_eq_nil_iff.1 hnil).1
    · rw [(addTable_of_new hused).2.1]
      exact fun hnil => hfaults (List.append_eq_nil_iff.1 hnil).1

theorem foldl_addTable_faults_eq_nil_iff (elements : List Element) (draft : TableDraft) :
    (elements.foldl addTable draft).faults = [] ↔ draft.faults = [] ∧
      (elements.map Element.storedName).Nodup ∧
      (∀ element ∈ elements, element.storedName ∉ draft.schema.tables.names) ∧
      ∀ element ∈ elements, (element.table draft.schema.enums).2 = [] := by
  induction elements generalizing draft with
  | nil => simp
  | cons element rest ih =>
    rw [List.foldl_cons, ← and_assoc (c := ∀ other ∈ element :: rest, _),
      Catalog.nodup_and_new_cons_iff Element.storedName (· ∈ draft.schema.tables.names),
      List.forall_mem_cons]
    by_cases hused : element.storedName ∈ draft.schema.tables.names
    · obtain ⟨first, heq⟩ := addTable_of_used hused
      have hblamed : (draft.addTable element).faults ≠ [] := by
        rw [heq]
        exact fun hnil => List.cons_ne_nil _ _ (List.append_eq_nil_iff.1 hnil).2
      simp [foldl_addTable_faults_ne_nil rest hblamed, hused]
    · obtain ⟨hschema, hfaults, -⟩ := addTable_of_new hused
      rw [ih, hschema, hfaults, List.append_eq_nil_iff]
      simp only [Catalog.mem_names_insert]
      constructor
      · rintro ⟨⟨hstart, htable⟩, hdistinct, hnew, hrest⟩
        exact ⟨hstart, ⟨hused, hdistinct, hnew⟩, htable, hrest⟩
      · rintro ⟨hstart, ⟨-, hdistinct, hnew⟩, htable, hrest⟩
        exact ⟨⟨hstart, htable⟩, hdistinct, hnew, hrest⟩

/-- Elements with new and different table names get their tables one after the other. -/
theorem foldl_addTable_frame (elements : List Element) (draft : TableDraft)
    (hdistinct : (elements.map Element.storedName).Nodup)
    (hnew : ∀ element ∈ elements, element.storedName ∉ draft.schema.tables.names) :
    (elements.foldl addTable draft).schema.tables.entries = draft.schema.tables.entries ++
        elements.map (fun element =>
          (element.storedName, (element.table draft.schema.enums).1)) ∧
      (elements.foldl addTable draft).schema.links = draft.schema.links ∧
      (elements.foldl addTable draft).schema.enums = draft.schema.enums ∧
      (elements.foldl addTable draft).tableOf =
        (elements.map fun element => (element.id, element.storedName)).reverse ++
          draft.tableOf := by
  induction elements generalizing draft with
  | nil => simp
  | cons element rest ih =>
    rw [List.map_cons, List.nodup_cons] at hdistinct
    rw [List.forall_mem_cons] at hnew
    obtain ⟨hschema, -, htableOf⟩ := addTable_of_new hnew.1
    have hfree : ∀ other ∈ rest,
        other.storedName ∉ (draft.addTable element).schema.tables.names := by
      intro other hother
      rw [hschema, Catalog.mem_names_insert, not_or]
      exact ⟨fun heq => hdistinct.1 (List.mem_map.2 ⟨other, hother, heq⟩), hnew.2 other hother⟩
    obtain ⟨hentries, hlinks, henums, htables⟩ := ih (draft.addTable element) hdistinct.2 hfree
    refine ⟨?_, ?_, ?_, ?_⟩
    · rw [List.foldl_cons, hentries, hschema, Catalog.entries_insert_of_not_mem _ hnew.1]
      simp
    · rw [List.foldl_cons, hlinks, hschema]
    · rw [List.foldl_cons, henums, hschema]
    · rw [List.foldl_cons, htables, htableOf]
      simp

end TableDraft

/-! ## The draft of the elements -/

namespace Diagram

variable {diagram : Diagram}

theorem enumDraft_frame (diagram : Diagram) :
    diagram.enumDraft.faults = duplicateIds [] diagram.elements ++
        diagram.enumElements.flatMap Element.constantFaults ∧
      diagram.enumDraft.schema.tables = Catalog.empty ∧ diagram.enumDraft.schema.links = [] :=
  Draft.foldl_addEnum_frame diagram.enumElements diagram.startDraft

/-- What a diagram must keep to before its relationships are looked at. -/
structure ElementsWellFormed (diagram : Diagram) : Prop where
  ids : diagram.elementIds.Nodup
  constants : ∀ element ∈ diagram.enumElements, ∀ declaration ∈ element.attributes,
    ∃ name, readConstant declaration = .ok name
  tables : (diagram.storedElements.map Element.storedName).Nodup
  attributes : ∀ element ∈ diagram.storedElements, ∀ declaration ∈ element.attributes,
    ∃ declared, Attribute.read declaration = .ok declared ∧
      (diagram.NamesEnum declared.typeToken ∨
        (ClassDiagram.typing? declared.typeToken).isSome)
  columns : ∀ element ∈ diagram.storedElements,
    ((diagram.attributesOf element).map TypedAttribute.column).Nodup
  methods : ∀ element ∈ diagram.storedElements, ∀ signature ∈ element.methods,
    ∃ method, Method.read signature = .ok method

theorem elementDraft_faults_eq_nil_iff :
    diagram.elementDraft.faults = [] ↔ diagram.ElementsWellFormed := by
  obtain ⟨hfaults, htables, -⟩ := diagram.enumDraft_frame
  rw [elementDraft_eq, TableDraft.foldl_addTable_faults_eq_nil_iff]
  simp only [hfaults, htables, List.append_eq_nil_iff, duplicateIds_eq_nil_iff,
    List.flatMap_eq_nil_iff, Element.constantFaults_eq_nil_iff, Element.table_faults_eq_nil_iff,
    Element.readAttribute_eq_ok_iff, Element.typedAttributes_enumDraft, Catalog.names_empty]
  constructor
  · rintro ⟨⟨⟨hids, -⟩, hconstants⟩, hnames, -, helements⟩
    exact ⟨hids, hconstants, hnames, fun element hmem => (helements element hmem).1,
      fun element hmem => (helements element hmem).2.1,
      fun element hmem => (helements element hmem).2.2⟩
  · rintro ⟨hids, hconstants, hnames, hattributes, hcolumns, hmethods⟩
    exact ⟨⟨⟨hids, by simp⟩, hconstants⟩, hnames, by simp, fun element hmem =>
      ⟨hattributes element hmem, hcolumns element hmem, hmethods element hmem⟩⟩

/-- The table of a stored element before any relationship is looked at. -/
def declaredTable (diagram : Diagram) (element : Element) : Table :=
  element.declaredTable (diagram.attributesOf element)

theorem elementDraft_frame (hwell : diagram.ElementsWellFormed) :
    diagram.elementDraft.schema.tables.entries = diagram.storedElements.map (fun element =>
        (element.storedName, diagram.declaredTable element)) ∧
      diagram.elementDraft.schema.links = [] ∧
      diagram.elementDraft.tableOf =
        (diagram.storedElements.map fun element => (element.id, element.storedName)).reverse := by
  obtain ⟨hfaults, htables, hlinks⟩ := diagram.enumDraft_frame
  have hnew : ∀ element ∈ diagram.storedElements,
      element.storedName ∉ diagram.enumDraft.schema.tables.names := by simp [htables]
  obtain ⟨hentries, hlinks', -, htableOf⟩ := TableDraft.foldl_addTable_frame
    diagram.storedElements { toDraft := diagram.enumDraft, tableOf := [] } hwell.tables hnew
  rw [elementDraft_eq, hentries, hlinks', htableOf, htables]
  refine ⟨?_, hlinks, List.append_nil _⟩
  rw [show (Catalog.empty : Catalog Table).entries = [] from rfl, List.nil_append]
  apply List.map_congr_left
  intro element hmem
  have hclean := elementDraft_faults_eq_nil_iff.2 hwell
  rw [elementDraft_eq, TableDraft.foldl_addTable_faults_eq_nil_iff] at hclean
  rw [Element.table_fst (hclean.2.2.2 element hmem), Element.typedAttributes_enumDraft,
    declaredTable]

end Diagram

end ClassDiagram
