import ClassDiagram.Proofs.Derivation.Acceptance
import ClassDiagram.Proofs.Derivation.Keys
import ClassDiagram.Proofs.Hierarchy.Cycles

/-!
# The passes that look for faults

A derivation goes over the elements three times: for ids that are used again, for the constants of
enumerations, and for tables. Then it goes over the relationships three times: for ends that do not
exist, for parents that cannot be given, and for cardinalities. What a pass finds in an item depends
on that item and on those before it, and a report keeps with each fault the place of the item.
-/

namespace ClassDiagram

/-! ## Reports -/

/-- Faults, each with the place of the item that it blames. -/
abbrev FaultReport := List (Nat × ModelFault)

namespace FaultReport

def faults (report : FaultReport) : List ModelFault :=
  report.map Prod.snd

/-- No fault stands behind one that blames a later item. -/
def FollowsInput (report : FaultReport) : Prop :=
  report.Pairwise fun left right => left.1 ≤ right.1

instance (report : FaultReport) : Decidable report.FollowsInput :=
  inferInstanceAs (Decidable (report.Pairwise fun left right => left.1 ≤ right.1))

@[simp]
theorem faults_nil : faults [] = [] := rfl

@[simp]
theorem faults_append (left right : FaultReport) :
    faults (left ++ right) = left.faults ++ right.faults :=
  List.map_append

@[simp]
theorem faults_map_place (place : Nat) (found : List ModelFault) :
    faults (found.map fun fault => (place, fault)) = found := by
  rw [faults, List.map_map]
  exact List.map_id found

end FaultReport

section Passes

variable {Item : Type} {find : List Item → Item → List ModelFault} {earlier items : List Item}

/-- What a pass finds in items that stand behind earlier ones. -/
def passReport (find : List Item → Item → List ModelFault) (earlier : List Item) :
    List Item → FaultReport
  | [] => []
  | item :: rest =>
    (find earlier item).map (fun fault => (earlier.length, fault))
      ++ passReport find (earlier ++ [item]) rest

theorem faults_passReport_cons (item : Item) :
    (passReport find earlier (item :: items)).faults =
      find earlier item ++ (passReport find (earlier ++ [item]) items).faults := by
  rw [passReport, FaultReport.faults_append, FaultReport.faults_map_place]

/-- A pass that looks at each item alone. -/
theorem faults_passReport_of_alone (find : Item → List ModelFault) (earlier items : List Item) :
    (passReport (fun _ => find) earlier items).faults = items.flatMap find := by
  induction items generalizing earlier with
  | nil => rfl
  | cons item rest ih => rw [faults_passReport_cons, ih, List.flatMap_cons]

theorem le_of_mem_passReport {place : Nat} {fault : ModelFault}
    (hmem : (place, fault) ∈ passReport find earlier items) : earlier.length ≤ place := by
  induction items generalizing earlier with
  | nil => exact absurd hmem List.not_mem_nil
  | cons item rest ih =>
    rcases List.mem_append.1 hmem with hhere | hlater
    · obtain ⟨_, -, heq⟩ := List.mem_map.1 hhere
      exact Nat.le_of_eq (Prod.mk.inj heq).1
    · have hlater := ih hlater
      rw [List.length_append, List.length_singleton] at hlater
      omega

/-- A fault of a pass is what the pass finds in the item at its place. -/
theorem mem_passReport_iff {place : Nat} {fault : ModelFault} :
    (place, fault) ∈ passReport find earlier items ↔
      ∃ front item back, items = front ++ item :: back ∧
        place = (earlier ++ front).length ∧ fault ∈ find (earlier ++ front) item := by
  induction items generalizing earlier with
  | nil => simp [passReport]
  | cons first rest ih =>
    rw [passReport, List.mem_append, ih]
    constructor
    · rintro (hhere | ⟨front, item, back, rfl, rfl, hfault⟩)
      · obtain ⟨fault, hfault, heq⟩ := List.mem_map.1 hhere
        cases heq
        exact ⟨[], first, rest, rfl, by simp, by simpa using hfault⟩
      · exact ⟨first :: front, item, back, rfl, by simp, by simpa using hfault⟩
    · rintro ⟨front, item, back, heq, rfl, hfault⟩
      cases front with
      | nil =>
        obtain ⟨rfl, rfl⟩ := List.cons.inj heq
        exact .inl (List.mem_map.2 ⟨fault, by simpa using hfault, by simp⟩)
      | cons _ front =>
        obtain ⟨rfl, rfl⟩ := List.cons.inj heq
        exact .inr ⟨front, item, back, rfl, by simp, by simpa using hfault⟩

/-- One pass finds its faults in the order of the items. -/
theorem followsInput_passReport (find : List Item → Item → List ModelFault)
    (earlier items : List Item) : (passReport find earlier items).FollowsInput := by
  induction items generalizing earlier with
  | nil => exact .nil
  | cons item rest ih =>
    rw [passReport, FaultReport.FollowsInput, List.pairwise_append]
    refine ⟨?_, ih _, ?_⟩
    · exact List.pairwise_map.2 (List.pairwise_of_forall fun _ _ => Nat.le_refl _)
    · intro left hleft right hright
      obtain ⟨_, -, rfl⟩ := List.mem_map.1 hleft
      have hlater : (earlier ++ [item]).length ≤ right.1 := le_of_mem_passReport hright
      rw [List.length_append, List.length_singleton] at hlater
      exact Nat.le_of_succ_le hlater

/-- A pass finds a fault in the item at this place. -/
def Blames (find : List Item → Item → List ModelFault) (items : List Item) (place : Nat) : Prop :=
  ∃ earlier item later, items = earlier ++ item :: later ∧ place = earlier.length ∧
    find earlier item ≠ []

theorem blames_iff {place : Nat} :
    Blames find items place ↔ ∃ fault, (place, fault) ∈ passReport find [] items := by
  simp only [mem_passReport_iff, List.nil_append]
  constructor
  · rintro ⟨earlier, item, later, heq, hplace, hfound⟩
    obtain ⟨fault, hfault⟩ := List.exists_mem_of_ne_nil _ hfound
    exact ⟨fault, earlier, item, later, heq, hplace, hfault⟩
  · rintro ⟨fault, earlier, item, later, heq, hplace, hfault⟩
    exact ⟨earlier, item, later, heq, hplace, List.ne_nil_of_mem hfault⟩

/-- Several passes report in the order of the items exactly if no pass blames an item that stands
before one which an earlier pass blames. -/
theorem followsInput_flatMap_iff {Pass : Type} (find : Pass → List Item → Item → List ModelFault)
    (items : List Item) (passes : List Pass) :
    FaultReport.FollowsInput (passes.flatMap fun pass => passReport (find pass) [] items) ↔
      passes.Pairwise fun former latter => ∀ place other, Blames (find former) items place →
        Blames (find latter) items other → place ≤ other := by
  rw [FaultReport.FollowsInput, List.pairwise_flatMap]
  simp only [blames_iff]
  constructor
  · rintro ⟨-, hacross⟩
    refine hacross.imp fun hle place other hplace hother => ?_
    obtain ⟨fault, hfault⟩ := hplace
    obtain ⟨fault', hfault'⟩ := hother
    exact hle _ hfault _ hfault'
  · intro hacross
    refine ⟨fun pass _ => followsInput_passReport (find pass) [] items, ?_⟩
    refine hacross.imp fun hle left hleft right hright => ?_
    exact hle left.1 right.1 ⟨left.2, hleft⟩ ⟨right.2, hright⟩

end Passes

/-! ## The elements -/

/-- The passes over the elements. -/
inductive ElementPass where
  | ids
  | constants
  | tables
  deriving DecidableEq, Repr

def ElementPass.all : List ElementPass :=
  [.ids, .constants, .tables]

namespace Element

/-- The first of the elements that is stored in the table of this name. -/
def owner? (elements : List Element) (name : String) : Option Element :=
  elements.find? fun element => element.kind.isStored && element.storedName == name

/-- What a pass finds in an element that stands behind others. -/
def faultsIn (enums : Catalog EnumType) :
    ElementPass → List Element → Element → List ModelFault
  | .ids, earlier, element =>
    if element.id ∈ earlier.map Element.id then [.duplicateElementId element.id] else []
  | .constants, _, element => if element.kind = .enumKind then element.constantFaults else []
  | .tables, earlier, element =>
    if element.kind.isStored then
      match owner? earlier element.storedName with
      | some first => [.duplicateTableName element.storedName first.id element.id]
      | none => (element.table enums).2
    else []

variable {enums : Catalog EnumType} {earlier : List Element} {element : Element}

theorem owner?_append_of_other (hother : element.kind.isStored = false) (name : String) :
    owner? (earlier ++ [element]) name = owner? earlier name := by
  simp [owner?, hother]

theorem owner?_append_of_stored (hstored : element.kind.isStored = true) (name : String) :
    owner? (earlier ++ [element]) name =
      (owner? earlier name).or (if element.storedName = name then some element else none) := by
  rw [owner?, List.find?_append, owner?]
  by_cases hname : element.storedName = name <;> simp [hstored, hname]

theorem duplicateIds_eq_faults (seen : List String) (earlier elements : List Element)
    (hseen : ∀ id, id ∈ seen ↔ id ∈ earlier.map Element.id) :
    duplicateIds seen elements = (passReport (faultsIn enums .ids) earlier elements).faults := by
  induction elements generalizing seen earlier with
  | nil => rfl
  | cons element rest ih =>
    rw [duplicateIds, faults_passReport_cons, ih (element.id :: seen) (earlier ++ [element])]
    · rw [faultsIn]
      by_cases hused : element.id ∈ seen
      · rw [if_pos (List.contains_iff_mem.2 hused), if_pos ((hseen _).1 hused)]
      · rw [if_neg (mt List.contains_iff_mem.1 hused), if_neg (mt (hseen _).2 hused)]
    · intro id
      simp [hseen id, or_comm]

theorem constantFaults_eq_faults (enums : Catalog EnumType) (earlier elements : List Element) :
    (elements.filter fun element => element.kind == .enumKind).flatMap constantFaults =
      (passReport (faultsIn enums .constants) earlier elements).faults := by
  induction elements generalizing earlier with
  | nil => rfl
  | cons element rest ih =>
    rw [faults_passReport_cons, ← ih, faultsIn]
    by_cases hkind : element.kind = .enumKind <;> simp [hkind]

end Element

/-! ## Keys of tables in a faulty draft -/

namespace Schema

variable {before after schema : Schema} {name : String}

/-- The table of this name is there, and has a key. -/
def HasKey (schema : Schema) (name : String) : Prop :=
  ∃ key, schema.keyOf? name = some key

theorem HasKey.mem_names (hkey : schema.HasKey name) : name ∈ schema.tables.names := by
  obtain ⟨key, hkey⟩ := hkey
  obtain ⟨table, hfind, -⟩ := keyOf?_eq_some_iff.1 hkey
  exact Catalog.mem_names_of_find? hfind

/-- A change that leaves every table a key. -/
theorem HasKey.of_map (hkey : before.HasKey name) {change : Table → Table}
    (hfind : after.table? name = (before.table? name).map change)
    (hkept : ∀ table, (change table).primaryKey?.isSome = table.primaryKey?.isSome) :
    after.HasKey name := by
  rw [HasKey, ← Option.isSome_iff_exists] at hkey ⊢
  rw [keyOf?, hfind]
  cases htable : before.table? name with
  | none => simp [keyOf?, htable] at hkey
  | some table =>
    rw [keyOf?, htable, Option.bind_some] at hkey
    rw [Option.map_some, Option.bind_some, hkept, hkey]

theorem HasKey.grow (hkey : before.HasKey name) (hgrows : before.GrowsTo after) :
    after.HasKey name := by
  obtain ⟨key, hkey⟩ := hkey
  exact ⟨key, hgrows.keyOf?_eq hkey⟩

theorem HasKey.followEdges (hkey : schema.HasKey name) (edges : List HierarchyEdge) :
    (schema.followEdges edges).1.HasKey name :=
  hkey.of_map ((followEdges_frame edges schema).2.2.2 name) fun _ => rfl

theorem HasKey.withoutCycles (hkey : schema.HasKey name) : schema.withoutCycles.HasKey name := by
  have hbreaks := schema.breaksUp_withoutCycles
  by_cases hcycle : schema.OnCycle name
  · exact hkey.of_map (hbreaks.cleared name hcycle) fun _ => rfl
  · obtain ⟨key, hkey⟩ := hkey
    exact ⟨key, by rw [keyOf?, hbreaks.kept name hcycle, ← hkey, keyOf?]⟩

theorem HasKey.fitChild (hkey : schema.HasKey name) (child : String) :
    ((schema.fitChild? child).getD schema).HasKey name := by
  have hfind : ((schema.fitChild? child).getD schema).table? name =
      (schema.table? name).map fun table =>
        if name = child then table.fitBelow (schema.ancestors child) else table := by
    rw [fitChild?_getD, table?, Catalog.find?_modify]
    by_cases hname : name = child <;> simp [hname, table?]
  refine hkey.of_map hfind fun table => ?_
  split
  · rw [← Option.isSome_map (f := Column.name), Table.map_name_primaryKey?_fitBelow,
      Option.isSome_map]
  · rfl

theorem HasKey.fitChildren (hkey : schema.HasKey name) : schema.fitChildren.HasKey name := by
  have hfold : ∀ (children : List String) (schema : Schema), schema.HasKey name →
      (children.foldl (fun schema child => (schema.fitChild? child).getD schema) schema).HasKey
        name := by
    intro children
    induction children with
    | nil => exact fun _ hkey => hkey
    | cons child rest ih => exact fun schema hkey => ih _ (hkey.fitChild child)
  exact hfold schema.childNames schema hkey

end Schema

theorem Element.exists_primaryKey_table (element : Element) (enums : Catalog EnumType) :
    ∃ key, (element.table enums).1.primaryKey? = some key := by
  rw [← Option.isSome_iff_exists, Table.primaryKey?, List.find?_isSome]
  change ∃ column ∈ withKey _, _
  rw [withKey]
  split
  · rename_i hany
    exact List.any_eq_true.1 hany
  · exact ⟨surrogateKey, List.mem_cons_self, rfl⟩

/-! ## The run over the elements -/

/-- The draft has the tables that elements lead to, with keys and without parents, and no others. -/
structure TableDraft.Records (draft : TableDraft) (enums : Catalog EnumType)
    (elements : List Element) : Prop where
  enums : draft.schema.enums = enums
  owners : ∀ name, (draft.schema.table? name).map Table.elementId =
    (Element.owner? elements name).map fun element => some element.id
  keys : ∀ entry ∈ draft.tableOf, draft.schema.HasKey entry.2
  roots : ∀ name, draft.schema.parent? name = none

namespace TableDraft.Records

variable {draft : TableDraft} {enums : Catalog EnumType} {earlier : List Element}
  {element : Element}

theorem skip (hrecords : draft.Records enums earlier) (hother : element.kind.isStored = false) :
    draft.Records enums (earlier ++ [element]) :=
  { hrecords with
    owners name := by rw [Element.owner?_append_of_other hother, hrecords.owners name] }

/-- A second element with a table name is blamed, and gets no table. -/
theorem addTable_of_taken (hrecords : draft.Records enums earlier)
    (hstored : element.kind.isStored = true) {existing : Table}
    (hfind : draft.schema.table? element.storedName = some existing) :
    (draft.addTable element).Records enums (earlier ++ [element]) ∧
      (draft.addTable element).faults =
        draft.faults ++ Element.faultsIn enums .tables earlier element := by
  have howner := hrecords.owners element.storedName
  rw [hfind, Option.map_some, eq_comm, Option.map_eq_some_iff] at howner
  obtain ⟨first, hfirst, hid⟩ := howner
  have heq : draft.addTable element = { draft with
      toDraft := draft.toDraft.blame
        [.duplicateTableName element.storedName first.id element.id] } := by
    have hfind' : draft.schema.table? (tableName element.className) = some existing := hfind
    simp only [TableDraft.addTable, hfind', ← hid]
    rfl
  rw [heq]
  refine ⟨{ hrecords with owners := fun name => ?_ }, ?_⟩
  · rw [Element.owner?_append_of_stored hstored]
    by_cases hname : element.storedName = name
    · rw [← hname, hfirst, Option.some_or, ← hfirst, ← hrecords.owners]
      rfl
    · rw [if_neg hname, Option.or_none, ← hrecords.owners]
      rfl
  · rw [Element.faultsIn, if_pos hstored, hfirst]
    rfl

/-- The first element with a table name gets its table. -/
theorem addTable_of_free (hrecords : draft.Records enums earlier)
    (hstored : element.kind.isStored = true)
    (hfind : draft.schema.table? element.storedName = none) :
    (draft.addTable element).Records enums (earlier ++ [element]) ∧
      (draft.addTable element).faults =
        draft.faults ++ Element.faultsIn enums .tables earlier element := by
  have howner := hrecords.owners element.storedName
  rw [hfind, Option.map_none, eq_comm, Option.map_eq_none_iff] at howner
  obtain ⟨hschema, hfaults, htableOf⟩ := addTable_of_new (Catalog.find?_eq_none_iff.1 hfind)
  have htable : ∀ name, (draft.addTable element).schema.table? name =
      if name = element.storedName then some (element.table enums).1
      else draft.schema.table? name := by
    intro name
    rw [hschema, Schema.table?, Catalog.find?_insert, hrecords.enums, Schema.table?]
  have hkeyOf : ∀ name, name = element.storedName ∨ draft.schema.HasKey name →
      (draft.addTable element).schema.HasKey name := by
    intro name hname
    rw [Schema.HasKey, Schema.keyOf?, htable]
    split
    · exact element.exists_primaryKey_table enums
    · exact hname.resolve_left (by assumption)
  refine ⟨⟨?_, fun name => ?_, fun entry hentry => ?_, fun name => ?_⟩, ?_⟩
  · rw [hschema, hrecords.enums]
  · rw [htable, Element.owner?_append_of_stored hstored]
    by_cases hname : name = element.storedName
    · rw [if_pos hname, hname, howner, if_pos rfl]
      rfl
    · rw [if_neg hname, if_neg (Ne.symm hname), Option.or_none, hrecords.owners]
  · rw [htableOf] at hentry
    refine hkeyOf entry.2 ((List.mem_cons.1 hentry).imp ?_ (hrecords.keys entry))
    rintro rfl
    rfl
  · rw [Schema.parent?, htable]
    split
    · rfl
    · exact hrecords.roots name
  · rw [hfaults, hrecords.enums, Element.faultsIn, if_pos hstored, howner]

/-- One step of the run. -/
theorem addTable (hrecords : draft.Records enums earlier)
    (hstored : element.kind.isStored = true) :
    (draft.addTable element).Records enums (earlier ++ [element]) ∧
      (draft.addTable element).faults =
        draft.faults ++ Element.faultsIn enums .tables earlier element := by
  cases hfind : draft.schema.table? element.storedName with
  | some existing => exact hrecords.addTable_of_taken hstored hfind
  | none => exact hrecords.addTable_of_free hstored hfind

/-- The whole run. -/
theorem foldl_addTable (elements : List Element) (hrecords : draft.Records enums earlier) :
    ((elements.filter fun element => element.kind.isStored).foldl TableDraft.addTable
        draft).Records enums (earlier ++ elements) ∧
      ((elements.filter fun element => element.kind.isStored).foldl TableDraft.addTable
        draft).faults =
        draft.faults ++ (passReport (Element.faultsIn enums .tables) earlier elements).faults := by
  induction elements generalizing draft earlier with
  | nil => simpa [passReport] using hrecords
  | cons element rest ih =>
    rw [faults_passReport_cons, ← List.append_assoc, List.append_cons]
    cases hstored : element.kind.isStored with
    | true =>
      obtain ⟨hnext, hfaults⟩ := hrecords.addTable hstored
      rw [List.filter_cons, hstored, if_pos rfl, List.foldl_cons, ← hfaults]
      exact ih hnext
    | false =>
      have hnothing : Element.faultsIn enums .tables earlier element = [] := by
        rw [Element.faultsIn, hstored, if_neg Bool.false_ne_true]
      rw [List.filter_cons, hstored, if_neg Bool.false_ne_true, hnothing, List.append_nil]
      exact ih (hrecords.skip hstored)

end TableDraft.Records

namespace Diagram

/-- The faults of the elements that passes find, pass by pass. -/
def elementReport (diagram : Diagram) (passes : List ElementPass) : FaultReport :=
  passes.flatMap fun pass =>
    passReport (Element.faultsIn diagram.enumDraft.schema.enums pass) [] diagram.elements

theorem elementDraft_records (diagram : Diagram) :
    diagram.elementDraft.Records diagram.enumDraft.schema.enums diagram.elements ∧
      diagram.elementDraft.faults = (diagram.elementReport ElementPass.all).faults := by
  obtain ⟨hfaults, htables, -⟩ := diagram.enumDraft_frame
  have hstart : TableDraft.Records { toDraft := diagram.enumDraft, tableOf := [] }
      diagram.enumDraft.schema.enums [] := by
    refine ⟨rfl, fun name => ?_, List.forall_mem_nil _, fun name => ?_⟩ <;>
      simp [Schema.parent?, Schema.table?, htables, Element.owner?]
  obtain ⟨hrecords, hrun⟩ := hstart.foldl_addTable diagram.elements
  refine ⟨hrecords, hrun.trans ?_⟩
  have hids := @Element.duplicateIds_eq_faults diagram.enumDraft.schema.enums [] [] diagram.elements
    (by simp)
  rw [show ({ toDraft := diagram.enumDraft, tableOf := [] } : TableDraft).faults =
    diagram.enumDraft.faults from rfl, hfaults, enumElements,
    Element.constantFaults_eq_faults diagram.enumDraft.schema.enums [], hids]
  simp [elementReport, ElementPass.all]

end Diagram

end ClassDiagram
