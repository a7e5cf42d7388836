import ClassDiagram.Proofs.Derivation.Soundness

/-!
# Further elements

What the derivation makes of a diagram to which stored elements are added behind all others, up to
the point where structural relationships are looked at. The new elements have no relationships, so
their tables stand by themselves behind the tables that were there, and those are the same as
before: types are still read with the same enumerations, and nothing is fitted to other ancestors.
-/

namespace ClassDiagram

namespace Schema

variable {left right : Schema}

/-- The walk along the parents stays among the tables that were there. -/
theorem Ascent.extend
    (hkept : ∀ name table, left.table? name = some table → right.table? name = some table)
    (hparents : ∀ name table, left.table? name = some table → ∀ parent,
      table.parent = some parent → parent ∈ left.tables.names)
    {current : Option String} {above : List Table} (hascent : left.Ascent current above)
    (hcurrent : ∀ name, current = some name → name ∈ left.tables.names) :
    right.Ascent current above := by
  induction hascent with
  | root => exact .root
  | missing hmissing => exact absurd (hcurrent _ rfl) (Catalog.find?_eq_none_iff.1 hmissing)
  | step hfind _ ih => exact .step (hkept _ _ hfind) (ih (hparents _ _ hfind))

theorem Flat.fit_eq_fit (hleft : left.Flat) (hright : right.Flat)
    (hkept : ∀ name table, left.table? name = some table → right.table? name = some table)
    {name : String} {table : Table} (hfind : left.table? name = some table) :
    right.fit table = left.fit table := by
  obtain rfl : table.name = name := hleft.stored name table hfind
  have hparent : right.parent? table.name = left.parent? table.name := by
    rw [parent?, parent?, hfind, hkept _ _ hfind]
  have habove := ascent_ancestors hleft.acyclic hleft.stored table.name
  have hextended := habove.extend hkept hleft.parents fun parent hcurrent =>
    hleft.parents _ _ hfind parent (by rwa [parent?, hfind] at hcurrent)
  rw [fit, fit, ancestors_eq_of_ascent hright.acyclic hright.stored (hparent ▸ hextended)]

end Schema

namespace Diagram

/-- Relationships have the same places if their ends are stored in the same tables. -/
theorem placements_congr {diagram other : Diagram} (hother : other.JoinedWellFormed)
    (hwell : diagram.JoinedWellFormed) (hrelationships : other.relationships = diagram.relationships)
    (hstores : ∀ id ∈ diagram.elementIds, ∀ table,
      other.Stores id table ↔ diagram.Stores id table) : other.placements = diagram.placements := by
  have hlookup : ∀ id ∈ diagram.elementIds,
      other.elementDraft.tableOf.lookup id = diagram.elementDraft.tableOf.lookup id := by
    intro id hid
    apply Option.ext
    intro table
    rw [lookup_tableOf_iff hother.elements, lookup_tableOf_iff hwell.elements, hstores id hid]
  rw [placements, placedRelationships, placements, placedRelationships, hrelationships]
  apply List.map_congr_left
  intro relationship hmem
  obtain ⟨hsource, htarget⟩ := hwell.ends relationship hmem
  obtain ⟨hsource', htarget'⟩ := hother.ends relationship (hrelationships ▸ hmem)
  simp only [Relationship.placement, danglingFaults_eq_nil_iff.2 ⟨hsource, htarget⟩,
    danglingFaults_eq_nil_iff.2 ⟨hsource', htarget'⟩, hlookup _ hsource, hlookup _ htarget]

/-- The diagram with further elements, which have no relationships yet. -/
def withElements (diagram : Diagram) (added : List Element) : Diagram :=
  { diagram with elements := diagram.elements ++ added }

variable {diagram : Diagram} {added : List Element}

section Stored

variable (hadded : ∀ element ∈ added, element.kind.isStored = true)

include hadded

theorem storedElements_withElements :
    (diagram.withElements added).storedElements = diagram.storedElements ++ added := by
  rw [storedElements, withElements, List.filter_append, List.filter_eq_self.2 hadded,
    storedElements]

theorem enumElements_withElements :
    (diagram.withElements added).enumElements = diagram.enumElements := by
  have hnone : added.filter (fun element => element.kind == .enumKind) = [] := by
    rw [List.filter_eq_nil_iff]
    intro element hmem henum
    have hkind := hadded element hmem
    rw [beq_iff_eq.1 henum] at hkind
    cases hkind
  rw [enumElements, withElements, List.filter_append, hnone, List.append_nil, enumElements]

theorem declaredTable_withElements (element : Element) :
    (diagram.withElements added).declaredTable element = diagram.declaredTable element := by
  have htypes : (diagram.withElements added).typing? = diagram.typing? := by
    funext token
    have hnames : (diagram.withElements added).NamesEnum token ↔ diagram.NamesEnum token := by
      rw [NamesEnum, NamesEnum, enumElements_withElements hadded]
    simp only [typing?, hnames]
  rw [declaredTable, declaredTable, attributesOf, attributesOf, htypes]

variable (hlater : (diagram.withElements added).JoinedWellFormed)

include hlater

theorem stores_withElements_iff {id table : String} (hid : id ∈ diagram.elementIds) :
    (diagram.withElements added).Stores id table ↔ diagram.Stores id table := by
  simp only [Stores, storedElements_withElements hadded, List.mem_append]
  constructor
  · rintro ⟨element, hmem | hnew, rfl, rfl⟩
    · exact ⟨element, hmem, rfl, rfl⟩
    · have hids := hlater.elements.ids
      rw [elementIds, withElements, List.map_append] at hids
      exact absurd (List.mem_map_of_mem hnew) (hids.disjoint hid)
  · rintro ⟨element, hmem, hname⟩
    exact ⟨element, .inl hmem, hname⟩

theorem storedName_not_mem_of_mem_added {element : Element} (hnew : element ∈ added) :
    element.storedName ∉ diagram.storedElements.map Element.storedName := by
  have hnames := hlater.elements.tables
  rw [storedElements_withElements hadded, List.map_append] at hnames
  exact fun hold => hnames.disjoint hold (List.mem_map_of_mem hnew)

variable (hwell : diagram.JoinedWellFormed)

include hwell

theorem placements_withElements :
    (diagram.withElements added).placements = diagram.placements :=
  placements_congr hlater hwell rfl fun _ hid _ => stores_withElements_iff hadded hlater hid

theorem linkedTable_withElements (element : Element) :
    (diagram.withElements added).linkedTable element = diagram.linkedTable element := by
  rw [linkedTable, linkedTable, declaredTable_withElements hadded, edges, edges,
    placements_withElements hadded hlater hwell]

theorem table?_linkedSchema_withElements {name : String} {table : Table}
    (hfind : diagram.linkedSchema.table? name = some table) :
    (diagram.withElements added).linkedSchema.table? name = some table := by
  obtain ⟨element, hmem, rfl, rfl⟩ := table?_linkedSchema_eq_some hwell.elements hfind
  rw [table?_linkedSchema hlater.elements, linkedTable_withElements hadded hlater hwell]
  rw [storedElements_withElements hadded]
  exact List.mem_append_left added hmem

/-- A new element extends nothing. -/
theorem linkedTable_of_mem_added {element : Element} (hnew : element ∈ added) :
    (diagram.withElements added).linkedTable element = diagram.declaredTable element := by
  have hparent : parentIn diagram.edges element.storedName = none := by
    rw [Option.eq_none_iff_forall_ne_some]
    intro parent hsome
    have hextends := (extends_iff hwell.elements).2 (exists_edge_of_parentIn hsome)
    obtain ⟨_, -, -, ⟨child, hchild, -, hname⟩, -⟩ := hextends
    exact storedName_not_mem_of_mem_added hadded hlater hnew
      (hname ▸ List.mem_map_of_mem hchild)
  rw [linkedTable_withElements hadded hlater hwell, linkedTable, hparent]
  rfl

/-- Before structural relationships are added the tables of new elements stand, as declared, behind
those that were there. -/
theorem entries_joinedDraft_withElements :
    (diagram.withElements added).joinedDraft.schema.tables.entries =
      diagram.joinedDraft.schema.tables.entries ++
        added.map fun element => (element.storedName, diagram.declaredTable element) := by
  rw [hlater.entries_eq, hwell.entries_eq, storedElements_withElements hadded,
    List.map_append]
  refine congrArg₂ (fun old new => old ++ new) (List.map_congr_left fun element hmem => ?_)
    (List.map_congr_left fun element hnew => ?_)
  · rw [linkedTable_withElements hadded hlater hwell, hwell.flat.fit_eq_fit hlater.flat
      (fun _ _ => table?_linkedSchema_withElements hadded hlater hwell)
      (table?_linkedSchema hwell.elements hmem)]
  · have hmem : element ∈ (diagram.withElements added).storedElements := by
      rw [storedElements_withElements hadded]
      exact List.mem_append_right _ hnew
    have htable := linkedTable_of_mem_added hadded hlater hwell hnew
    rw [hlater.flat.fit_eq_self (table?_linkedSchema hlater.elements hmem) (htable ▸ rfl), htable]

end Stored

end Diagram

end ClassDiagram
