import ClassDiagram.Schema.Basic

/-!
# Ancestors

The tables above a table in the hierarchy. In a schema made by hand the parents may run in a
circle; the walk stops before it would meet a table again.
-/

namespace ClassDiagram

theorem length_filter_lt_length_filter {α : Type} {items : List α} {kept left : α → Bool}
    (himplies : ∀ item, kept item = true → left item = true) {item : α} (hmem : item ∈ items)
    (hleft : left item = true) (hkept : kept item = false) :
    (items.filter kept).length < (items.filter left).length := by
  induction items with
  | nil => cases hmem
  | cons first rest ih =>
    have hrest : (rest.filter kept).length ≤ (rest.filter left).length := by
      rw [← List.countP_eq_length_filter, ← List.countP_eq_length_filter]
      exact List.countP_mono_left fun item _ => himplies item
    rcases List.mem_cons.1 hmem with rfl | hmem
    · simp only [List.filter_cons, hleft, hkept, if_true, Bool.false_eq_true, if_false,
        List.length_cons]
      omega
    · have hlt := ih hmem
      simp only [List.filter_cons]
      cases hfirst : kept first with
      | true => simp [himplies first hfirst, hlt]
      | false => cases left first <;> simp <;> omega

namespace Schema

/-- The tables whose names are not among those of the chain. -/
def unvisited (schema : Schema) (chain : List Table) : List Table :=
  schema.tables.values.filter fun table => !chain.any fun visited => visited.name == table.name

theorem mem_values_of_find? {α : Type} {catalog : Catalog α} {name : String} {value : α}
    (hfind : catalog.find? name = some value) : value ∈ catalog.values := by
  unfold Catalog.find? at hfind
  unfold Catalog.values
  generalize catalog.entries = entries at hfind ⊢
  induction entries with
  | nil => cases hfind
  | cons entry rest ih =>
    rw [List.lookup_cons] at hfind
    rw [List.map_cons, List.mem_cons]
    cases hname : name == entry.1 with
    | true => simp_all
    | false => exact Or.inr (ih (by simpa [hname] using hfind))

/-- The chain extended from a parent name on, until a name is missing or a table comes back. -/
def ancestorsFrom (schema : Schema) (start : String) (chain : List Table) :
    Option String → List Table
  | none => chain
  | some name =>
    match hfind : schema.tables.find? name with
    | none => chain
    | some parent =>
      if hmet : (chain.any fun visited => visited.name == parent.name) || parent.name == start then
        chain
      else
        have hfewer : (schema.unvisited (chain ++ [parent])).length
            < (schema.unvisited chain).length := by
          simp only [Bool.or_eq_true, not_or, Bool.not_eq_true] at hmet
          refine length_filter_lt_length_filter ?_ (mem_values_of_find? hfind) ?_ ?_
          · intro table hkept
            simp only [List.any_append, Bool.not_eq_true', Bool.or_eq_false_iff] at hkept ⊢
            exact hkept.1
          · simp only [hmet.1, Bool.not_false]
          · simp
        ancestorsFrom schema start (chain ++ [parent]) parent.parent
termination_by (schema.unvisited chain).length

/-- The tables above the table under a name, the nearest first. -/
def ancestors (schema : Schema) (name : String) : List Table :=
  schema.ancestorsFrom name [] ((schema.table? name).bind Table.parent)

end Schema

end ClassDiagram
