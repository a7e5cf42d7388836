/-!
# Catalogs

A catalog holds values under names that are all different, in the order in which the names were
first used. Storing a value under a name that is already there replaces the value and keeps the
place.
-/

namespace ClassDiagram

structure Catalog (α : Type) where
  entries : List (String × α)
  distinct : (entries.map Prod.fst).Nodup

namespace Catalog

variable {α : Type}

def empty : Catalog α := { entries := [], distinct := List.nodup_nil }

instance : Inhabited (Catalog α) := ⟨empty⟩

def names (catalog : Catalog α) : List String :=
  catalog.entries.map Prod.fst

def values (catalog : Catalog α) : List α :=
  catalog.entries.map Prod.snd

def size (catalog : Catalog α) : Nat :=
  catalog.entries.length

def find? (catalog : Catalog α) (name : String) : Option α :=
  catalog.entries.lookup name

def contains (catalog : Catalog α) (name : String) : Bool :=
  catalog.names.contains name

/-- The value under one name, changed. -/
def modifyEntries (name : String) (change : α → α) (entries : List (String × α)) :
    List (String × α) :=
  entries.map fun entry => if entry.1 = name then (entry.1, change entry.2) else entry

theorem map_fst_modifyEntries (name : String) (change : α → α) (entries : List (String × α)) :
    (modifyEntries name change entries).map Prod.fst = entries.map Prod.fst := by
  simp only [modifyEntries, List.map_map]
  apply List.map_congr_left
  intro entry _
  simp only [Function.comp_apply]
  split <;> rfl

def modify (catalog : Catalog α) (name : String) (change : α → α) : Catalog α where
  entries := modifyEntries name change catalog.entries
  distinct := by
    rw [map_fst_modifyEntries]
    exact catalog.distinct

/-- Every value, changed. -/
def map {β : Type} (catalog : Catalog α) (change : α → β) : Catalog β where
  entries := catalog.entries.map fun entry => (entry.1, change entry.2)
  distinct := by
    rw [List.map_map]
    exact catalog.distinct

def append (catalog : Catalog α) (name : String) (value : α) (hfree : name ∉ catalog.names) :
    Catalog α where
  entries := catalog.entries ++ [(name, value)]
  distinct := by
    rw [List.map_append, List.nodup_append]
    refine ⟨catalog.distinct, by simp, ?_⟩
    intro used hused new hnew heq
    simp only [List.map_cons, List.map_nil, List.mem_singleton] at hnew
    subst heq hnew
    exact hfree hused

/-- The value takes the place of the one under the same name, or a new place at the end. -/
def insert (catalog : Catalog α) (name : String) (value : α) : Catalog α :=
  if hfree : name ∈ catalog.names then catalog.modify name fun _ => value
  else catalog.append name value hfree

def ofList (entries : List (String × α)) : Catalog α :=
  entries.foldl (fun catalog entry => catalog.insert entry.1 entry.2) empty

@[ext]
theorem ext {left right : Catalog α} (hentries : left.entries = right.entries) : left = right := by
  cases left
  cases right
  cases hentries
  rfl

instance [DecidableEq α] : DecidableEq (Catalog α) := fun left right =>
  if hentries : left.entries = right.entries then isTrue (ext hentries)
  else isFalse fun heq => hentries (congrArg entries heq)

end Catalog

end ClassDiagram
