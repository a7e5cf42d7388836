import ClassDiagram.Schema.Catalog
import Mathlib.Data.List.Dedup

/-!
# Laws of catalogs

Since the names of a catalog are all different, a catalog is known by what is found under each name
and by the order of its names. The laws below say, for every operation, what is found afterwards
and which names there are.
-/

namespace ClassDiagram.Catalog

variable {α β : Type} {catalog : Catalog α} {name : String} {value : α}

theorem lookup_cons_eq_ite {κ : Type} [BEq κ] [LawfulBEq κ] [DecidableEq κ] (name : κ)
    (entry : κ × α) (rest : List (κ × α)) :
    (entry :: rest).lookup name = if name = entry.1 then some entry.2 else rest.lookup name := by
  rw [List.lookup_cons]
  by_cases hname : name = entry.1
  · simp [hname]
  · simp [hname, beq_false_of_ne hname]

theorem lookup_eq_some_iff_mem {κ : Type} [BEq κ] [LawfulBEq κ] [DecidableEq κ] {name : κ}
    {entries : List (κ × α)} (hdistinct : (entries.map Prod.fst).Nodup) :
    entries.lookup name = some value ↔ (name, value) ∈ entries := by
  induction entries with
  | nil => simp
  | cons entry rest ih =>
    rw [List.map_cons, List.nodup_cons] at hdistinct
    rw [lookup_cons_eq_ite, List.mem_cons]
    by_cases hname : name = entry.1
    · have hrest : (name, value) ∉ rest := fun hmem =>
        hdistinct.1 (hname ▸ List.mem_map_of_mem hmem)
      rw [if_pos hname, or_iff_left hrest, Prod.ext_iff, Option.some.injEq]
      exact ⟨fun hvalue => ⟨hname, hvalue.symm⟩, fun heq => heq.2.symm⟩
    · have hne : (name, value) ≠ entry := fun heq => hname (congrArg Prod.fst heq)
      rw [if_neg hname, or_iff_right hne, ih hdistinct.2]

theorem find?_eq_some_iff : catalog.find? name = some value ↔ (name, value) ∈ catalog.entries :=
  lookup_eq_some_iff_mem catalog.distinct

theorem mem_names_iff : name ∈ catalog.names ↔ ∃ value, catalog.find? name = some value := by
  simp [names, find?_eq_some_iff]

theorem mem_names_of_find? (hfind : catalog.find? name = some value) : name ∈ catalog.names :=
  mem_names_iff.2 ⟨value, hfind⟩

theorem find?_eq_none_iff : catalog.find? name = none ↔ name ∉ catalog.names := by
  rw [mem_names_iff, Option.eq_none_iff_forall_ne_some, not_exists]

theorem mem_values_iff : value ∈ catalog.values ↔ ∃ name, catalog.find? name = some value := by
  simp only [values, List.mem_map, Prod.exists, exists_eq_right, find?_eq_some_iff]

@[simp]
theorem contains_iff : catalog.contains name = true ↔ name ∈ catalog.names := by
  simp [contains]

@[simp]
theorem find?_empty : (empty : Catalog α).find? name = none := rfl

@[simp]
theorem names_empty : (empty : Catalog α).names = [] := rfl

theorem nodup_names (catalog : Catalog α) : catalog.names.Nodup := catalog.distinct

/-- Names that are read one after the other are all different and new if the first is new, and the
others are so when the first is taken too. -/
theorem nodup_and_new_cons_iff {item : α} {rest : List α} (key : α → String)
    (taken : String → Prop) :
    (((item :: rest).map key).Nodup ∧ ∀ other ∈ item :: rest, ¬ taken (key other)) ↔
      ¬ taken (key item) ∧ (rest.map key).Nodup ∧
        ∀ other ∈ rest, ¬ (key other = key item ∨ taken (key other)) := by
  simp only [List.map_cons, List.nodup_cons, List.forall_mem_cons, List.mem_map, not_exists,
    not_and, not_or]
  constructor
  · rintro ⟨⟨hdifferent, hdistinct⟩, hitem, hnew⟩
    exact ⟨hitem, hdistinct, fun other hother => ⟨hdifferent other hother, hnew other hother⟩⟩
  · rintro ⟨hitem, hdistinct, hrest⟩
    exact ⟨⟨fun other hother => (hrest other hother).1, hdistinct⟩, hitem,
      fun other hother => (hrest other hother).2⟩

/-! ## Changing values -/

@[simp]
theorem names_modify (catalog : Catalog α) (name : String) (change : α → α) :
    (catalog.modify name change).names = catalog.names :=
  map_fst_modifyEntries name change catalog.entries

theorem entries_modify (catalog : Catalog α) (name : String) (change : α → α) :
    (catalog.modify name change).entries = modifyEntries name change catalog.entries := rfl

theorem modifyEntries_append (name : String) (change : α → α) (front rest : List (String × α)) :
    modifyEntries name change (front ++ rest) =
      modifyEntries name change front ++ modifyEntries name change rest :=
  List.map_append

theorem modifyEntries_eq_self {name : String} {entries : List (String × α)}
    (hother : name ∉ entries.map Prod.fst) (change : α → α) :
    modifyEntries name change entries = entries := by
  have hsame : ∀ entry ∈ entries,
      (if entry.1 = name then (entry.1, change entry.2) else entry) = entry := by
    intro entry hentry
    have hname : entry.1 ∈ entries.map Prod.fst := List.mem_map_of_mem hentry
    rw [if_neg (ne_of_mem_of_not_mem hname hother)]
  exact (List.map_congr_left hsame).trans (List.map_id entries)

theorem find?_modify (catalog : Catalog α) (name other : String) (change : α → α) :
    (catalog.modify name change).find? other =
      if other = name then (catalog.find? other).map change else catalog.find? other := by
  simp only [find?, modify]
  induction catalog.entries with
  | nil => simp [modifyEntries]
  | cons entry rest ih =>
    simp only [modifyEntries, List.map_cons] at ih ⊢
    rw [lookup_cons_eq_ite, lookup_cons_eq_ite, ih]
    by_cases hentry : entry.1 = name
    · by_cases hother : other = name <;> simp [hentry, hother]
    · by_cases hother : other = name
      · simp [hentry, hother, Ne.symm hentry]
      · simp [hentry, hother]

@[simp]
theorem names_map (catalog : Catalog α) (change : α → β) :
    (catalog.map change).names = catalog.names := by
  simp [names, map, Function.comp_def]

theorem find?_map (catalog : Catalog α) (change : α → β) (name : String) :
    (catalog.map change).find? name = (catalog.find? name).map change := by
  simp only [find?, map]
  induction catalog.entries with
  | nil => rfl
  | cons entry rest ih =>
    rw [List.map_cons, List.lookup_cons, List.lookup_cons, ih]
    cases name == entry.1 <;> rfl

/-- Catalogs with the same names in the same order that find the same values are equal. -/
theorem eq_of_find?_eq {left right : Catalog α} (hnames : left.names = right.names)
    (hfind : ∀ name, left.find? name = right.find? name) : left = right := by
  apply ext
  apply List.ext_getElem
  · simpa [names] using congrArg List.length hnames
  · intro place hleft hright
    have hname : left.entries[place].1 = right.entries[place].1 := by
      have := List.getElem_of_eq hnames (i := place) (by simpa [names] using hleft)
      simpa [names] using this
    have hvalue : right.find? left.entries[place].1 = some left.entries[place].2 := by
      rw [← hfind, find?_eq_some_iff]
      exact List.getElem_mem hleft
    have hvalue' : right.find? right.entries[place].1 = some right.entries[place].2 :=
      find?_eq_some_iff.2 (List.getElem_mem hright)
    rw [hname, hvalue', Option.some.injEq] at hvalue
    exact Prod.ext hname hvalue.symm

/-- Catalogs that find the same values differ in their order only. -/
theorem perm_of_find?_eq {left right : Catalog α}
    (hfind : ∀ name, left.find? name = right.find? name) : left.entries.Perm right.entries := by
  apply (List.perm_ext_iff_of_nodup left.distinct.of_map right.distinct.of_map).2
  intro entry
  rw [← find?_eq_some_iff, ← find?_eq_some_iff, hfind]

/-- The entries are known when the names are and what is found under each of them. -/
theorem entries_eq_map {γ : Type} {items : List γ} {key : γ → String} {value : γ → α}
    (hnames : catalog.names = items.map key)
    (hfind : ∀ item ∈ items, catalog.find? (key item) = some (value item)) :
    catalog.entries = items.map fun item => (key item, value item) := by
  let other : Catalog α :=
    { entries := items.map fun item => (key item, value item)
      distinct := by
        rw [List.map_map]
        exact hnames ▸ catalog.nodup_names }
  have hsame : other.names = catalog.names := by
    rw [hnames, names, List.map_map]
    rfl
  refine congrArg entries (eq_of_find?_eq hsame.symm fun name => ?_ : catalog = other)
  by_cases hname : name ∈ catalog.names
  · rw [hnames, List.mem_map] at hname
    obtain ⟨item, hitem, rfl⟩ := hname
    rw [hfind item hitem, eq_comm, find?_eq_some_iff]
    exact List.mem_map_of_mem hitem
  · rw [find?_eq_none_iff.2 hname, find?_eq_none_iff.2 (hsame ▸ hname)]

theorem map_congr {left right : α → β}
    (hvalues : ∀ value ∈ catalog.values, left value = right value) :
    catalog.map left = catalog.map right := by
  apply ext
  apply List.map_congr_left
  intro entry hentry
  rw [hvalues entry.2 (List.mem_map_of_mem hentry)]

theorem exists_entries_eq (hfind : catalog.find? name = some value) :
    ∃ before after, catalog.entries = before ++ (name, value) :: after ∧
      name ∉ before.map Prod.fst ∧ name ∉ after.map Prod.fst := by
  obtain ⟨before, after, heq⟩ := List.append_of_mem (find?_eq_some_iff.1 hfind)
  have hdistinct := catalog.distinct
  rw [heq, List.map_append, List.nodup_append, List.map_cons, List.nodup_cons] at hdistinct
  obtain ⟨-, ⟨hafter, -⟩, hbefore⟩ := hdistinct
  exact ⟨before, after, heq, fun hname => hbefore _ hname _ List.mem_cons_self rfl, hafter⟩

/-- If the changed value gives more, so does the catalog. -/
theorem flatMap_values_modify_perm {give : α → List β} {change : α → α} {more : List β}
    (hfind : catalog.find? name = some value)
    (hgive : give (change value) = give value ++ more) :
    ((catalog.modify name change).values.flatMap give).Perm
      (catalog.values.flatMap give ++ more) := by
  obtain ⟨before, after, heq, hbefore, hafter⟩ := exists_entries_eq hfind
  rw [values, entries_modify, heq, modifyEntries_append, modifyEntries_eq_self hbefore,
    modifyEntries, List.map_cons, ← modifyEntries, modifyEntries_eq_self hafter, values, heq]
  simp only [List.map_append, List.map_cons, List.flatMap_append, List.flatMap_cons, if_true,
    hgive, List.append_assoc]
  exact (List.perm_append_comm.append_left _).append_left _

theorem map_values_modify (catalog : Catalog α) (name : String) (give : α → β) {change : α → α}
    (hgive : ∀ value, give (change value) = give value) :
    (catalog.modify name change).values.map give = catalog.values.map give := by
  rw [values, entries_modify, modifyEntries, List.map_map, List.map_map, values, List.map_map]
  refine List.map_congr_left fun entry _ => ?_
  simp only [Function.comp_apply]
  split
  · exact hgive entry.2
  · rfl

@[simp]
theorem modify_id (catalog : Catalog α) (name : String) :
    (catalog.modify name fun value => value) = catalog := by
  apply ext
  simp [modify, modifyEntries]

/-! ## Adding values -/

theorem entries_insert_of_not_mem (value : α) (hfree : name ∉ catalog.names) :
    (catalog.insert name value).entries = catalog.entries ++ [(name, value)] := by
  rw [insert, dif_neg hfree]
  rfl

theorem values_insert_of_not_mem (value : α) (hfree : name ∉ catalog.names) :
    (catalog.insert name value).values = catalog.values ++ [value] := by
  rw [values, entries_insert_of_not_mem value hfree, List.map_append]
  rfl

theorem find?_insert (catalog : Catalog α) (name other : String) (value : α) :
    (catalog.insert name value).find? other =
      if other = name then some value else catalog.find? other := by
  by_cases hname : name ∈ catalog.names
  · rw [insert, dif_pos hname, find?_modify]
    obtain ⟨found, hfound⟩ := mem_names_iff.1 hname
    by_cases hother : other = name <;> simp [hother, hfound]
  · rw [find?, entries_insert_of_not_mem value hname, List.lookup_append]
    by_cases hother : other = name
    · have hnone : catalog.entries.lookup name = none := find?_eq_none_iff.2 hname
      simp [hother, hnone]
    · simp [lookup_cons_eq_ite, hother, find?]

theorem find?_insert_self (catalog : Catalog α) (name : String) (value : α) :
    (catalog.insert name value).find? name = some value := by
  rw [find?_insert, if_pos rfl]

theorem find?_insert_of_ne {other : String} (value : α) (hne : other ≠ name) :
    (catalog.insert name value).find? other = catalog.find? other := by
  rw [find?_insert, if_neg hne]

theorem mem_names_insert {other : String} :
    other ∈ (catalog.insert name value).names ↔ other = name ∨ other ∈ catalog.names := by
  rw [mem_names_iff, mem_names_iff, find?_insert]
  by_cases hother : other = name <;> simp [hother]

theorem mem_names_foldl_insert {γ : Type} (key : γ → String) (value : γ → α) (items : List γ)
    (catalog : Catalog α) :
    name ∈ (items.foldl (fun found item => found.insert (key item) (value item)) catalog).names ↔
      name ∈ catalog.names ∨ name ∈ items.map key := by
  induction items generalizing catalog with
  | nil => simp
  | cons item rest ih =>
    rw [List.foldl_cons, ih, mem_names_insert, List.map_cons, List.mem_cons, or_assoc,
      or_left_comm]

theorem mem_names_ofList {entries : List (String × α)} :
    name ∈ (ofList entries).names ↔ name ∈ entries.map Prod.fst := by
  rw [ofList, mem_names_foldl_insert Prod.fst Prod.snd, names_empty, or_iff_right List.not_mem_nil]

/-- New values under new names stand behind those that are there. -/
theorem entries_foldl_insert {γ : Type} (key : γ → String) (value : γ → α) (items : List γ) :
    ∀ catalog : Catalog α, (items.map key).Nodup → (∀ item ∈ items, key item ∉ catalog.names) →
      (items.foldl (fun found item => found.insert (key item) (value item)) catalog).entries =
        catalog.entries ++ items.map fun item => (key item, value item) := by
  induction items with
  | nil => simp
  | cons item rest ih =>
    intro catalog hdistinct hnew
    rw [List.map_cons, List.nodup_cons] at hdistinct
    rw [List.forall_mem_cons] at hnew
    rw [List.foldl_cons, ih _ hdistinct.2, entries_insert_of_not_mem _ hnew.1, List.append_assoc,
      List.map_cons, List.singleton_append]
    intro other hother
    rw [mem_names_insert, not_or]
    exact ⟨fun heq => hdistinct.1 (heq ▸ List.mem_map_of_mem hother), hnew.2 other hother⟩

/-- Values that are stored only under names that are not there yet stand behind the others. -/
theorem entries_foldl_insert_if_new (items : List (String × α)) :
    ∀ catalog : Catalog α, (items.map Prod.fst).Nodup →
      (items.foldl (fun found item =>
        if found.contains item.1 then found else found.insert item.1 item.2) catalog).entries =
          catalog.entries ++ items.filter fun item => !catalog.contains item.1 := by
  induction items with
  | nil => simp
  | cons item rest ih =>
    intro catalog hdistinct
    rw [List.map_cons, List.nodup_cons] at hdistinct
    rw [List.foldl_cons, List.filter_cons]
    by_cases hname : item.1 ∈ catalog.names
    · have hcontains := contains_iff.2 hname
      rw [if_pos hcontains, ih catalog hdistinct.2]
      simp [hcontains]
    · have hcontains : catalog.contains item.1 = false := by
        rwa [← Bool.not_eq_true, contains_iff]
      have hrest : ∀ other ∈ rest, (catalog.insert item.1 item.2).contains other.1 =
          catalog.contains other.1 := by
        intro other hother
        have hne : other.1 ≠ item.1 := fun heq => hdistinct.1 (heq ▸ List.mem_map_of_mem hother)
        rw [Bool.eq_iff_iff, contains_iff, contains_iff, mem_names_insert, or_iff_right hne]
      simp only [hcontains, Bool.false_eq_true, if_false, Bool.not_false, if_true]
      rw [ih _ hdistinct.2, entries_insert_of_not_mem _ hname, List.append_assoc,
        List.singleton_append, List.filter_congr fun other hother => by rw [hrest other hother]]

/-- Of the values that are stored under one name the last one stays. -/
theorem find?_foldl_insert {γ : Type} (key : γ → String) (value : γ → α) (items : List γ)
    (catalog : Catalog α) (name : String) :
    (items.foldl (fun found item => found.insert (key item) (value item)) catalog).find? name =
      ((items.reverse.find? fun item => key item == name).map value).or (catalog.find? name) := by
  induction items generalizing catalog with
  | nil => simp
  | cons item rest ih =>
    rw [List.foldl_cons, ih, List.reverse_cons, List.find?_append, find?_insert]
    cases rest.reverse.find? fun item => key item == name with
    | some later => simp
    | none =>
      by_cases hname : name = key item
      · simp [hname]
      · simp [hname, Ne.symm hname]

theorem find?_ofList_append (left right : List (String × α)) (name : String) :
    (ofList (left ++ right)).find? name =
      ((ofList right).find? name).or ((ofList left).find? name) := by
  simp only [ofList]
  rw [List.foldl_append, find?_foldl_insert Prod.fst Prod.snd right,
    find?_foldl_insert Prod.fst Prod.snd right empty, find?_empty, Option.or_none]

theorem find?_ofList_eq_none_iff {entries : List (String × α)} :
    (ofList entries).find? name = none ↔ name ∉ entries.map Prod.fst := by
  rw [find?_eq_none_iff, mem_names_ofList]

/-- A value stays if nothing is stored under its name afterwards. -/
theorem find?_ofList_of_last (before : List (String × α)) {after : List (String × α)}
    (value : α) (hlast : name ∉ after.map Prod.fst) :
    (ofList (before ++ (name, value) :: after)).find? name = some value := by
  rw [List.append_cons, find?_ofList_append, find?_ofList_eq_none_iff.2 hlast, Option.none_or,
    ofList, List.foldl_append, List.foldl_cons, List.foldl_nil, find?_insert_self]

theorem size_eq_length_dedup {items : List String} (hnames : ∀ name, name ∈ catalog.names ↔
    name ∈ items) : catalog.size = items.dedup.length := by
  have hperm : catalog.names.Perm items.dedup := by
    apply (List.perm_ext_iff_of_nodup catalog.nodup_names items.nodup_dedup).2
    intro name
    rw [hnames, List.mem_dedup]
  rw [← hperm.length_eq, names, List.length_map, size]

end ClassDiagram.Catalog
