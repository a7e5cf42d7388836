import Mathlib.Data.List.Forall2

/-!
# Outcomes of many steps

A pass over a list that can fail at each item succeeds exactly if it succeeds at all of them.
-/

namespace ClassDiagram

variable {ε α β : Type} {f : α → Except ε β} {items : List α}

/-- Two steps fail where one of them fails. -/
theorem bind_eq_error {outcome : Except ε α} {next : α → Except ε β} {fault : ε}
    (herror : outcome >>= next = .error fault) :
    outcome = .error fault ∨ ∃ value, outcome = .ok value ∧ next value = .error fault := by
  cases outcome with
  | error first =>
    cases herror
    exact .inl rfl
  | ok value => exact .inr ⟨value, rfl, herror⟩

/-- Two steps succeed where both of them succeed. -/
theorem bind_eq_ok {outcome : Except ε α} {next : α → Except ε β} {result : β}
    (hok : outcome >>= next = .ok result) :
    ∃ value, outcome = .ok value ∧ next value = .ok result := by
  cases outcome with
  | error fault => cases hok
  | ok value => exact ⟨value, rfl, hok⟩

theorem mapM_eq_ok_iff {results : List β} :
    items.mapM f = .ok results ↔
      List.Forall₂ (fun item result => f item = .ok result) items results := by
  induction items generalizing results with
  | nil => cases results <;> simp [pure, Except.pure]
  | cons item rest ih =>
    rw [List.mapM_cons, List.forall₂_cons_left_iff]
    cases hitem : f item with
    | error fault => simp [bind, Except.bind]
    | ok result =>
      simp only [← ih, Except.ok.injEq]
      cases hrest : rest.mapM f with
      | error fault => simp [bind, Except.bind]
      | ok others => simp [bind, Except.bind, pure, Except.pure, eq_comm]

theorem exists_mapM_eq_ok_iff :
    (∃ results, items.mapM f = .ok results) ↔ ∀ item ∈ items, ∃ result, f item = .ok result := by
  simp only [mapM_eq_ok_iff]
  induction items with
  | nil => simp
  | cons item rest ih =>
    rw [List.forall_mem_cons, ← ih]
    constructor
    · rintro ⟨_, _ | ⟨hitem, hrest⟩⟩
      exact ⟨⟨_, hitem⟩, _, hrest⟩
    · rintro ⟨⟨result, hitem⟩, results, hrest⟩
      exact ⟨result :: results, .cons hitem hrest⟩

/-- Where no step fails, the results that are picked out are those of all items. -/
theorem forall₂_filterMap_toOption (hall : ∀ item ∈ items, ∃ result, f item = .ok result) :
    List.Forall₂ (fun item result => f item = .ok result) items
      (items.filterMap fun item => (f item).toOption) := by
  induction items with
  | nil => exact .nil
  | cons item rest ih =>
    rw [List.forall_mem_cons] at hall
    obtain ⟨⟨result, hitem⟩, hrest⟩ := hall
    rw [List.filterMap_cons_some (by rw [hitem]; rfl)]
    exact .cons hitem (ih hrest)

/-- Every result is that of an item. -/
theorem exists_of_mem_mapM {results : List β} (hresults : items.mapM f = .ok results) :
    ∀ result ∈ results, ∃ item ∈ items, f item = .ok result := by
  rw [mapM_eq_ok_iff] at hresults
  induction hresults with
  | nil => simp
  | cons hitem _ ih =>
    rw [List.forall_mem_cons]
    refine ⟨⟨_, List.mem_cons_self, hitem⟩, fun result hresult => ?_⟩
    obtain ⟨item, hmem, heq⟩ := ih result hresult
    exact ⟨item, List.mem_cons_of_mem _ hmem, heq⟩

/-- Where each result can be told from its item, the results are told from the items. -/
theorem eq_map_of_forall₂ {related : α → β → Prop} {told : α → β} {results : List β}
    (hrelated : List.Forall₂ related items results)
    (htold : ∀ item result, related item result → result = told item) :
    results = items.map told := by
  induction hrelated with
  | nil => rfl
  | cons hfirst _ ih => rw [List.map_cons, ih, htold _ _ hfirst]

/-- Every item has a result. -/
theorem exists_result_of_forall₂ {related : α → β → Prop} {results : List β}
    (hrelated : List.Forall₂ related items results) :
    ∀ item ∈ items, ∃ result ∈ results, related item result := by
  induction hrelated with
  | nil => exact List.forall_mem_nil _
  | cons hfirst _ ih =>
    rw [List.forall_mem_cons]
    refine ⟨⟨_, List.mem_cons_self, hfirst⟩, fun item hitem => ?_⟩
    obtain ⟨result, hresult, hitem⟩ := ih item hitem
    exact ⟨result, List.mem_cons_of_mem _ hresult, hitem⟩

/-- What a pass keeps belongs, one to one, to the items that it keeps something of. -/
theorem forall₂_filter_filterMap {related : α → β → Prop} {keeps : α → Bool} {pick : α → Option β}
    (hkeeps : ∀ item ∈ items, keeps item = true ↔ (pick item).isSome = true)
    (hpick : ∀ item ∈ items, ∀ result, pick item = some result → related item result) :
    List.Forall₂ related (items.filter keeps) (items.filterMap pick) := by
  induction items with
  | nil => exact .nil
  | cons item rest ih =>
    rw [List.forall_mem_cons] at hkeeps hpick
    have hrest := ih hkeeps.2 hpick.2
    cases hitem : pick item with
    | none =>
      rwa [List.filterMap_cons_none hitem, List.filter_cons_of_neg (by simp [hkeeps.1, hitem])]
    | some result =>
      rw [List.filterMap_cons_some hitem, List.filter_cons_of_pos (by simp [hkeeps.1, hitem])]
      exact .cons (hpick.1 result hitem) hrest

end ClassDiagram
