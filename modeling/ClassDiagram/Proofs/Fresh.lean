import Mathlib.Data.List.Perm.Subperm
import Mathlib.Data.List.Dedup
import Mathlib.Data.List.GetD
import ClassDiagram.Fresh

/-!
# Fresh names are free

The names of a numbered sequence are all different, so a name that has been crossed off the list of
taken names does not come back. The search therefore ends at the least free place of the sequence,
and that lies no further on than there are names taken. What is known of a fresh name follows from
the place where the search for it stops.
-/

namespace ClassDiagram

theorem toString_nat_injective : Function.Injective (toString : Nat → String) := by
  intro left right heq
  have hdigits : Nat.toDigits 10 left = Nat.toDigits 10 right := by
    simpa only [Nat.toString_eq_repr, Nat.toList_repr] using congrArg String.toList heq
  rw [← Nat.ofDigitChars_ten_toDigits (n := left), hdigits, Nat.ofDigitChars_ten_toDigits]

theorem numbered_injective (base : String) :
    Function.Injective (fun n : Nat => base ++ toString n) :=
  fun _ _ heq => toString_nat_injective (String.append_right_inj base |>.1 heq)

/-- The search ends at the first free place from the start on. -/
theorem firstFree_eq_least {name : Nat → String} (hname : Function.Injective name) (start : Nat)
    (taken : List String) :
    ∃ place, start ≤ place ∧ firstFree name start taken = name place ∧ name place ∉ taken ∧
      ∀ earlier, start ≤ earlier → earlier < place → name earlier ∈ taken := by
  fun_induction firstFree name start taken with
  | case1 start taken htaken ih =>
    obtain ⟨place, hstart, hresult, hfree, hearlier⟩ := ih
    have hne : name place ≠ name start := fun heq => by
      have := hname heq
      omega
    refine ⟨place, by omega, hresult, fun hmem => hfree ((List.mem_erase_of_ne hne).2 hmem), ?_⟩
    intro earlier hfrom hbefore
    rcases Nat.eq_or_lt_of_le hfrom with rfl | hlater
    · exact htaken
    · exact List.mem_of_mem_erase (hearlier earlier hlater hbefore)
  | case2 start taken hfree =>
    exact ⟨start, Nat.le_refl start, rfl, hfree, fun earlier hfrom hbefore => by omega⟩

/-- Different names that are taken are no more than there are names taken. -/
theorem le_length_dedup {names : Nat → String} (hnames : Function.Injective names)
    {taken : List String} {count : Nat} (htaken : ∀ place < count, names place ∈ taken) :
    count ≤ taken.dedup.length := by
  have hnodup : ((List.range count).map names).Nodup := List.nodup_range.map hnames
  have hsubset : (List.range count).map names ⊆ taken.dedup := by
    intro name hmem
    obtain ⟨place, hplace, rfl⟩ := List.mem_map.1 hmem
    exact List.mem_dedup.2 (htaken place (List.mem_range.1 hplace))
  simpa using (hnodup.subperm hsubset).length_le

/-! ## Where a search stops -/

/-- What is tried at a place: first the names wanted, then a stem with the numbers from 2 on. -/
def triedName (wanted : List String) (stem : String) (place : Nat) : String :=
  wanted.getD place (stem ++ toString (place - wanted.length + 2))

theorem triedName_wanted {wanted : List String} (stem : String) {place : Nat}
    (hplace : place < wanted.length) : triedName wanted stem place = wanted[place] :=
  List.getD_eq_getElem wanted _ hplace

theorem triedName_numbered (wanted : List String) (stem : String) (further : Nat) :
    triedName wanted stem (wanted.length + further) = stem ++ toString (further + 2) := by
  rw [triedName, List.getD_eq_default _ _ (Nat.le_add_right _ _), Nat.add_sub_cancel_left]

theorem triedName_cases (wanted : List String) (stem : String) (place : Nat) :
    triedName wanted stem place ∈ wanted ∨
      ∃ n : Nat, triedName wanted stem place = stem ++ toString n := by
  rcases Nat.lt_or_ge place wanted.length with hlt | hge
  · rw [triedName_wanted stem hlt]
    exact .inl (List.getElem_mem hlt)
  · obtain ⟨further, rfl⟩ := Nat.exists_eq_add_of_le hge
    exact .inr ⟨further + 2, triedName_numbered wanted stem further⟩

/-- A search that tries names in their order stops at this place. -/
structure StopsAt (names : Nat → String) (taken : List String) (place : Nat) : Prop where
  free : names place ∉ taken
  earlier : ∀ earlier < place, names earlier ∈ taken

/-- If no name wanted is free, the search goes on to the numbers and stops at one of them. -/
theorem exists_stopsAt_of_taken {wanted taken : List String} (stem : String)
    (hwanted : ∀ name ∈ wanted, name ∈ taken) :
    ∃ place ≤ wanted.length + taken.dedup.length,
      StopsAt (triedName wanted stem) taken place ∧
        firstFree (fun n => stem ++ toString n) 2 taken = triedName wanted stem place := by
  have hname := numbered_injective stem
  obtain ⟨number, hstart, hresult, hfree, hearlier⟩ := firstFree_eq_least hname 2 taken
  obtain ⟨further, rfl⟩ : ∃ further, number = further + 2 := ⟨number - 2, by omega⟩
  have hfurther : further ≤ taken.dedup.length :=
    le_length_dedup (hname.comp fun _ _ => Nat.add_right_cancel) fun place hplace =>
      hearlier (place + 2) (by omega) (by omega)
  refine ⟨wanted.length + further, by omega, ⟨?_, fun place hplace => ?_⟩, ?_⟩
  · rwa [triedName_numbered]
  · rcases Nat.lt_or_ge place wanted.length with hlt | hge
    · rw [triedName_wanted stem hlt]
      exact hwanted _ (List.getElem_mem hlt)
    · obtain ⟨other, rfl⟩ := Nat.exists_eq_add_of_le hge
      rw [triedName_numbered]
      exact hearlier (other + 2) (by omega) (by omega)
  · rw [hresult, triedName_numbered]

theorem exists_stopsAt_of_find? {wanted taken : List String} {name : String} (stem : String)
    (hfind : wanted.find? (fun name => !taken.contains name) = some name) :
    ∃ place < wanted.length,
      StopsAt (triedName wanted stem) taken place ∧ name = triedName wanted stem place := by
  obtain ⟨hfree, place, hplace, rfl, hearlier⟩ := List.find?_eq_some_iff_getElem.1 hfind
  refine ⟨place, hplace, ⟨?_, fun earlier hlt => ?_⟩, (triedName_wanted stem hplace).symm⟩
  · rw [triedName_wanted stem hplace]
    simpa using hfree
  · rw [triedName_wanted stem (Nat.lt_trans hlt hplace)]
    simpa using hearlier earlier hlt

/-! ## Fresh names -/

theorem freshName_stopsAt (base : String) (taken : List String) :
    ∃ place ≤ 1 + taken.dedup.length, StopsAt (triedName [base] (base ++ "_")) taken place ∧
      freshName base taken = triedName [base] (base ++ "_") place := by
  by_cases hbase : base ∈ taken
  · rw [freshName, if_pos hbase]
    exact exists_stopsAt_of_taken (base ++ "_") (List.forall_mem_singleton.2 hbase)
  · rw [freshName, if_neg hbase]
    exact ⟨0, Nat.zero_le _, ⟨hbase, fun place hplace => absurd hplace place.not_lt_zero⟩, rfl⟩

example : freshName "user_id" ["user_id", "user_id_2"] = "user_id_3" := by
  decide +kernel

theorem freshName_not_mem (base : String) (taken : List String) :
    freshName base taken ∉ taken := by
  obtain ⟨place, -, hstops, hname⟩ := freshName_stopsAt base taken
  rw [hname]
  exact hstops.free

theorem freshName_cases (base : String) (taken : List String) :
    freshName base taken = base ∨ ∃ n : Nat, freshName base taken = base ++ "_" ++ toString n := by
  obtain ⟨place, -, -, hname⟩ := freshName_stopsAt base taken
  rw [hname, ← List.mem_singleton]
  exact triedName_cases [base] (base ++ "_") place

/-- Further names that are taken make no difference unless the fresh name is one of them. -/
theorem freshName_eq_of_subset {base : String} {taken more : List String} (hsub : taken ⊆ more)
    (hfree : freshName base taken ∉ more) : freshName base more = freshName base taken := by
  obtain ⟨place, -, hstops, hname⟩ := freshName_stopsAt base taken
  obtain ⟨other, -, hstops', hname'⟩ := freshName_stopsAt base more
  rw [hname] at hfree ⊢
  rw [hname']
  -- neither place can lie before the other one
  rcases Nat.lt_trichotomy place other with hbefore | rfl | hafter
  · exact absurd (hstops'.earlier place hbefore) hfree
  · rfl
  · exact absurd (hsub (hstops.earlier other hafter)) hstops'.free

/-- The order of the names that are taken makes no difference. -/
theorem freshName_congr {base : String} {taken other : List String}
    (hsame : ∀ name, name ∈ taken ↔ name ∈ other) :
    freshName base taken = freshName base other := by
  refine freshName_eq_of_subset (fun name hname => (hsame name).2 hname) fun htaken => ?_
  exact freshName_not_mem base other ((hsame _).1 htaken)

theorem freshAmong_stopsAt (candidates taken : List String) :
    ∃ place ≤ candidates.length + taken.dedup.length,
      StopsAt (triedName candidates (candidates.getLastD "field")) taken place ∧
        freshAmong candidates taken =
          triedName candidates (candidates.getLastD "field") place := by
  rw [freshAmong]
  split
  · rename_i candidate hfind
    obtain ⟨place, hplace, hstops, hname⟩ :=
      exists_stopsAt_of_find? (candidates.getLastD "field") hfind
    exact ⟨place, by omega, hstops, hname⟩
  · rename_i hnone
    refine exists_stopsAt_of_taken _ fun name hmem => ?_
    simpa using List.find?_eq_none.1 hnone name hmem

theorem freshAmong_not_mem (candidates taken : List String) :
    freshAmong candidates taken ∉ taken := by
  obtain ⟨place, -, hstops, hname⟩ := freshAmong_stopsAt candidates taken
  rw [hname]
  exact hstops.free

theorem freshAmong_cases (candidates taken : List String) :
    freshAmong candidates taken ∈ candidates ∨
      ∃ n : Nat, freshAmong candidates taken = candidates.getLastD "field" ++ toString n := by
  obtain ⟨place, -, -, hname⟩ := freshAmong_stopsAt candidates taken
  rw [hname]
  exact triedName_cases candidates (candidates.getLastD "field") place

end ClassDiagram
