import Mathlib.Data.List.Pairwise

/-!
# Sorting by a rank

Items sorted by a rank have growing ranks, and those of one rank stay in their order.
-/

namespace ClassDiagram

variable {α : Type} (rank : α → Nat) {items : List α} {left right : α}

theorem rank_le_trans (first second third : α) :
    decide (rank first ≤ rank second) = true → decide (rank second ≤ rank third) = true →
      decide (rank first ≤ rank third) = true := by
  simp only [decide_eq_true_eq]
  exact Nat.le_trans

theorem rank_le_total (first second : α) :
    (decide (rank first ≤ rank second) || decide (rank second ≤ rank first)) = true := by
  simp only [Bool.or_eq_true, decide_eq_true_eq]
  exact Nat.le_total _ _

theorem pairwise_rank_le (items : List α) :
    (items.mergeSort fun left right => rank left ≤ rank right).Pairwise fun left right =>
      rank left ≤ rank right :=
  (List.pairwise_mergeSort (rank_le_trans rank) (rank_le_total rank) items).imp of_decide_eq_true

theorem rank_le_of_mergeSort
    (hsorted : [left, right].Sublist (items.mergeSort fun left right => rank left ≤ rank right)) :
    rank left ≤ rank right :=
  List.pairwise_iff_forall_sublist.1 (pairwise_rank_le rank items) hsorted

/-- Sorting by a rank keeps the order of items with equal ranks. -/
theorem pair_sublist_of_mergeSort
    (hsorted : [left, right].Sublist (items.mergeSort fun left right => rank left ≤ rank right))
    (hrank : rank left = rank right) : [left, right].Sublist items := by
  let equal : α → Bool := fun item => rank item == rank left
  have hequal : (items.filter equal).Pairwise fun first second =>
      decide (rank first ≤ rank second) = true := by
    rw [List.pairwise_filter]
    refine List.pairwise_of_forall fun first second hfirst hsecond => ?_
    simp only [equal, beq_iff_eq] at hfirst hsecond
    simp [hfirst, hsecond]
  -- the items of this rank are a sublist of the sorted list, and it has no others of this rank
  have hkept := (List.sublist_mergeSort (rank_le_trans rank) (rank_le_total rank) hequal
    List.filter_sublist).filter equal
  simp only [List.filter_filter, Bool.and_self] at hkept
  have hsame := hkept.eq_of_length ((List.mergeSort_perm items _).filter equal).length_eq.symm
  have hpair := hsorted.filter equal
  rw [← hsame] at hpair
  simp only [List.filter_cons, equal, hrank, BEq.rfl, if_true, List.filter_nil] at hpair
  exact hpair.trans List.filter_sublist

end ClassDiagram
