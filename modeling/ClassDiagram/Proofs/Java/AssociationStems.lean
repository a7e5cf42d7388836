import ClassDiagram.Java.Entity
import ClassDiagram.Proofs.Text.Trimming

/-!
# Names of associations

A column that refers to a table is named by the table and its key, and a number keeps such columns
apart. The name of the association is found again by leaving out the key, and the number stays.
-/

namespace ClassDiagram

open Text

/-! ## Leaving out a suffix -/

theorem stem?_eq_some_iff {suffix text stem : List Char} :
    stem? suffix text = some stem ↔ text = stem ++ suffix ∧ stem ≠ [] := by
  rw [stem?]
  constructor
  · intro hstem
    split at hstem
    · rename_i hends
      simp only [Bool.and_eq_true, List.isSuffixOf_iff_suffix, decide_eq_true_eq] at hends
      obtain ⟨⟨front, rfl⟩, hlength⟩ := hends
      rw [List.length_append, Nat.add_sub_cancel, List.take_left', Option.some.injEq] at hstem
      · subst hstem
        refine ⟨rfl, ?_⟩
        rintro rfl
        simp at hlength
      · rfl
    · cases hstem
  · rintro ⟨rfl, hne⟩
    have hpositive : 0 < stem.length := List.length_pos_iff.2 hne
    have hends : suffix.isSuffixOf (stem ++ suffix) = true :=
      List.isSuffixOf_iff_suffix.2 (List.suffix_append _ _)
    rw [hends, List.length_append, Nat.add_sub_cancel, List.take_left' rfl]
    simp [hpositive]

/-- A text with a mark in front that can be moved past a mark and digits is made of these only. -/
theorem eq_of_append_comm {digits : List Char} (hdigits : '_' ∉ digits) {front word : List Char}
    (hword : ∀ c, word.head? = some c → c = '_')
    (heq : front ++ word = word ++ '_' :: digits) : front = '_' :: digits := by
  -- by induction on the length of the word, of which the marked digits can be taken off again
  induction hlength : word.length using Nat.strongRecOn generalizing word with
  | ind length ih =>
    rcases List.append_eq_append_iff.1 heq with ⟨middle, hfront, hback⟩ | ⟨middle, hfront, hback⟩
    · have hshorter : middle.length < length := by
        rw [← hlength, hback, List.length_append, List.length_cons]
        omega
      refine ih middle.length hshorter ?_ (hfront.symm.trans hback) rfl
      intro c hc
      apply hword c
      rw [hback, List.head?_append, hc, Option.some_or]
    · cases word with
      | nil => rw [hfront, hback, List.append_nil, List.nil_append]
      | cons c rest =>
        obtain rfl : c = '_' := hword c rfl
        cases middle with
        | nil => rw [hfront, hback, List.append_nil, List.nil_append]
        | cons d others =>
          rw [List.cons_append, List.cons.injEq] at hback
          exact absurd (hback.2 ▸ List.mem_append_right _ List.mem_cons_self) hdigits

/-! ## Stems -/

variable {table : String} (htable : table ≠ "") (key : String)

include htable

/-- The name of a table is found again in the name of a column that refers to its key. -/
theorem associationStem_reference : associationStem (table ++ "_" ++ key) key = table := by
  have hstem : stem? ('_' :: key.toList) (table ++ "_" ++ key).toList = some table.toList := by
    rw [stem?_eq_some_iff]
    refine ⟨by simp, mt String.toList_eq_nil_iff.1 htable⟩
  rw [associationStem]
  simp only [hstem, String.ofList_toList]

/-- A number behind the name of the column stays behind the name of the table. -/
theorem associationStem_numbered {number : String} (hnumber : isDigits number.toList = true) :
    associationStem (table ++ "_" ++ key ++ "_" ++ number) key = table ++ "_" ++ number := by
  have hdigits : '_' ∉ number.toList := by
    intro hmem
    cases List.all_eq_true.1 hnumber '_' hmem
  have hcolumn : (table ++ "_" ++ key ++ "_" ++ number).toList =
      (table.toList ++ '_' :: key.toList) ++ '_' :: number.toList := by
    simp
  have hresult : table ++ "_" ++ number =
      String.ofList (table.toList ++ '_' :: number.toList) := by
    apply String.toList_inj.1
    simp
  have hfront : stem? ('_' :: key.toList) (table.toList ++ '_' :: key.toList) =
      some table.toList :=
    stem?_eq_some_iff.2 ⟨rfl, mt String.toList_eq_nil_iff.1 htable⟩
  rw [associationStem, hcolumn, hresult]
  cases hstem : stem? ('_' :: key.toList)
      ((table.toList ++ '_' :: key.toList) ++ '_' :: number.toList) with
  | none =>
    simp only [splitLast_append_cons _ hdigits, hfront, hnumber, if_true]
  | some stem =>
    -- the key itself ends with the mark and the number, over and over again
    obtain ⟨heq, -⟩ := stem?_eq_some_iff.1 hstem
    rw [List.append_assoc] at heq
    rcases List.append_eq_append_iff.1 heq with ⟨middle, rfl, hback⟩ | ⟨middle, -, hback⟩
    · rw [eq_of_append_comm hdigits (by simp) hback.symm]
    · have hlength := congrArg List.length hback
      simp only [List.length_append, List.length_cons] at hlength
      omega

end ClassDiagram
