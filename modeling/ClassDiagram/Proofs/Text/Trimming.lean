import ClassDiagram.Text.Blank
import ClassDiagram.Text.Split

/-!
# Trimming, cutting and joining

A text that neither begins nor ends with a blank stays as it is when it is trimmed. A text is cut
where a mark stands that does not occur in the part that is looked at first. Parts that are joined
have separators between them, and with one more in front each part has its own.
-/

namespace ClassDiagram.Text

theorem trimEnd_isPrefix (cs : List Char) : trimEnd cs <+: cs := by
  rw [← List.reverse_suffix, trimEnd, List.reverse_reverse]
  exact List.dropWhile_suffix _

theorem trimStart_eq_self {cs : List Char} (hfirst : ∀ c ∈ cs.head?, isBlank c = false) :
    trimStart cs = cs := by
  cases cs with
  | nil => rfl
  | cons c rest => rw [trimStart, List.dropWhile_cons_of_neg (by simpa using hfirst c rfl)]

theorem trimEnd_eq_self {cs : List Char} (hlast : ∀ c ∈ cs.getLast?, isBlank c = false) :
    trimEnd cs = cs := by
  have hreversed : trimStart cs.reverse = cs.reverse :=
    trimStart_eq_self (List.head?_reverse ▸ hlast)
  rw [trimStart] at hreversed
  rw [trimEnd, hreversed, List.reverse_reverse]

theorem trim_eq_self {cs : List Char} (hfirst : ∀ c ∈ cs.head?, isBlank c = false)
    (hlast : ∀ c ∈ cs.getLast?, isBlank c = false) : trim cs = cs := by
  rw [trim, trimStart_eq_self hfirst, trimEnd_eq_self hlast]

theorem trim_cons_of_isBlank {c : Char} (hblank : isBlank c = true) (cs : List Char) :
    trim (c :: cs) = trim cs := by
  rw [trim, trimStart, List.dropWhile_cons_of_pos hblank, trim, trimStart]

/-- The text begins and ends with a character that is no blank. -/
structure HasVisibleEnds (cs : List Char) : Prop where
  first : ∃ c ∈ cs.head?, isBlank c = false
  last : ∃ c ∈ cs.getLast?, isBlank c = false

theorem HasVisibleEnds.singleton {c : Char} (hvisible : isBlank c = false) :
    HasVisibleEnds [c] :=
  ⟨⟨c, rfl, hvisible⟩, ⟨c, rfl, hvisible⟩⟩

theorem HasVisibleEnds.append {left right : List Char} (hleft : HasVisibleEnds left)
    (hright : HasVisibleEnds right) (middle : List Char) :
    HasVisibleEnds (left ++ middle ++ right) := by
  obtain ⟨first, hfirst, hfirstVisible⟩ := hleft.first
  obtain ⟨last, hlast, hlastVisible⟩ := hright.last
  refine ⟨⟨first, ?_, hfirstVisible⟩, ⟨last, ?_, hlastVisible⟩⟩
  · rw [Option.mem_def] at hfirst ⊢
    rw [List.head?_append, List.head?_append, hfirst, Option.some_or, Option.some_or]
  · rw [Option.mem_def] at hlast ⊢
    rw [List.getLast?_append, hlast, Option.some_or]

theorem HasVisibleEnds.ne_nil {cs : List Char} (hends : HasVisibleEnds cs) : cs ≠ [] := by
  rintro rfl
  obtain ⟨c, hfirst, -⟩ := hends.first
  cases hfirst

theorem HasVisibleEnds.trim_eq {cs : List Char} (hends : HasVisibleEnds cs) : trim cs = cs := by
  obtain ⟨first, hfirst, hfirstVisible⟩ := hends.first
  obtain ⟨last, hlast, hlastVisible⟩ := hends.last
  apply trim_eq_self
  · exact fun c hc => Option.mem_unique hc hfirst ▸ hfirstVisible
  · exact fun c hc => Option.mem_unique hc hlast ▸ hlastVisible

theorem isBlank_of_mem_head?_trimStart (cs : List Char) :
    ∀ c ∈ (trimStart cs).head?, isBlank c = false := by
  intro c hc
  have hnot := List.head?_dropWhile_not isBlank cs
  rw [Option.mem_def, trimStart] at hc
  rw [hc] at hnot
  exact hnot

/-- A text that begins with no blank and is not blank altogether has visible ends when its end is
trimmed. -/
theorem hasVisibleEnds_trimEnd {cs : List Char} (hfirst : ∀ c ∈ cs.head?, isBlank c = false)
    (hne : trimEnd cs ≠ []) : HasVisibleEnds (trimEnd cs) := by
  obtain ⟨first, rest, heq⟩ := List.exists_cons_of_ne_nil hne
  have hhead : cs.head? = some first := by
    obtain ⟨back, hback⟩ := trimEnd_isPrefix cs
    rw [← hback, heq]
    rfl
  refine ⟨⟨first, by rw [heq]; rfl, hfirst first hhead⟩, ?_⟩
  obtain ⟨last, hlast⟩ := Option.isSome_iff_exists.1 (List.getLast?_isSome.2 hne)
  refine ⟨last, hlast, isBlank_of_mem_head?_trimStart cs.reverse last ?_⟩
  rwa [trimEnd, List.getLast?_reverse] at hlast

theorem hasVisibleEnds_trim {cs : List Char} (hne : trim cs ≠ []) : HasVisibleEnds (trim cs) :=
  hasVisibleEnds_trimEnd (isBlank_of_mem_head?_trimStart cs) hne

/-- Trimming takes away blanks only. -/
theorem exists_eq_append_trim (cs : List Char) : ∃ front back, cs = front ++ trim cs ++ back ∧
    (∀ c ∈ front, isBlank c = true) ∧ ∀ c ∈ back, isBlank c = true := by
  let back := ((trimStart cs).reverse.takeWhile isBlank).reverse
  have hend : trim cs ++ back = trimStart cs := by
    rw [trim, trimEnd, ← List.reverse_append, List.takeWhile_append_dropWhile,
      List.reverse_reverse]
  refine ⟨cs.takeWhile isBlank, back, ?_, List.all_eq_true.1 List.all_takeWhile, fun c hc => ?_⟩
  · rw [List.append_assoc, hend]
    exact List.takeWhile_append_dropWhile.symm
  · exact List.all_eq_true.1 List.all_takeWhile c (List.mem_reverse.1 hc)

/-- Characters other than blanks are all kept. -/
theorem mem_trim_iff {c : Char} {cs : List Char} (hvisible : isBlank c = false) :
    c ∈ trim cs ↔ c ∈ cs := by
  obtain ⟨front, back, heq, hfront, hback⟩ := exists_eq_append_trim cs
  constructor
  · intro hmem
    rw [heq]
    exact List.mem_append_left _ (List.mem_append_right _ hmem)
  · intro hmem
    rw [heq, List.mem_append, List.mem_append] at hmem
    rcases hmem with (hmem | hmem) | hmem
    · cases hvisible.symm.trans (hfront c hmem)
    · exact hmem
    · cases hvisible.symm.trans (hback c hmem)

variable {mark : Char} {before after : List Char}

theorem splitFirst_eq_none_iff {cs : List Char} : splitFirst mark cs = none ↔ mark ∉ cs := by
  induction cs with
  | nil => simp [splitFirst]
  | cons c rest ih =>
    rw [splitFirst, List.mem_cons, not_or, ← ih]
    split
    · rename_i hmark
      simp [hmark]
    · rename_i hmark
      simp [Ne.symm hmark]

theorem not_mem_of_splitFirst {cs : List Char} (hsplit : splitFirst mark cs = some (before, after)) :
    mark ∉ before := by
  induction cs generalizing before with
  | nil => cases hsplit
  | cons c rest ih =>
    rw [splitFirst] at hsplit
    split at hsplit
    · cases hsplit
      exact List.not_mem_nil
    · rename_i hmark
      obtain ⟨⟨front, back⟩, hrest, heq⟩ := Option.map_eq_some_iff.1 hsplit
      cases heq
      rw [List.mem_cons, not_or]
      exact ⟨Ne.symm hmark, ih hrest⟩

theorem splitFirst_append_cons (hbefore : mark ∉ before) (after : List Char) :
    splitFirst mark (before ++ mark :: after) = some (before, after) := by
  induction before with
  | nil => rw [List.nil_append, splitFirst, if_pos rfl]
  | cons c rest ih =>
    rw [List.mem_cons, not_or] at hbefore
    rw [List.cons_append, splitFirst, if_neg (Ne.symm hbefore.1), ih hbefore.2]
    rfl

theorem splitLast_eq_none {cs : List Char} (hfree : mark ∉ cs) : splitLast mark cs = none := by
  induction cs with
  | nil => rfl
  | cons c rest ih =>
    rw [List.mem_cons, not_or] at hfree
    rw [splitLast, ih hfree.2]
    exact if_neg (Ne.symm hfree.1)

theorem splitLast_append_cons (before : List Char) (hafter : mark ∉ after) :
    splitLast mark (before ++ mark :: after) = some (before, after) := by
  induction before with
  | nil =>
    rw [List.nil_append, splitLast, splitLast_eq_none hafter]
    exact if_pos rfl
  | cons c rest ih => rw [List.cons_append, splitLast, ih]

theorem splitLast_eq_some {cs : List Char} (hsplit : splitLast mark cs = some (before, after)) :
    cs = before ++ mark :: after ∧ mark ∉ after := by
  by_cases hmem : mark ∈ cs
  · obtain ⟨back, front, hreverse, hfree⟩ := List.eq_append_cons_of_mem (List.mem_reverse.2 hmem)
    have hcs : cs = front.reverse ++ mark :: back.reverse := by
      rw [← List.reverse_inj, hreverse]
      simp
    rw [← List.mem_reverse] at hfree
    rw [hcs, splitLast_append_cons _ hfree] at hsplit
    cases hsplit
    exact ⟨hcs, hfree⟩
  · rw [splitLast_eq_none hmem] at hsplit
    cases hsplit

/-! ## Every occurrence of a mark -/

theorem splitEvery_mark_cons (mark : Char) (rest : List Char) :
    splitEvery mark (mark :: rest) = [] :: splitEvery mark rest := by
  rw [splitEvery, if_pos rfl]

/-- Another character goes to the front of the first part. -/
theorem exists_splitEvery_cons {c : Char} (hne : c ≠ mark) (rest : List Char) :
    ∃ first others, splitEvery mark rest = first :: others ∧
      splitEvery mark (c :: rest) = (c :: first) :: others := by
  induction rest generalizing c with
  | nil => exact ⟨[], [], rfl, by rw [splitEvery, if_neg hne]; rfl⟩
  | cons d rest ih =>
    have hstep : ∀ {first others}, splitEvery mark (d :: rest) = first :: others →
        splitEvery mark (c :: d :: rest) = (c :: first) :: others := by
      intro first others hparts
      rw [splitEvery, if_neg hne, hparts]
    by_cases hd : d = mark
    · have hparts : splitEvery mark (d :: rest) = [] :: splitEvery mark rest := by
        rw [hd, splitEvery_mark_cons]
      exact ⟨_, _, hparts, hstep hparts⟩
    · obtain ⟨first, others, -, hparts⟩ := ih hd
      exact ⟨_, _, hparts, hstep hparts⟩

theorem splitEvery_of_not_mem {cs : List Char} (hfree : mark ∉ cs) : splitEvery mark cs = [cs] := by
  induction cs with
  | nil => rfl
  | cons c rest ih =>
    rw [List.mem_cons, not_or] at hfree
    rw [splitEvery, if_neg (Ne.symm hfree.1), ih hfree.2]

theorem splitEvery_append_cons (before after : List Char) :
    splitEvery mark (before ++ mark :: after) =
      splitEvery mark before ++ splitEvery mark after := by
  induction before with
  | nil => exact splitEvery_mark_cons mark after
  | cons c rest ih =>
    by_cases hc : c = mark
    · rw [hc, List.cons_append, splitEvery_mark_cons, splitEvery_mark_cons, ih, List.cons_append]
    · obtain ⟨first, others, hrest, hparts⟩ := exists_splitEvery_cons hc rest
      rw [List.cons_append, splitEvery, if_neg hc, ih, hrest, hparts]
      rfl

/-- Every character other than the mark stands in one of the parts. -/
theorem exists_mem_splitEvery {cs : List Char} {c : Char} (hmem : c ∈ cs) (hne : c ≠ mark) :
    ∃ part ∈ splitEvery mark cs, c ∈ part := by
  induction cs with
  | nil => cases hmem
  | cons d rest ih =>
    by_cases hd : d = mark
    · obtain ⟨part, hpart, hc⟩ := ih ((List.mem_cons.1 hmem).resolve_left (hd ▸ hne))
      rw [hd, splitEvery_mark_cons]
      exact ⟨part, List.mem_cons_of_mem _ hpart, hc⟩
    · obtain ⟨first, others, hrest, hparts⟩ := exists_splitEvery_cons hd rest
      rw [hparts]
      rcases List.mem_cons.1 hmem with rfl | hmem
      · exact ⟨_, List.mem_cons_self, List.mem_cons_self⟩
      · obtain ⟨part, hpart, hc⟩ := ih hmem
        rw [hrest] at hpart
        rcases List.mem_cons.1 hpart with rfl | hpart
        · exact ⟨_, List.mem_cons_self, List.mem_cons_of_mem _ hc⟩
        · exact ⟨part, List.mem_cons_of_mem _ hpart, hc⟩

/-- If a new mark is put in the place of the old one, the parts are the same. -/
theorem splitEvery_map_mark {other : Char} {cs : List Char} (hfree : other ∉ cs) :
    splitEvery other (cs.map fun c => if c = mark then other else c) = splitEvery mark cs := by
  induction cs with
  | nil => rfl
  | cons c rest ih =>
    rw [List.mem_cons, not_or] at hfree
    rw [List.map_cons]
    by_cases hc : c = mark
    · rw [if_pos hc, hc, splitEvery_mark_cons, splitEvery_mark_cons, ih hfree.2]
    · rw [if_neg hc, splitEvery, if_neg (Ne.symm hfree.1), ih hfree.2, splitEvery, if_neg hc]

/-! ## Parts with separators -/

section Separated

variable {α : Type} {separator : List α} {parts : List (List α)}

/-- With one more separator in front every part has its own. -/
theorem append_intercalate (separator : List α) (hparts : parts ≠ []) :
    separator ++ separator.intercalate parts = parts.flatMap fun part => separator ++ part := by
  induction parts with
  | nil => exact absurd rfl hparts
  | cons first rest ih =>
    cases rest with
    | nil => simp [List.intercalate]
    | cons second others =>
      rw [List.flatMap_cons, ← ih (List.cons_ne_nil second others)]
      simp [List.intercalate, List.intersperse]

theorem forall_mem_intercalate {property : α → Prop} (hseparator : ∀ item ∈ separator, property item)
    (hparts : ∀ part ∈ parts, ∀ item ∈ part, property item) :
    ∀ item ∈ separator.intercalate parts, property item := by
  intro item hitem
  by_cases hempty : parts = []
  · simp [hempty, List.intercalate] at hitem
  · have hmem := List.mem_append_right separator hitem
    rw [append_intercalate separator hempty] at hmem
    obtain ⟨part, hpart, hitem⟩ := List.mem_flatMap.1 hmem
    exact (List.mem_append.1 hitem).elim (hseparator item) (hparts part hpart item)

end Separated

end ClassDiagram.Text
