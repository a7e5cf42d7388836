import ClassDiagram.Proofs.Text.CamelCase

/-!
# How a name begins

A name in snake case begins with the first letter or numeral of the text, in lower case: the marks
before it are gone. A letter becomes a letter there and a numeral stays as it is, so the name can
begin an identifier if and only if that first one is a letter.
-/

namespace ClassDiagram.Text

open Notation

/-- The name has a first character, and an identifier can start with it: it is no numeral. -/
def OpensIdentifier (name : String) : Prop :=
  ∃ c, name.toList.head? = some c ∧ startsIdentifier c = true

instance (name : String) : Decidable (OpensIdentifier name) :=
  decidable_of_iff (name.toList.head?.any startsIdentifier = true)
    (Option.any_eq_true startsIdentifier name.toList.head?)

instance (text : String) : Decidable (OpensWithLetter text) :=
  decidable_of_iff ((text.toList.filter isAlphanumeric).head?.any isAlphabetic = true)
    (Option.any_eq_true isAlphabetic (text.toList.filter isAlphanumeric).head?)

theorem OpensIdentifier.append {name : String} (hopens : OpensIdentifier name) (suffix : String) :
    OpensIdentifier (name ++ suffix) := by
  obtain ⟨c, hhead, hstarts⟩ := hopens
  refine ⟨c, ?_, hstarts⟩
  rw [String.toList_append, List.head?_append, hhead, Option.some_or]

/-! ## First characters in lower case -/

theorem startsIdentifier_of_isAlphabetic {c : Char} (hletter : isAlphabetic c = true) :
    startsIdentifier c = true := by
  rw [startsIdentifier, hletter, Bool.true_or, Bool.true_or]

/-- Of letters and numerals only the letters start identifiers. -/
theorem startsIdentifier_of_isAlphanumeric {c : Char} (hc : isAlphanumeric c = true) :
    startsIdentifier c = isAlphabetic c := by
  have hmarks : isAlphanumeric '_' = false ∧ isAlphanumeric '$' = false := by decide +kernel
  have hunderscore : c ≠ '_' := fun heq => Bool.false_ne_true (hmarks.1.symm.trans (heq ▸ hc))
  have hdollar : c ≠ '$' := fun heq => Bool.false_ne_true (hmarks.2.symm.trans (heq ▸ hc))
  rw [startsIdentifier, beq_eq_false_iff_ne.2 hunderscore, beq_eq_false_iff_ne.2 hdollar,
    Bool.or_false, Bool.or_false]

/-- What another lower case begins with is a letter, and it is that of a letter. -/
theorem lowercase_opens (c : Char) : lowercase c = [c] ∨
    isAlphabetic c = true ∧ ∃ d rest, lowercase c = d :: rest ∧ isAlphabetic d = true := by
  have hchanged : bitsOf (loweringRuns.flatMap fun run => run.members) &&&
      bitsWithin letterIntervals = bitsOf (loweringRuns.flatMap fun run => run.members) := by
    decide +kernel
  have hascii : ∀ code ∈ List.range 128, (Char.ofNat code).toLower = Char.ofNat code ∨
      isAlphabetic (Char.ofNat code) = true ∧
        isAlphabetic (Char.ofNat code).toLower = true := by
    decide +kernel
  rw [lowercase]
  split_ifs with hcode hdotted
  · have hlower := hascii c.toNat (List.mem_range.2 hcode)
    rw [Char.ofNat_toNat] at hlower
    rcases hlower with heq | ⟨hletter, hlower⟩
    · exact .inl (by rw [heq])
    · exact .inr ⟨hletter, _, [], rfl, hlower⟩
  · have hletters : isAlphabetic (Char.ofNat 0x130) = true ∧ isAlphabetic 'i' = true := by
      decide
    rw [← hdotted, Char.ofNat_toNat] at hletters
    exact .inr ⟨hletters.1, 'i', _, rfl, hletters.2⟩
  · split
    · rename_i run hrun
      have hcontains := contains_of_find?_eq_some hrun
      have hmem := List.mem_of_find?_eq_some hrun
      have hletter := isAlphabetic_of_bitsOf hchanged
        (List.mem_flatMap.2 ⟨run, hmem, CodeRun.mem_members hcontains⟩)
      rw [Char.ofNat_toNat] at hletter
      exact .inr ⟨hletter, _, [], rfl, isAlphabetic_lowercase hmem hcontains⟩
    · exact .inl rfl

theorem lowerWord_opens (c : Char) (rest : List Char) : ∃ d others,
    lowerWord (c :: rest) = d :: others ∧
      (d = c ∨ isAlphabetic c = true ∧ isAlphabetic d = true) := by
  have hcase : ∃ d others, lowercase c = d :: others ∧
      (d = c ∨ isAlphabetic c = true ∧ isAlphabetic d = true) := by
    rcases lowercase_opens c with hsame | ⟨hletter, d, others, heq, hlower⟩
    · exact ⟨c, [], hsame, .inl rfl⟩
    · exact ⟨d, others, heq, .inr ⟨hletter, hlower⟩⟩
  obtain ⟨d, others, heq, hd⟩ := hcase
  cases rest with
  | nil =>
    rw [lowerWord]
    split
    · rename_i hsigma
      have hletters : isAlphabetic 'Σ' = true ∧ isAlphabetic 'ς' = true := by decide
      exact ⟨'ς', [], rfl, .inr (hsigma ▸ hletters)⟩
    · exact ⟨d, others, heq, hd⟩
  | cons second more =>
    rw [lowerWord, heq, List.cons_append]
    · exact ⟨d, _, rfl, hd⟩
    · exact List.cons_ne_nil _ _

/-! ## Names in snake case -/

theorem snakeCase_eq_empty {text : String}
    (hnone : text.toList.filter isAlphanumeric = []) : snakeCase text = "" := by
  rw [← flatten_words, List.flatten_eq_nil_iff] at hnone
  have hwords : words text.toList = [] := List.eq_nil_iff_forall_not_mem.2 fun word hword =>
    ne_nil_of_mem_wordsFrom (fun hne => absurd rfl hne) word hword (hnone word hword)
  rw [snakeCase, hwords]
  rfl

/-- The first letter or numeral of a text comes first in snake case. -/
theorem head?_snakeCase {text : String} {c : Char}
    (hfirst : (text.toList.filter isAlphanumeric).head? = some c) : ∃ d,
    (snakeCase text).toList.head? = some d ∧
      (d = c ∨ isAlphabetic c = true ∧ isAlphabetic d = true) := by
  rw [← flatten_words] at hfirst
  cases hwords : words text.toList with
  | nil =>
    rw [hwords] at hfirst
    cases hfirst
  | cons word words =>
    have hword : word ≠ [] :=
      ne_nil_of_mem_wordsFrom (fun hne => absurd rfl hne) word (hwords ▸ List.mem_cons_self)
    obtain ⟨first, rest, rfl⟩ := List.exists_cons_of_ne_nil hword
    obtain rfl : first = c := by
      simpa [hwords] using hfirst
    obtain ⟨d, others, heq, hd⟩ := lowerWord_opens first rest
    refine ⟨d, ?_, hd⟩
    rw [snakeCase, String.toList_ofList, hwords, List.map_cons, heq]
    cases words <;> simp [List.intercalate]

/-- A name in snake case begins as an identifier does if and only if the first letter or numeral of
the text is a letter. -/
theorem opensIdentifier_snakeCase_iff (text : String) :
    OpensIdentifier (snakeCase text) ↔ OpensWithLetter text := by
  constructor
  · rintro ⟨d, hhead, hstarts⟩
    cases hfirst : (text.toList.filter isAlphanumeric).head? with
    | none =>
      rw [snakeCase_eq_empty (List.head?_eq_none_iff.1 hfirst)] at hhead
      cases hhead
    | some c =>
      have hc : isAlphanumeric c = true := (List.mem_filter.1 (List.mem_of_head? hfirst)).2
      obtain ⟨first, hsnake, hcases⟩ := head?_snakeCase hfirst
      obtain rfl : first = d := Option.some.inj (hsnake.symm.trans hhead)
      refine ⟨c, hfirst, ?_⟩
      rcases hcases with rfl | ⟨hletter, -⟩
      · exact startsIdentifier_of_isAlphanumeric hc ▸ hstarts
      · exact hletter
  · rintro ⟨c, hfirst, hletter⟩
    obtain ⟨d, hsnake, hcases⟩ := head?_snakeCase hfirst
    refine ⟨d, hsnake, startsIdentifier_of_isAlphabetic ?_⟩
    rcases hcases with rfl | ⟨-, hlower⟩
    · exact hletter
    · exact hlower

/-- Blanks at the ends of a text are neither letters nor numerals. -/
theorem opensWithLetter_trimmed_iff (text : String) :
    OpensWithLetter (trimmed text) ↔ OpensWithLetter text := by
  have hdrop : ∀ cs : List Char,
      (cs.dropWhile isBlank).filter isAlphanumeric = cs.filter isAlphanumeric := by
    intro cs
    induction cs with
    | nil => rfl
    | cons c rest ih =>
      cases hblank : isBlank c with
      | false => rw [List.dropWhile_cons_of_neg (by simp [hblank])]
      | true =>
        have hother : ¬ isAlphanumeric c = true := fun hc => by
          have hgoes := continuesIdentifier_of_isBlank hblank
          rw [continuesIdentifier, hc] at hgoes
          cases hgoes
        rw [List.dropWhile_cons_of_pos hblank, ih, List.filter_cons_of_neg hother]
  have htrim : (trim text.toList).filter isAlphanumeric = text.toList.filter isAlphanumeric := by
    rw [trim, trimEnd, List.filter_reverse, hdrop, List.filter_reverse, List.reverse_reverse,
      trimStart, hdrop]
  rw [OpensWithLetter, trimmed, String.toList_ofList, htrim, OpensWithLetter]

end ClassDiagram.Text
