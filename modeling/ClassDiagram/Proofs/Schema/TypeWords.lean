import ClassDiagram.Proofs.Text.Openings
import ClassDiagram.Proofs.Text.Trimming
import ClassDiagram.Schema.Vocabulary

/-!
# Spellings of type words

A word of the vocabulary may be spelled with capitals and small letters in any way. It keeps its SQL
type and its Java type; only whether a column is mandatory depends on the spelling. Three words for
primitive types are missing among the words that count in any casing, so they count in lower case
only.
-/

namespace ClassDiagram

open Text Notation

/-! ## Spellings -/

/-- What is no part of words stays as it is in lower case. -/
theorem mem_lowercased {text : String} {c : Char} (hstop : continuesIdentifier c = false)
    (hmem : c ∈ text.toList) : c ∈ (lowercased text).toList := by
  have hsame : lowercase c = [c] := by
    rcases lowercase_opens c with hsame | ⟨hletter, -⟩
    · exact hsame
    · have hstarts := startsIdentifier_of_isAlphabetic hletter
      cases hstop.symm.trans (continuesIdentifier_of_starts hstarts)
  rw [lowercased, String.toList_ofList, List.mem_flatMap]
  exact ⟨c, hmem, hsame ▸ List.mem_singleton_self c⟩

/-- A spelling of a single word has no blanks around it. -/
theorem trimmed_eq_self {text : String}
    (hword : ∀ c ∈ (lowercased text).toList, continuesIdentifier c = true) :
    trimmed text = text := by
  have hvisible : ∀ c ∈ text.toList, isBlank c = false := by
    intro c hc
    rw [← Bool.not_eq_true]
    intro hblank
    have hstop := continuesIdentifier_of_isBlank hblank
    cases hstop.symm.trans (hword c (mem_lowercased hstop hc))
  have htrim : trim text.toList = text.toList := by
    apply trim_eq_self
    · exact fun c hc => hvisible c (List.mem_of_head? hc)
    · exact fun c hc => hvisible c (List.mem_of_getLast? hc)
  rw [trimmed, htrim, String.ofList_toList]

/-- The words of the vocabulary are made of letters of ASCII. -/
theorem continues_of_mem_vocabulary {word : String} (hword : word ∈ vocabulary) :
    ∀ c ∈ (lowercased word).toList, continuesIdentifier c = true := by
  have hletters : (vocabulary.all fun word =>
      word.toList.all fun c => c.toNat.blt 0x80 && c.isAlphanum) = true := by
    decide
  intro d hd
  rw [lowercased, String.toList_ofList, List.mem_flatMap] at hd
  obtain ⟨c, hc, hd⟩ := hd
  have hletter := List.all_eq_true.1 (List.all_eq_true.1 hletters word hword) c hc
  rw [Bool.and_eq_true, Nat.blt_eq] at hletter
  obtain ⟨hascii, hletter⟩ := hletter
  have hlower := (isAlphanum_of_ascii hascii (isAlphanumeric_of_isAlphanum hletter)).1
  rw [lowercase, if_pos hascii, List.mem_singleton] at hd
  rw [hd, continuesIdentifier, isAlphanumeric_of_isAlphanum hlower, Bool.true_or, Bool.true_or]

/-! ## Types of the spellings -/

/-- Both stand for the same SQL type and the same Java type. -/
def Typing.IsLike (typing other : Typing) : Prop :=
  typing.sqlType = other.sqlType ∧ typing.javaType = other.javaType

instance (typing other : Typing) : Decidable (typing.IsLike other) :=
  inferInstanceAs (Decidable (_ ∧ _))

/-- The words for primitive types that do not count in any casing. -/
def lowerCaseOnly : List String :=
  (primitiveTypings.map Prod.fst).filter fun word => (referenceTypings.lookup word).isNone

example : lowerCaseOnly = ["int", "char", "bool"] := by decide

theorem mem_of_lookup {typings : List (String × Typing)} {key : String} {typing : Typing}
    (hlookup : typings.lookup key = some typing) : (key, typing) ∈ typings := by
  obtain ⟨before, after, rfl, -⟩ := List.lookup_eq_some_iff.1 hlookup
  exact List.mem_append_right _ List.mem_cons_self

theorem lookup_ne_none_of_mem {typings : List (String × Typing)} {key : String}
    (hkey : key ∈ typings.map Prod.fst) : typings.lookup key ≠ none := by
  intro hnone
  obtain ⟨entry, hentry, rfl⟩ := List.mem_map.1 hkey
  exact bne_iff_ne.1 (List.lookup_eq_none_iff.1 hnone entry hentry) rfl

/-- The words for primitive types are in lower case. -/
theorem eq_lowercased_of_mem {entry : String × Typing} (hentry : entry ∈ primitiveTypings) :
    entry.1 = lowercased entry.1 := by
  have hlower : ∀ entry ∈ primitiveTypings, entry.1 = lowercased entry.1 := by decide
  exact hlower entry hentry

theorem eq_lowercased_of_lookup {spelling : String} {typing : Typing}
    (hlookup : primitiveTypings.lookup spelling = some typing) :
    spelling = lowercased spelling :=
  eq_lowercased_of_mem (mem_of_lookup hlookup)

/-- A word is looked up by its lower case, also among the words for primitive types. -/
theorem lookup_of_typing? {word : String} {typing : Typing} (htyping : typing? word = some typing) :
    primitiveTypings.lookup (lowercased (trimmed word)) = some typing ∨
      referenceTypings.lookup (lowercased (trimmed word)) = some typing := by
  rw [typing?] at htyping
  split at htyping
  · rename_i found hfound
    cases htyping
    exact .inl (eq_lowercased_of_lookup hfound ▸ hfound)
  · exact .inr htyping

/-- What a word stands for is listed under its lower case. -/
theorem entry_of_typing? {word : String} {typing : Typing} (htyping : typing? word = some typing) :
    (lowercased (trimmed word), typing) ∈ primitiveTypings ++ referenceTypings := by
  rcases lookup_of_typing? htyping with hprimitive | hreference
  · exact List.mem_append_left _ (mem_of_lookup hprimitive)
  · exact List.mem_append_right _ (mem_of_lookup hreference)

/-- A word that is in both tables stands for the same types in both. -/
theorem isLike_of_lookup {word : String} {primitive reference : Typing}
    (hprimitive : primitiveTypings.lookup word = some primitive)
    (hreference : referenceTypings.lookup word = some reference) :
    reference.IsLike primitive := by
  have hall : ∀ entry ∈ primitiveTypings, ∀ typing ∈ referenceTypings.lookup entry.1,
      typing.IsLike entry.2 := by
    decide
  exact hall (word, primitive) (mem_of_lookup hprimitive) reference hreference

/-- Two spellings of one word never stand for different types. -/
theorem isLike_of_lowercased_eq {word spelling : String} {expected typing : Typing}
    (hcase : lowercased (trimmed spelling) = lowercased (trimmed word))
    (hexpected : typing? word = some expected) (htyping : typing? spelling = some typing) :
    typing.IsLike expected := by
  have hword := lookup_of_typing? hexpected
  have hspelling := lookup_of_typing? htyping
  rw [hcase] at hspelling
  rcases hword with hword | hword <;> rcases hspelling with hspelling | hspelling
  · cases hword.symm.trans hspelling
    exact ⟨rfl, rfl⟩
  · exact isLike_of_lookup hword hspelling
  · obtain ⟨hsql, hjava⟩ := isLike_of_lookup hspelling hword
    exact ⟨hsql.symm, hjava.symm⟩
  · cases hword.symm.trans hspelling
    exact ⟨rfl, rfl⟩

section Vocabulary

variable {word : String} (hword : word ∈ vocabulary)

include hword

/-- A word of the vocabulary counts in any casing, or else it is spelled in lower case. -/
theorem mem_keys_of_mem_vocabulary :
    lowercased word ∈ referenceTypings.map Prod.fst ∨ word ∈ primitiveTypings.map Prod.fst := by
  have hall : ∀ word ∈ vocabulary, lowercased word ∈ referenceTypings.map Prod.fst ∨
      word ∈ primitiveTypings.map Prod.fst := by
    decide
  exact hall word hword

theorem trimmed_of_lowercased_eq {spelling : String}
    (hcase : lowercased spelling = lowercased word) : trimmed spelling = spelling :=
  trimmed_eq_self (hcase ▸ continues_of_mem_vocabulary hword)

theorem exists_typing?_of_mem_vocabulary : ∃ expected, typing? word = some expected := by
  rw [typing?, trimmed_of_lowercased_eq hword rfl]
  cases hprimitive : primitiveTypings.lookup word with
  | some typing => exact ⟨typing, rfl⟩
  | none =>
    apply Option.ne_none_iff_exists'.1
    intro hreference
    rcases mem_keys_of_mem_vocabulary hword with hkey | hkey
    · exact lookup_ne_none_of_mem hkey hreference
    · exact lookup_ne_none_of_mem hkey hprimitive

/-- A word that does not count in any casing is one for a primitive type. -/
theorem mem_lowerCaseOnly_iff :
    lowercased word ∈ lowerCaseOnly ↔ referenceTypings.lookup (lowercased word) = none := by
  rw [lowerCaseOnly, List.mem_filter, Option.isNone_iff_eq_none]
  apply and_iff_right_of_imp
  intro hnone
  rcases mem_keys_of_mem_vocabulary hword with hkey | hkey
  · exact absurd hnone (lookup_ne_none_of_mem hkey)
  · obtain ⟨entry, hentry, rfl⟩ := List.mem_map.1 hkey
    rw [← eq_lowercased_of_mem hentry]
    exact hkey

/-- Any spelling of a word of the vocabulary has the SQL type and the Java type of that word, but
for the words that count in lower case only, which are unknown in all other spellings. -/
theorem types_of_lowercased_eq {spelling : String}
    (hcase : lowercased spelling = lowercased word) :
    ∃ expected, typing? word = some expected ∧
      (typing? spelling = none ↔ lowercased word ∈ lowerCaseOnly ∧ spelling ≠ lowercased word) ∧
      ∀ typing, typing? spelling = some typing → typing.IsLike expected := by
  obtain ⟨expected, hexpected⟩ := exists_typing?_of_mem_vocabulary hword
  have htrimmed := trimmed_of_lowercased_eq hword hcase
  refine ⟨expected, hexpected, ?_, fun typing htyping => ?_⟩
  · rw [typing?, htrimmed, hcase, mem_lowerCaseOnly_iff hword]
    cases hprimitive : primitiveTypings.lookup spelling with
    | some found =>
      -- the spelling is in lower case, so it is the only one that could be in this table
      have hlower := (eq_lowercased_of_lookup hprimitive).trans hcase
      exact iff_of_false (Option.some_ne_none found) fun hunknown => hunknown.2 hlower
    | none =>
      refine ⟨fun hnone => ⟨hnone, fun hlower => ?_⟩, fun hunknown => hunknown.1⟩
      have hlisted := List.mem_filter.1 ((mem_lowerCaseOnly_iff hword).2 hnone)
      exact lookup_ne_none_of_mem hlisted.1 (hlower ▸ hprimitive)
  · have hsame : lowercased (trimmed spelling) = lowercased (trimmed word) := by
      rw [htrimmed, trimmed_of_lowercased_eq hword rfl, hcase]
    exact isLike_of_lowercased_eq hsame hexpected htyping

end Vocabulary

/-- The customary spelling of a word is one of many. -/
theorem types_of_lowercased_eq_localDate :
    "LocalDate" ∈ vocabulary ∧ lowercased "localDATE" = lowercased "LocalDate" ∧
      typing? "localDATE" ≠ none ∧
      ∀ typing, typing? "localDATE" = some typing →
        typing.sqlType = "DATE" ∧ typing.javaType = "LocalDate" := by
  obtain ⟨hword, hcase, hexpected, hany⟩ : "LocalDate" ∈ vocabulary ∧
      lowercased "localDATE" = lowercased "LocalDate" ∧
      typing? "LocalDate" = some ⟨"DATE", "LocalDate", true⟩ ∧
      lowercased "LocalDate" ∉ lowerCaseOnly := by
    decide
  obtain ⟨expected, hfound, hnone, hlike⟩ := types_of_lowercased_eq hword hcase
  cases hexpected.symm.trans hfound
  exact ⟨hword, hcase, fun hunknown => hany (hnone.1 hunknown).1, hlike⟩

/-- A word for a primitive type is unknown with a capital. -/
theorem capitalInt_unknown :
    "int" ∈ vocabulary ∧ lowercased "Int" = lowercased "int" ∧
      (typing? "int").isSome = true ∧ typing? "Int" = none := by
  decide

end ClassDiagram
