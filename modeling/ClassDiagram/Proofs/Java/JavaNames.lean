import ClassDiagram.Conventions
import ClassDiagram.Java.Project
import ClassDiagram.Proofs.Fresh
import ClassDiagram.Proofs.Text.CamelCase

/-!
# Names for Java

The names of fields are made from the names that a schema has in store, in camel case, with further
words, capitals and numbers behind them. They stay legal on the way: a letter comes first, nothing
but letters and numerals follows, and only a name without capitals and numerals can be a reserved
word.
-/

namespace ClassDiagram

open Text

/-- Reserved words are made of small letters. -/
theorem not_mem_javaReservedWords {name : String} {c : Char} (hc : c ∈ name.toList)
    (hlower : c.isLower = false) : name ∉ javaReservedWords := by
  have hsmall : (javaReservedWords.all fun word => word.toList.all Char.isLower) = true := by
    decide
  intro hmem
  have hletter := List.all_eq_true.1 (List.all_eq_true.1 hsmall name hmem) c hc
  cases hlower.symm.trans hletter

theorem isJavaName_of_eq_cons {name : String} {first : Char} {rest : List Char}
    (hname : name.toList = first :: rest) (hletter : isAlphabetic first = true)
    (hfree : name ∉ javaReservedWords) (hrest : ∀ c ∈ rest, isAlphanumeric c = true) :
    isJavaName name.toList = true := by
  have hidentifier : isIdentifier name.toList = true := by
    rw [hname, isIdentifier, startsIdentifier, hletter, Bool.true_or, Bool.true_or, Bool.true_and,
      List.all_eq_true]
    intro c hc
    rw [continuesIdentifier, hrest c hc, Bool.true_or, Bool.true_or]
  have hcontains : javaReservedWords.contains name = false := by
    rw [← Bool.not_eq_true, List.contains_iff_mem]
    exact hfree
  rw [isJavaName, hidentifier, String.ofList_toList, hcontains]
  rfl

theorem toList_toString_ne_nil (n : Nat) : (toString n).toList ≠ [] := by
  rw [Nat.toString_eq_repr, Nat.toList_repr]
  exact Nat.toDigits_ne_nil

theorem isLower_of_isDigit {c : Char} (hdigit : c.isDigit = true) : c.isLower = false := by
  rw [← Bool.not_eq_true, ← Char.ofNat_toNat c]
  intro hlower
  have hbounds := isLower_ofNat hlower
  have hlast : c.toNat ≤ 57 := (Char.isDigit_iff_toNat.1 hdigit).2
  omega

/-! ## Names of fields -/

/-- A name in camel case, which is a reserved word only if it has this origin. -/
structure IsFieldName (origin : String → Prop) (name : String) : Prop where
  camel : IsCamel name
  reserved : name ∈ javaReservedWords → origin name

variable {origin : String → Prop}

namespace IsFieldName

variable {name : String}

theorem isJavaName_or_reserved (hname : IsFieldName origin name) :
    isJavaName name.toList = true ∨ name ∈ javaReservedWords ∧ origin name := by
  obtain ⟨first, rest, htext, hletter, -, hrest⟩ := hname.camel
  by_cases hword : name ∈ javaReservedWords
  · exact .inr ⟨hword, hname.reserved hword⟩
  · exact .inl (isJavaName_of_eq_cons htext hletter hword hrest)

/-- Whatever is made of letters and numerals can stand behind a name, if not all of it is small
letters. -/
theorem append (hname : IsFieldName origin name) {suffix : String}
    (hsuffix : ∀ c ∈ suffix.toList, isAlphanumeric c = true)
    (hmark : ∃ c ∈ suffix.toList, c.isLower = false) : IsFieldName origin (name ++ suffix) where
  camel := hname.camel.append hsuffix
  reserved hword := by
    obtain ⟨c, hc, hlower⟩ := hmark
    have hmem : c ∈ (name ++ suffix).toList :=
      String.toList_append ▸ List.mem_append_right _ hc
    exact absurd hword (not_mem_javaReservedWords hmem hlower)

/-- A word with a capital can stand behind a name. -/
theorem append_word (hname : IsFieldName origin name) {word : String}
    (hword : (word.toList.all Char.isAlphanum && word.toList.any fun c => !c.isLower) = true) :
    IsFieldName origin (name ++ word) := by
  rw [Bool.and_eq_true, List.all_eq_true, List.any_eq_true] at hword
  refine hname.append (fun c hc => isAlphanumeric_of_isAlphanum (hword.1 c hc)) ?_
  obtain ⟨c, hc, hlower⟩ := hword.2
  exact ⟨c, hc, by simpa using hlower⟩

theorem append_list (hname : IsFieldName origin name) : IsFieldName origin (name ++ "List") :=
  hname.append_word (by decide)

theorem append_number (hname : IsFieldName origin name) (n : Nat) :
    IsFieldName origin (name ++ toString n) := by
  obtain ⟨c, rest, htext⟩ := List.exists_cons_of_ne_nil (toList_toString_ne_nil n)
  have hc : c ∈ (toString n).toList := htext ▸ List.mem_cons_self
  refine hname.append (fun d hd => ?_) ⟨c, hc, isLower_of_isDigit (isDigit_of_mem_toString hc)⟩
  exact isAlphanumeric_of_isDigit (isDigit_of_mem_toString hd)

/-- The name of another field can stand behind a name, as it does for an inverse side. -/
theorem append_by (hname : IsFieldName origin name) {other : String}
    (hother : IsFieldName origin other) :
    IsFieldName origin (name ++ "By" ++ capitalized other) where
  camel := by
    have hby : IsFieldName origin (name ++ "By") := hname.append_word (by decide)
    exact hby.camel.append hother.camel.isAlphanumeric_of_mem_capitalized
  reserved hword := by
    have hmem : 'B' ∈ (name ++ "By" ++ capitalized other).toList := by simp
    exact absurd hword (not_mem_javaReservedWords hmem (by decide))

end IsFieldName

theorem isFieldName_freshAmong {candidates : List String}
    (hcandidates : ∀ candidate ∈ candidates, IsFieldName origin candidate) (taken : List String) :
    IsFieldName origin (freshAmong candidates taken) := by
  have hfield : IsFieldName origin "field" := by
    obtain ⟨hletter, hcapital, hrest, hfree⟩ : Text.isAlphabetic 'f' = true ∧
        (uppercase 'f').all isAlphanumeric = true ∧ "ield".toList.all isAlphanumeric = true ∧
          "field" ∉ javaReservedWords := by
      decide
    exact ⟨⟨'f', "ield".toList, rfl, hletter, List.all_eq_true.1 hcapital,
      List.all_eq_true.1 hrest⟩, fun hword => absurd hword hfree⟩
  rcases freshAmong_cases candidates taken with hmem | ⟨n, hnumbered⟩
  · exact hcandidates _ hmem
  · have hlast : IsFieldName origin (candidates.getLastD "field") := by
      rcases List.mem_cons.1 (List.getLastD_mem_cons (l := candidates) (a := "field")) with h | h
      · rw [h]
        exact hfield
      · exact hcandidates _ h
    rw [hnumbered]
    exact hlast.append_number n

/-! ## Names in a schema -/

/-- A name of a table or a column that a field can be named after. -/
structure NamesField (name : String) : Prop where
  letters : ∀ c ∈ name.toList, KeepsLetters c
  opens : OpensWithLetter name

/-- For plain text it is enough to look at the first letter or numeral. -/
theorem namesField_of_ascii {name : String}
    (hname : (name.toList.all fun c => c.toNat < 128) = true ∧
      (name.toList.filter isAlphanumeric).head?.any isAlphabetic = true) : NamesField name where
  letters := fun c hc =>
    keepsLetters_of_ascii (of_decide_eq_true (List.all_eq_true.1 hname.1 c hc))
  opens := by simpa [OpensWithLetter, Option.any_eq_true] using hname.2

/-- A type can be named after it as well. -/
theorem NamesField.isJavaName_typeName {name : String} (hname : NamesField name) :
    isJavaName (typeName name).toList = true := by
  obtain ⟨first, rest, htext, hletter, hlower, hrest⟩ :=
    upperCamelCase_eq_cons hname.letters hname.opens
  refine isJavaName_of_eq_cons htext hletter ?_ hrest
  exact not_mem_javaReservedWords (htext ▸ List.mem_cons_self) hlower

/-- As far as they are in lower case, such names can be joined and numbered. -/
structure IsStoredName (origin : String → Prop) (name : String) : Prop
    extends NamesField name where
  lower : IsLowerCase name
  reserved : fieldName name ∈ javaReservedWords → origin (fieldName name)

namespace IsStoredName

variable {name : String}

theorem isFieldName (hname : IsStoredName origin name) :
    IsFieldName origin (fieldName name) where
  camel := isCamel_lowerCamelCase hname.lower hname.letters hname.opens
  reserved := hname.reserved

theorem words_ne_nil (hname : IsStoredName origin name) : words name.toList ≠ [] := by
  obtain ⟨c, hhead, -⟩ := hname.opens
  obtain ⟨hmem, hc⟩ := List.mem_filter.1 (List.mem_of_head? hhead)
  exact Text.words_ne_nil hmem hc

theorem ne_empty (hname : IsStoredName origin name) : name ≠ "" := by
  rintro rfl
  exact hname.words_ne_nil rfl

theorem append (hname : IsStoredName origin name) {other : String} (hlower : IsLowerCase other)
    (hletters : ∀ c ∈ other.toList, KeepsLetters c) (hwords : words other.toList ≠ []) :
    IsStoredName origin (name ++ "_" ++ other) where
  letters := by
    rw [String.toList_append, String.toList_append, List.forall_mem_append, List.forall_mem_append]
    refine ⟨⟨hname.letters, ?_⟩, hletters⟩
    exact List.forall_mem_singleton.2 (keepsLetters_of_ascii (by decide))
  opens := by
    obtain ⟨c, hhead, hletter⟩ := hname.opens
    refine ⟨c, ?_, hletter⟩
    rw [String.toList_append, String.toList_append, List.filter_append, List.filter_append,
      List.head?_append, List.head?_append, hhead, Option.some_or, Option.some_or]
  reserved hword := by
    obtain ⟨c, hc, hcapital⟩ := exists_mem_upperCamelCase hwords
    rw [fieldName, lowerCamelCase_append hname.words_ne_nil] at hword
    have hmem : c ∈ (lowerCamelCase name ++ upperCamelCase other).toList :=
      String.toList_append ▸ List.mem_append_right _ hc
    exact absurd hword (not_mem_javaReservedWords hmem hcapital)
  lower := by
    have hmark : IsLowerCase "_" := isLowerCase_of_ascii (by decide)
    exact (hname.lower.append hmark).append hlower

/-- Two names can be joined. -/
theorem join (hname : IsStoredName origin name) {other : String}
    (hother : IsStoredName origin other) :
    IsStoredName origin (name ++ "_" ++ other) :=
  hname.append hother.lower hother.letters hother.words_ne_nil

/-- A name can be numbered. -/
theorem numbered (hname : IsStoredName origin name) (n : Nat) :
    IsStoredName origin (name ++ "_" ++ toString n) := by
  have hascii : ∀ c ∈ (toString n).toList, c.toNat < 128 ∧ c.toNat ∉ List.range' 0x41 26 := by
    intro c hc
    have hbounds : 48 ≤ c.toNat ∧ c.toNat ≤ 57 :=
      Char.isDigit_iff_toNat.1 (isDigit_of_mem_toString hc)
    rw [List.mem_range'_1]
    omega
  obtain ⟨c, rest, htext⟩ := List.exists_cons_of_ne_nil (toList_toString_ne_nil n)
  have hc : c ∈ (toString n).toList := htext ▸ List.mem_cons_self
  have hlower : IsLowerCase (toString n) :=
    isLowerCase_of_ascii (List.all_eq_true.2 fun d hd => decide_eq_true (hascii d hd))
  refine hname.append hlower (fun d hd => keepsLetters_of_ascii (hascii d hd).1)
    (Text.words_ne_nil hc ?_)
  exact isAlphanumeric_of_isDigit (isDigit_of_mem_toString hc)

end IsStoredName

theorem isStoredName_id : IsStoredName origin "id" where
  toNamesField := namesField_of_ascii (by decide)
  lower := isLowerCase_of_ascii (by decide)
  reserved hword := absurd hword (by decide)

end ClassDiagram
