import ClassDiagram.Proofs.Notation.Scanning
import ClassDiagram.Proofs.Text.Trimming
import ClassDiagram.Text.Words
import Mathlib.Data.List.Basic

/-!
# Words in another case

A letter or numeral becomes no mark of ASCII in another case, and if it becomes one character it
stays a letter or numeral. Hence a name in camel case has no slashes and no dots, and where no
character becomes several of them it is an identifier, provided that its first one is a letter.
-/

namespace ClassDiagram.Text

open Notation

/-! ## Characters in another case -/

theorem isAlphanumeric_of_isAlphanum {c : Char} (hascii : c.isAlphanum = true) :
    isAlphanumeric c = true := by
  simp only [Char.isAlphanum, Bool.or_eq_true] at hascii
  rcases hascii with hletter | hdigit
  · simp [isAlphanumeric, isAlphabetic, hletter]
  · simp [isAlphanumeric, isNumeric, hdigit]

theorem isAlphanumeric_of_isAlphabetic {c : Char} (hletter : isAlphabetic c = true) :
    isAlphanumeric c = true := by
  rw [isAlphanumeric, hletter, Bool.true_or]

/-- Within ASCII the case changes letters only, and these into letters. -/
theorem isAlphanum_of_ascii {c : Char} (hascii : c.toNat < 128) (hc : isAlphanumeric c = true) :
    c.toLower.isAlphanum = true ∧ c.toUpper.isAlphanum = true ∧
      (isAlphabetic c = true → c.toUpper.isAlpha = true) := by
  have hcodes : ∀ code ∈ List.range 128, (Char.ofNat code).isAlphanum = true →
      (Char.ofNat code).toLower.isAlphanum = true ∧ (Char.ofNat code).toUpper.isAlphanum = true ∧
        ((Char.ofNat code).isAlpha = true → (Char.ofNat code).toUpper.isAlpha = true) := by
    decide +kernel
  have hcode := hcodes c.toNat (List.mem_range.2 hascii)
  rw [Char.ofNat_toNat] at hcode
  rw [isAlphabetic_of_ascii hascii]
  apply hcode
  rw [isAlphanumeric, isAlphabetic_of_ascii hascii, isNumeric_of_ascii hascii] at hc
  exact hc

/-- The code points of all letters. -/
def letterIntervals : List (Nat × Nat) :=
  (0x41, 0x5A) :: (0x61, 0x7A) :: alphabeticIntervals

theorem isAlphabetic_ofNat {code : Nat} (hletter : inIntervals letterIntervals code = true) :
    isAlphabetic (Char.ofNat code) = true := by
  have hascii : ∀ other ∈ List.range' 0x41 26 ++ List.range' 0x61 26,
      isAlphabetic (Char.ofNat other) = true := by
    decide
  have hcodes : (alphabeticIntervals.all fun interval =>
      interval.2.blt 0xD800 || (Nat.blt 0xDFFF interval.1 && interval.2.blt 0x110000)) = true := by
    decide +kernel
  obtain ⟨interval, hmem, hbounds⟩ := List.any_eq_true.1 hletter
  rw [Bool.and_eq_true, decide_eq_true_eq, decide_eq_true_eq] at hbounds
  rcases List.mem_cons.1 hmem with rfl | hmem
  · exact hascii code (List.mem_append_left _ (List.mem_range'_1.2 ⟨hbounds.1, by omega⟩))
  rcases List.mem_cons.1 hmem with rfl | hmem
  · exact hascii code (List.mem_append_right _ (List.mem_range'_1.2 ⟨hbounds.1, by omega⟩))
  · have hinside := List.all_eq_true.1 hcodes interval hmem
    simp only [Bool.or_eq_true, Bool.and_eq_true, Nat.blt_eq] at hinside
    have hvalid : code.isValidChar := by
      rcases hinside with hbelow | ⟨habove, hlast⟩
      · exact .inl (Nat.lt_of_le_of_lt hbounds.2 hbelow)
      · exact .inr ⟨Nat.lt_of_lt_of_le habove hbounds.1, Nat.lt_of_le_of_lt hbounds.2 hlast⟩
    have hcode : (Char.ofNat code).toNat = code := by
      rw [Char.ofNat, dif_pos hvalid]
      rfl
    rw [isAlphabetic, hcode, Bool.or_eq_true]
    exact .inr (List.any_eq_true.2 ⟨interval, hmem, by simp [hbounds]⟩)

theorem isAlphabetic_of_bitsOf {codes : List Nat}
    (hletters : bitsOf codes &&& bitsWithin letterIntervals = bitsOf codes) {code : Nat}
    (hmem : code ∈ codes) : isAlphabetic (Char.ofNat code) = true :=
  isAlphabetic_ofNat (inIntervals_of_bitsOf hletters hmem)

/-- The code points to which a run moves its members. -/
def imageOf (run : ShiftRun) : List Nat :=
  (List.range ((run.last - run.first) / run.step + 1)).map fun index =>
    (((run.first + run.step * index : Nat) : Int) + run.shift).toNat

theorem mem_imageOf {run : ShiftRun} {code : Nat} (hcontains : run.contains code = true) :
    ((code : Int) + run.shift).toNat ∈ imageOf run := by
  simp only [CodeRun.contains, Bool.and_eq_true, decide_eq_true_eq, beq_iff_eq] at hcontains
  obtain ⟨⟨hfirst, hlast⟩, hstep⟩ := hcontains
  refine List.mem_map.2 ⟨(code - run.first) / run.step, List.mem_range.2 ?_, ?_⟩
  · exact Nat.lt_succ_of_le (Nat.div_le_div_right (Nat.sub_le_sub_right hlast _))
  · rw [Nat.mul_div_cancel' (Nat.dvd_of_mod_eq_zero hstep), Nat.add_sub_cancel' hfirst]

theorem isAlphabetic_move {runs : List ShiftRun}
    (hletters : bitsOf (runs.flatMap imageOf) &&& bitsWithin letterIntervals =
      bitsOf (runs.flatMap imageOf)) {run : ShiftRun} (hrun : run ∈ runs) {c : Char}
    (hcontains : run.contains c.toNat = true) : isAlphabetic (run.move c) = true :=
  isAlphabetic_of_bitsOf hletters (List.mem_flatMap.2 ⟨run, hrun, mem_imageOf hcontains⟩)

theorem contains_of_find?_eq_some {runs : List ShiftRun} {code : Nat} {run : ShiftRun}
    (hfind : (runs.find? fun run => run.contains code) = some run) : run.contains code = true := by
  have hfound := List.find?_some hfind
  exact hfound

/-- The lower case of a character in a run is a letter. -/
theorem isAlphabetic_lowercase {run : ShiftRun} (hrun : run ∈ loweringRuns) {c : Char}
    (hcontains : run.contains c.toNat = true) : isAlphabetic (run.move c) = true := by
  have hletters : bitsOf (loweringRuns.flatMap imageOf) &&& bitsWithin letterIntervals =
      bitsOf (loweringRuns.flatMap imageOf) := by
    decide +kernel
  exact isAlphabetic_move hletters hrun hcontains

/-- What the lower case of a character is made of. -/
theorem lowercase_cases {c d : Char} (hd : d ∈ lowercase c) :
    c.toNat < 128 ∧ d = c.toLower ∨ (lowercase c).length ≠ 1 ∧ d ∈ ['i', Char.ofNat 0x307] ∨
      isAlphabetic d = true ∨ d = c := by
  rw [lowercase] at hd ⊢
  split_ifs at hd ⊢ with hascii hdotted
  · exact .inl ⟨hascii, List.mem_singleton.1 hd⟩
  · exact .inr (.inl ⟨by simp, hd⟩)
  · split at hd
    · rename_i run hrun
      have hcontains := contains_of_find?_eq_some hrun
      rw [List.mem_singleton.1 hd]
      exact .inr (.inr (.inl (isAlphabetic_lowercase (List.mem_of_find?_eq_some hrun) hcontains)))
    · exact .inr (.inr (.inr (List.mem_singleton.1 hd)))

theorem isLower_ofNat {code : Nat} (hlower : (Char.ofNat code).isLower = true) :
    97 ≤ code ∧ code ≤ 122 := by
  by_cases hvalid : code.isValidChar
  · rw [Char.ofNat, dif_pos hvalid] at hlower
    obtain ⟨hfirst, hlast⟩ := Bool.and_eq_true_iff.1 hlower
    exact ⟨of_decide_eq_true hfirst, of_decide_eq_true hlast⟩
  · rw [Char.ofNat, dif_neg hvalid] at hlower
    cases hlower

/-- What the upper case of a character is made of. -/
theorem uppercase_cases {c d : Char} (hd : d ∈ uppercase c) :
    c.toNat < 128 ∧ d = c.toUpper ∨ (uppercase c).length ≠ 1 ∧ endsWord d = false ∨
      isAlphabetic d = true ∨ d = c := by
  have hletters : bitsOf (raisingRuns.flatMap imageOf) &&& bitsWithin letterIntervals =
      bitsOf (raisingRuns.flatMap imageOf) := by
    decide +kernel
  have hsequences : (raisingSequences.all fun entry => entry.2.length != 1 &&
      entry.2.all fun code => !endsWord (Char.ofNat code)) = true := by
    decide +kernel
  rw [uppercase] at hd ⊢
  split_ifs at hd ⊢ with hascii
  · exact .inl ⟨hascii, List.mem_singleton.1 hd⟩
  · split at hd
    · rename_i entry hentry
      have hentries := List.all_eq_true.1 hsequences entry (List.mem_of_find?_eq_some hentry)
      simp only [Bool.and_eq_true, bne_iff_ne, List.all_eq_true, Bool.not_eq_true'] at hentries
      obtain ⟨code, hcode, rfl⟩ := List.mem_map.1 hd
      refine .inr (.inl ⟨?_, hentries.2 code hcode⟩)
      simpa only [hentry, List.length_map] using hentries.1
    · split at hd
      · rename_i run hrun
        have hletter := isAlphabetic_move hletters (List.mem_of_find?_eq_some hrun)
          (contains_of_find?_eq_some hrun)
        rw [List.mem_singleton.1 hd]
        exact .inr (.inr (.inl hletter))
      · exact .inr (.inr (.inr (List.mem_singleton.1 hd)))

theorem endsWord_of_isAlphanumeric {c : Char} (hc : isAlphanumeric c = true) :
    endsWord c = false := by
  have hcontinues : continuesIdentifier c = true := by
    rw [continuesIdentifier, hc, Bool.true_or, Bool.true_or]
  exact Bool.eq_false_iff.2 fun hends => ne_of_continues hcontinues hends rfl

/-- The character has one upper case and one lower case. -/
def HasSingleCases (c : Char) : Prop :=
  (uppercase c).length = 1 ∧ (lowercase c).length = 1

section Case

variable {c d : Char}

/-- In another case a letter or numeral becomes no mark of ASCII. -/
theorem endsWord_of_mem_case (hc : isAlphanumeric c = true)
    (hd : d ∈ uppercase c ∨ d ∈ lowercase c) : endsWord d = false := by
  rcases hd with hd | hd
  · rcases uppercase_cases hd with ⟨hascii, rfl⟩ | ⟨-, hends⟩ | hletter | rfl
    · have hupper := (isAlphanum_of_ascii hascii hc).2.1
      exact endsWord_of_isAlphanumeric (isAlphanumeric_of_isAlphanum hupper)
    · exact hends
    · exact endsWord_of_isAlphanumeric (isAlphanumeric_of_isAlphabetic hletter)
    · exact endsWord_of_isAlphanumeric hc
  · rcases lowercase_cases hd with ⟨hascii, rfl⟩ | ⟨-, hmarks⟩ | hletter | rfl
    · have hlower := (isAlphanum_of_ascii hascii hc).1
      exact endsWord_of_isAlphanumeric (isAlphanumeric_of_isAlphanum hlower)
    · have hends : ∀ mark ∈ ['i', Char.ofNat 0x307], endsWord mark = false := by
        rw [List.forall_mem_cons, List.forall_mem_singleton]
        exact ⟨by decide, by decide⟩
      exact hends d hmarks
    · exact endsWord_of_isAlphanumeric (isAlphanumeric_of_isAlphabetic hletter)
    · exact endsWord_of_isAlphanumeric hc

theorem isAlphanumeric_of_mem_case (hsingle : HasSingleCases c) (hc : isAlphanumeric c = true)
    (hd : d ∈ uppercase c ∨ d ∈ lowercase c) : isAlphanumeric d = true := by
  rcases hd with hd | hd
  · rcases uppercase_cases hd with ⟨hascii, rfl⟩ | ⟨hseveral, -⟩ | hletter | rfl
    · exact isAlphanumeric_of_isAlphanum (isAlphanum_of_ascii hascii hc).2.1
    · exact absurd hsingle.1 hseveral
    · exact isAlphanumeric_of_isAlphabetic hletter
    · exact hc
  · rcases lowercase_cases hd with ⟨hascii, rfl⟩ | ⟨hseveral, -⟩ | hletter | rfl
    · exact isAlphanumeric_of_isAlphanum (isAlphanum_of_ascii hascii hc).1
    · exact absurd hsingle.2 hseveral
    · exact isAlphanumeric_of_isAlphabetic hletter
    · exact hc

/-- A letter stays one in upper case. -/
theorem isAlphabetic_of_mem_uppercase (hsingle : HasSingleCases c) (hc : isAlphabetic c = true)
    (hd : d ∈ uppercase c) : isAlphabetic d = true := by
  have halphanumeric := isAlphanumeric_of_isAlphabetic hc
  rcases uppercase_cases hd with ⟨hascii, rfl⟩ | ⟨hseveral, -⟩ | hletter | rfl
  · rw [isAlphabetic, (isAlphanum_of_ascii hascii halphanumeric).2.2 hc, Bool.true_or]
  · exact absurd hsingle.1 hseveral
  · exact hletter
  · exact hc

/-- In another case a letter is made of letters, and a numeral of letters and numerals. -/
structure KeepsLetters (c : Char) : Prop where
  letter : isAlphabetic c = true → ∀ d ∈ uppercase c, isAlphabetic d = true
  alphanumeric : isAlphanumeric c = true →
    ∀ d, d ∈ uppercase c ∨ d ∈ lowercase c → isAlphanumeric d = true

theorem HasSingleCases.keepsLetters (hsingle : HasSingleCases c) : KeepsLetters c where
  letter hc _ hd := isAlphabetic_of_mem_uppercase hsingle hc hd
  alphanumeric hc _ hd := isAlphanumeric_of_mem_case hsingle hc hd

end Case

/-! ## Words -/

/-- The words of a text are made of its letters and numerals. -/
theorem flatten_wordsFrom (mode : WordMode) (word text : List Char) :
    (wordsFrom mode word text).flatten = word ++ text.filter isAlphanumeric := by
  have hfinished : ∀ word : List Char, (finishedWord word).flatten = word := by
    intro word
    cases word <;> simp [finishedWord]
  induction text generalizing mode word with
  | nil => rw [wordsFrom, hfinished, List.filter_nil, List.append_nil]
  | cons c rest ih =>
    rw [wordsFrom]
    split
    · rename_i halphanumeric
      rw [List.filter_cons_of_pos halphanumeric]
      split
      · rw [List.flatten_cons, ih]
        simp
      · rw [List.flatten_cons, ih]
        simp
      · rw [ih]
        simp
    · rename_i hother
      rw [List.filter_cons_of_neg hother, List.flatten_append, hfinished, ih, List.nil_append]

theorem flatten_words (text : List Char) :
    (words text).flatten = text.filter isAlphanumeric := by
  rw [words, flatten_wordsFrom, List.nil_append]

/-- The words of a text have only its own letters and numerals. -/
theorem mem_of_mem_words {text word : List Char} (hword : word ∈ words text) {c : Char}
    (hc : c ∈ word) : c ∈ text ∧ isAlphanumeric c = true := by
  have hflat : c ∈ (words text).flatten := List.mem_flatten.2 ⟨word, hword, hc⟩
  rw [flatten_words] at hflat
  exact List.mem_filter.1 hflat

section Names

variable {text : String} {property : Char → Prop}

theorem forall_mem_lowerWord (hsigma : property 'ς') {word : List Char}
    (hword : ∀ c ∈ word, ∀ d ∈ lowercase c, property d) : ∀ d ∈ lowerWord word, property d := by
  induction word with
  | nil => exact List.forall_mem_nil _
  | cons c rest ih =>
    rw [List.forall_mem_cons] at hword
    cases rest with
    | nil =>
      rw [lowerWord]
      split
      · exact List.forall_mem_singleton.2 hsigma
      · exact hword.1
    | cons second others =>
      rw [lowerWord, List.forall_mem_append]
      · exact ⟨hword.1, ih hword.2⟩
      · exact List.cons_ne_nil _ _

/-- What holds of letters and numerals in another case holds of names in camel case. -/
theorem forall_mem_upperCamelCase (hsigma : property 'ς')
    (hcases : ∀ c ∈ text.toList, isAlphanumeric c = true →
      ∀ d, d ∈ uppercase c ∨ d ∈ lowercase c → property d) :
    ∀ d ∈ (upperCamelCase text).toList, property d := by
  rw [upperCamelCase, String.toList_ofList]
  intro d hd
  obtain ⟨word, hword, hd⟩ := List.mem_flatMap.1 hd
  have hproperty : ∀ c ∈ word, ∀ d, d ∈ uppercase c ∨ d ∈ lowercase c → property d := by
    intro c hc
    obtain ⟨hmem, halphanumeric⟩ := mem_of_mem_words hword hc
    exact hcases c hmem halphanumeric
  cases word with
  | nil => cases hd
  | cons first rest =>
    rw [List.forall_mem_cons] at hproperty
    rw [titleWord, List.mem_append] at hd
    rcases hd with hupper | hlower
    · exact hproperty.1 d (.inl hupper)
    · refine forall_mem_lowerWord hsigma (fun c hc other hother => ?_) d hlower
      exact hproperty.2 c hc other (.inr hother)

theorem head?_flatMap_titleWord {words : List (List Char)}
    (hcases : ∀ c ∈ words.flatten, uppercase c ≠ []) :
    (words.flatMap titleWord).head? = words.flatten.head?.bind fun c => (uppercase c).head? := by
  induction words with
  | nil => rfl
  | cons word rest ih =>
    cases word with
    | nil => exact ih hcases
    | cons c others =>
      have hupper : uppercase c ≠ [] := hcases c List.mem_cons_self
      rw [List.flatMap_cons, titleWord, List.append_assoc, List.head?_append_of_ne_nil _ hupper]
      rfl

/-- A name in camel case has no marks of ASCII in it, whatever the text was. -/
theorem endsWord_of_mem_upperCamelCase :
    ∀ d ∈ (upperCamelCase text).toList, endsWord d = false :=
  forall_mem_upperCamelCase (by decide) fun _ _ hc _ hd => endsWord_of_mem_case hc hd

/-- A name in snake case has no marks of ASCII in it but `_`. -/
theorem endsWord_of_mem_snakeCase : ∀ d ∈ (snakeCase text).toList, endsWord d = false := by
  have hseparator : ∀ c ∈ ['_'], endsWord c = false := List.forall_mem_singleton.2 (by decide)
  rw [snakeCase, String.toList_ofList]
  refine forall_mem_intercalate hseparator ?_
  rw [List.forall_mem_map]
  intro word hword
  refine forall_mem_lowerWord (by decide) fun c hc d hd => ?_
  exact endsWord_of_mem_case (mem_of_mem_words hword hc).2 (.inr hd)

/-- The text has no marks of ASCII in it but `_` and `$`, and no blank of ASCII. -/
def IsPlain (text : String) : Prop :=
  ∀ c ∈ text.toList, endsWord c = false

instance (text : String) : Decidable (IsPlain text) :=
  List.decidableBAll (fun c => endsWord c = false) text.toList

theorem isPlain_snakeCase (text : String) : IsPlain (snakeCase text) :=
  endsWord_of_mem_snakeCase

theorem IsPlain.append {left right : String} (hleft : IsPlain left) (hright : IsPlain right) :
    IsPlain (left ++ right) := by
  rw [IsPlain, String.toList_append, List.forall_mem_append]
  exact ⟨hleft, hright⟩

theorem isDigit_of_mem_toString {n : Nat} {c : Char} (hc : c ∈ (toString n).toList) :
    c.isDigit = true := by
  rw [Nat.toString_eq_repr, Nat.toList_repr] at hc
  exact Nat.isDigit_of_mem_toDigits (by decide) (by decide) hc

theorem isAlphanumeric_of_isDigit {c : Char} (hdigit : c.isDigit = true) :
    isAlphanumeric c = true := by
  rw [isAlphanumeric, isNumeric, hdigit, Bool.true_or, Bool.or_true]

theorem isPlain_toString (n : Nat) : IsPlain (toString n) := fun _ hc =>
  endsWord_of_isAlphanumeric (isAlphanumeric_of_isDigit (isDigit_of_mem_toString hc))

/-- The first letter or numeral of a text is a letter. -/
def OpensWithLetter (text : String) : Prop :=
  ∃ c, (text.toList.filter isAlphanumeric).head? = some c ∧ isAlphabetic c = true

end Names

end ClassDiagram.Text
