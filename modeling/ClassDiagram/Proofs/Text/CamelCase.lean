import ClassDiagram.Proofs.Text.SettledCases

/-!
# Names in camel case

The first letter of a text in upper case stays as it is in upper case. In camel case the words of
two names that are joined by `_` are the words of the one and then those of the other. Only letters
and numerals are left, provided that these remain such in another case.
-/

namespace ClassDiagram.Text

/-! ## Capitals -/

theorem uppercase_ne_nil (c : Char) : uppercase c ≠ [] := by
  have hsequences : (raisingSequences.all fun entry => !entry.2.isEmpty) = true := by decide
  rw [uppercase]
  split_ifs
  · exact List.cons_ne_nil _ _
  · split
    · rename_i entry hentry
      have hentries := List.all_eq_true.1 hsequences entry (List.mem_of_find?_eq_some hentry)
      simpa using hentries
    · split <;> exact List.cons_ne_nil _ _

theorem toList_capitalized {text : String} {c : Char} {rest : List Char}
    (htext : text.toList = c :: rest) : (capitalized text).toList = uppercase c ++ rest := by
  rw [capitalized, htext, String.toList_ofList]

theorem capitalized_append {left : String} (hleft : left ≠ "") (right : String) :
    capitalized (left ++ right) = capitalized left ++ right := by
  obtain ⟨c, rest, htext⟩ := List.exists_cons_of_ne_nil (mt String.toList_eq_nil_iff.1 hleft)
  have happend : (left ++ right).toList = c :: (rest ++ right.toList) := by
    rw [String.toList_append, htext, List.cons_append]
  apply String.toList_inj.1
  rw [toList_capitalized happend, String.toList_append, toList_capitalized htext, List.append_assoc]

/-- A text with a capital keeps it. -/
theorem capitalized_capitalized (text : String) :
    capitalized (capitalized text) = capitalized text := by
  cases htext : text.toList with
  | nil =>
    obtain rfl : text = "" := String.toList_eq_nil_iff.1 htext
    rfl
  | cons c rest =>
    obtain ⟨d, others, hupper⟩ := List.exists_cons_of_ne_nil (uppercase_ne_nil c)
    have hsettled : uppercase d = [d] :=
      uppercase_of_mem_uppercase (hupper ▸ List.mem_cons_self : d ∈ uppercase c)
    have hfirst : (capitalized text).toList = d :: (others ++ rest) := by
      rw [toList_capitalized htext, hupper, List.cons_append]
    apply String.toList_inj.1
    rw [toList_capitalized hfirst, hsettled, hfirst, List.singleton_append]

/-- Before a capital a name can be left out. -/
theorem capitalized_append_capitalized (left right : String) :
    capitalized (left ++ capitalized right) = capitalized left ++ capitalized right := by
  by_cases hleft : left = ""
  · rw [hleft, String.empty_append, capitalized_capitalized]
    exact String.empty_append.symm
  · exact capitalized_append hleft _

theorem isLower_of_mem_uppercase {c d : Char} (hd : d ∈ uppercase c) : d.isLower = false := by
  have hsmall : ∀ code ∈ List.range' 97 26, uppercase (Char.ofNat code) ≠ [Char.ofNat code] := by
    decide
  rw [← Bool.not_eq_true, ← Char.ofNat_toNat d]
  intro hlower
  have hbounds := isLower_ofNat hlower
  apply hsmall d.toNat (List.mem_range'_1.2 (by omega))
  rw [Char.ofNat_toNat, uppercase_of_mem_uppercase hd]

/-! ## Words -/

/-- Words are not empty. -/
theorem ne_nil_of_mem_wordsFrom {mode : WordMode} {word text : List Char}
    (hmode : mode ≠ .uncased → word ≠ []) : ∀ other ∈ wordsFrom mode word text, other ≠ [] := by
  have hfinished : ∀ word : List Char, ∀ other ∈ finishedWord word, other ≠ [] := by
    intro word
    cases word <;> simp [finishedWord]
  have hfresh : WordMode.uncased ≠ .uncased → ([] : List Char) ≠ [] := fun hne => absurd rfl hne
  induction text generalizing mode word with
  | nil => exact hfinished word
  | cons c rest ih =>
    rw [wordsFrom]
    split
    · split
      · rw [List.forall_mem_cons]
        exact ⟨by simp, ih hfresh⟩
      · rename_i hbreak
        rw [List.forall_mem_cons]
        refine ⟨hmode ?_, ih fun _ => List.cons_ne_nil _ _⟩
        -- a word that ends before its last capital has others in it
        rintro rfl
        unfold wordBreak at hbreak
        split at hbreak
        · cases hbreak
        · split_ifs at hbreak with _ hupper
          cases hupper.1
      · exact ih fun _ => by simp
    · rw [List.forall_mem_append]
      exact ⟨hfinished word, ih hfresh⟩

theorem wordsFrom_append_underscore (mode : WordMode) (word text rest : List Char) :
    wordsFrom mode word (text ++ '_' :: rest) = wordsFrom mode word text ++ words rest := by
  obtain ⟨hmark, hcased⟩ :
      isAlphanumeric '_' = false ∧ isLowercase '_' = false ∧ isUppercase '_' = false := by
    decide +kernel
  induction text generalizing mode word with
  | nil =>
    simp only [List.nil_append, wordsFrom, hmark, Bool.false_eq_true, if_false, words]
  | cons c others ih =>
    have hbreak :
        wordBreak mode c (others ++ '_' :: rest).head? = wordBreak mode c others.head? := by
      cases others with
      | nil => simp [wordBreak, hcased]
      | cons => rfl
    rw [List.cons_append, wordsFrom, wordsFrom, hbreak]
    split
    · split
      · rw [ih, List.cons_append]
      · rw [ih, List.cons_append]
      · rw [ih]
    · rw [ih, List.append_assoc]

theorem words_append_underscore (left right : String) :
    words (left ++ "_" ++ right).toList = words left.toList ++ words right.toList := by
  have htext : (left ++ "_" ++ right).toList = left.toList ++ '_' :: right.toList := by
    simp
  rw [htext, words, wordsFrom_append_underscore]
  rfl

theorem lowerCamelCase_append {left : String} (hleft : words left.toList ≠ []) (right : String) :
    lowerCamelCase (left ++ "_" ++ right) = lowerCamelCase left ++ upperCamelCase right := by
  obtain ⟨first, others, hwords⟩ := List.exists_cons_of_ne_nil hleft
  apply String.toList_inj.1
  rw [lowerCamelCase, words_append_underscore, hwords, String.toList_append, lowerCamelCase, hwords,
    upperCamelCase]
  simp

theorem words_ne_nil {text : String} {c : Char} (hmem : c ∈ text.toList)
    (hc : isAlphanumeric c = true) : words text.toList ≠ [] := by
  intro hnone
  have hflat : c ∈ (words text.toList).flatten := by
    rw [flatten_words]
    exact List.mem_filter.2 ⟨hmem, hc⟩
  rw [hnone] at hflat
  cases hflat

/-- A name in camel case has a capital or a numeral in it. -/
theorem exists_mem_upperCamelCase {text : String} (hwords : words text.toList ≠ []) :
    ∃ c ∈ (upperCamelCase text).toList, c.isLower = false := by
  obtain ⟨word, others, htext⟩ := List.exists_cons_of_ne_nil hwords
  have hword : word ≠ [] :=
    ne_nil_of_mem_wordsFrom (fun hne => absurd rfl hne) word (htext ▸ List.mem_cons_self)
  obtain ⟨c, rest, rfl⟩ := List.exists_cons_of_ne_nil hword
  obtain ⟨d, more, hupper⟩ := List.exists_cons_of_ne_nil (uppercase_ne_nil c)
  have hd : d ∈ uppercase c := hupper ▸ List.mem_cons_self
  refine ⟨d, ?_, isLower_of_mem_uppercase hd⟩
  rw [upperCamelCase, String.toList_ofList, htext, List.flatMap_cons, titleWord]
  exact List.mem_append_left _ (List.mem_append_left _ hd)

/-! ## Letters and numerals -/

theorem keepsLetters_of_ascii {c : Char} (hascii : c.toNat < 128) : KeepsLetters c := by
  apply HasSingleCases.keepsLetters
  rw [HasSingleCases, uppercase, lowercase, if_pos hascii, if_pos hascii]
  exact ⟨rfl, rfl⟩

/-- A name in camel case is made of letters and numerals. -/
theorem isAlphanumeric_of_mem_upperCamelCase {text : String}
    (hletters : ∀ c ∈ text.toList, KeepsLetters c) :
    ∀ d ∈ (upperCamelCase text).toList, isAlphanumeric d = true :=
  forall_mem_upperCamelCase (by decide) fun c hc => (hletters c hc).alphanumeric

/-- A name in camel case is a letter, which is no small one of ASCII, with letters and numerals. -/
theorem upperCamelCase_eq_cons {text : String} (hletters : ∀ c ∈ text.toList, KeepsLetters c)
    (hopens : OpensWithLetter text) : ∃ first rest, (upperCamelCase text).toList = first :: rest ∧
      isAlphabetic first = true ∧ first.isLower = false ∧ ∀ d ∈ rest, isAlphanumeric d = true := by
  obtain ⟨c, hhead, hletter⟩ := hopens
  have hmem : c ∈ text.toList := (List.mem_filter.1 (List.mem_of_head? hhead)).1
  obtain ⟨first, others, hupper⟩ := List.exists_cons_of_ne_nil (uppercase_ne_nil c)
  have hfirst : (upperCamelCase text).toList.head? = some first := by
    rw [upperCamelCase, String.toList_ofList, head?_flatMap_titleWord fun c _ => uppercase_ne_nil c,
      flatten_words, hhead, Option.bind_some, hupper, List.head?_cons]
  obtain ⟨rest, hrest⟩ := List.head?_eq_some_iff.1 hfirst
  have hraised : first ∈ uppercase c := hupper ▸ List.mem_cons_self
  have hall := isAlphanumeric_of_mem_upperCamelCase hletters
  rw [hrest, List.forall_mem_cons] at hall
  exact ⟨first, rest, hrest, (hletters c hmem).letter hletter first hraised,
    isLower_of_mem_uppercase hraised, hall.2⟩

/-! ## Names in lower case -/

/-- The text is in lower case. -/
def IsLowerCase (text : String) : Prop :=
  ∀ c ∈ text.toList, lowercase c = [c]

theorem IsLowerCase.append {left right : String} (hleft : IsLowerCase left)
    (hright : IsLowerCase right) : IsLowerCase (left ++ right) := by
  rw [IsLowerCase, String.toList_append, List.forall_mem_append]
  exact ⟨hleft, hright⟩

theorem isLowerCase_of_ascii {text : String}
    (htext : (text.toList.all fun c => c.toNat < 128 ∧ c.toNat ∉ List.range' 0x41 26) = true) :
    IsLowerCase text := by
  intro c hc
  obtain ⟨hascii, hcapital⟩ := of_decide_eq_true (List.all_eq_true.1 htext c hc)
  rw [lowercase, if_pos hascii, (settled_of_ascii hascii).2.2.2 hcapital]

theorem lowerWord_eq_self {word : List Char} (hword : ∀ c ∈ word, lowercase c = [c]) :
    lowerWord word = word := by
  induction word with
  | nil => rfl
  | cons c rest ih =>
    rw [List.forall_mem_cons] at hword
    cases rest with
    | nil =>
      have hsigma : lowercase 'Σ' ≠ ['Σ'] := by decide
      have hne : c ≠ 'Σ' := fun heq => hsigma (heq ▸ hword.1)
      rw [lowerWord, if_neg hne, hword.1]
    | cons second others =>
      rw [lowerWord, hword.1, ih hword.2, List.singleton_append]
      exact List.cons_ne_nil _ _

theorem isLowerCase_snakeCase (text : String) : IsLowerCase (snakeCase text) := by
  have hmarks : lowercase '_' = ['_'] ∧ lowercase 'ς' = ['ς'] := by decide
  rw [IsLowerCase, snakeCase, String.toList_ofList]
  refine forall_mem_intercalate (List.forall_mem_singleton.2 hmarks.1) ?_
  rw [List.forall_mem_map]
  intro word _
  exact forall_mem_lowerWord hmarks.2 fun c _ d hd => lowercase_of_mem_lowercase hd

/-- A letter whose capital is made of letters and numerals, with letters and numerals behind it. -/
def IsCamel (name : String) : Prop :=
  ∃ first rest, name.toList = first :: rest ∧ isAlphabetic first = true ∧
    (∀ d ∈ uppercase first, isAlphanumeric d = true) ∧ ∀ c ∈ rest, isAlphanumeric c = true

theorem IsCamel.append {name suffix : String} (hname : IsCamel name)
    (hsuffix : ∀ c ∈ suffix.toList, isAlphanumeric c = true) : IsCamel (name ++ suffix) := by
  obtain ⟨first, rest, htext, hletter, hcapital, hrest⟩ := hname
  refine ⟨first, rest ++ suffix.toList, ?_, hletter, hcapital, ?_⟩
  · rw [String.toList_append, htext, List.cons_append]
  · rw [List.forall_mem_append]
    exact ⟨hrest, hsuffix⟩

theorem IsCamel.isAlphanumeric_of_mem_capitalized {name : String} (hname : IsCamel name) :
    ∀ c ∈ (capitalized name).toList, isAlphanumeric c = true := by
  obtain ⟨first, rest, htext, -, hcapital, hrest⟩ := hname
  rw [toList_capitalized htext, List.forall_mem_append]
  exact ⟨hcapital, hrest⟩

/-- The first word of a name in lower case stays as it is in camel case. -/
theorem isCamel_lowerCamelCase {text : String} (hlower : IsLowerCase text)
    (hletters : ∀ c ∈ text.toList, KeepsLetters c) (hopens : OpensWithLetter text) :
    IsCamel (lowerCamelCase text) := by
  obtain ⟨c, hhead, hletter⟩ := hopens
  rw [← flatten_words] at hhead
  cases hwords : words text.toList with
  | nil =>
    rw [hwords] at hhead
    cases hhead
  | cons word others =>
    have hword : word ≠ [] :=
      ne_nil_of_mem_wordsFrom (fun hne => absurd rfl hne) word (hwords ▸ List.mem_cons_self)
    obtain ⟨first, rest, rfl⟩ := List.exists_cons_of_ne_nil hword
    obtain rfl : first = c := by
      simpa [hwords] using hhead
    have hmem : ∀ d ∈ first :: rest, d ∈ text.toList ∧ isAlphanumeric d = true := fun d hd =>
      mem_of_mem_words (hwords ▸ List.mem_cons_self) hd
    have hsame : lowerWord (first :: rest) = first :: rest :=
      lowerWord_eq_self fun d hd => hlower d (hmem d hd).1
    rw [List.forall_mem_cons] at hmem
    refine ⟨first, rest ++ others.flatMap titleWord, ?_, hletter, fun d hd => ?_, ?_⟩
    · rw [lowerCamelCase, hwords, String.toList_ofList, hsame, List.cons_append]
    · exact (hletters first hmem.1.1).alphanumeric hmem.1.2 d (.inl hd)
    · rw [List.forall_mem_append]
      refine ⟨fun d hd => (hmem.2 d hd).2, fun d hd => ?_⟩
      apply isAlphanumeric_of_mem_upperCamelCase hletters
      rw [upperCamelCase, String.toList_ofList, hwords, List.flatMap_cons]
      exact List.mem_append_right _ hd

end ClassDiagram.Text
