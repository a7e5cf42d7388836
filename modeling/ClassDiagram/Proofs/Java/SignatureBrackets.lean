import Mathlib.Algebra.Order.BigOperators.Group.List
import Mathlib.Algebra.Order.Group.Int
import Mathlib.Algebra.Ring.Int.Defs
import ClassDiagram.Proofs.Java.Writing
import ClassDiagram.Proofs.Schema.TypeWords

/-!
# Brackets of types in signatures

The brackets of a Java type that is made for a type token are balanced, whatever the words in it
stand for, exactly if the token is a word or a word with types in brackets behind it. If an argument
list is not the end of the type, as in an array of lists, its closing bracket is kept as a part of
the last argument, and another one is put behind that.
-/

namespace ClassDiagram

open Text Notation

/-! ## Balanced brackets -/

/-- Nowhere have more brackets been closed than opened, and in the end all are closed. -/
structure IsBalanced (text : List Char) : Prop where
  opened : ∀ front, front <+: text → front.count '>' ≤ front.count '<'
  closed : text.count '>' = text.count '<'

/-- No angle bracket stands in the text. -/
structure IsUnbracketed (text : List Char) : Prop where
  opening : '<' ∉ text
  closing : '>' ∉ text

theorem IsUnbracketed.isBalanced {text : List Char} (hfree : IsUnbracketed text) :
    IsBalanced text where
  opened front hfront := by
    rw [List.count_eq_zero.2 fun hmem => hfree.closing (hfront.mem hmem)]
    exact Nat.zero_le _
  closed := by rw [List.count_eq_zero.2 hfree.closing, List.count_eq_zero.2 hfree.opening]

theorem isUnbracketed_of_continues {text : List Char}
    (hword : ∀ c ∈ text, continuesIdentifier c = true) : IsUnbracketed text where
  opening hmem := ne_of_continues (hword _ hmem) (by decide) rfl
  closing hmem := ne_of_continues (hword _ hmem) (by decide) rfl

namespace IsBalanced

variable {left right text separator : List Char}

theorem append (hleft : IsBalanced left) (hright : IsBalanced right) :
    IsBalanced (left ++ right) where
  opened front hfront := by
    rcases List.prefix_or_prefix_of_prefix hfront (List.prefix_append left right) with
      hbefore | ⟨more, rfl⟩
    · exact hleft.opened front hbefore
    · have hmore := hright.opened more ((List.prefix_append_right_inj left).1 hfront)
      have hall := hleft.closed
      rw [List.count_append, List.count_append]
      omega
  closed := by rw [List.count_append, List.count_append, hleft.closed, hright.closed]

theorem enclosed (htext : IsBalanced text) : IsBalanced ('<' :: (text ++ ['>'])) where
  opened front hfront := by
    rcases List.prefix_cons_iff.1 hfront with rfl | ⟨more, rfl, hmore⟩
    · exact Nat.le_refl 0
    · rcases List.prefix_concat_iff.1 hmore with rfl | hmore
      · have hall := htext.closed
        simp [hall]
      · have hopened := htext.opened more hmore
        simp
        omega
  closed := by
    have hall := htext.closed
    simp [hall]

theorem intercalate {parts : List (List Char)} (hseparator : IsBalanced separator)
    (hparts : ∀ part ∈ parts, IsBalanced part) : IsBalanced (separator.intercalate parts) := by
  induction parts with
  | nil => exact IsUnbracketed.isBalanced ⟨List.not_mem_nil, List.not_mem_nil⟩
  | cons first others ih =>
    rw [List.forall_mem_cons] at hparts
    cases others with
    | nil => simpa [List.intercalate] using hparts.1
    | cons second others =>
      rw [List.intercalate_cons_cons]
      exact (hparts.1.append hseparator).append (ih hparts.2)

end IsBalanced

/-! ## Excess of closing brackets -/

/-- How many more brackets are closed than opened. -/
def excess (text : List Char) : Int :=
  text.count '>' - text.count '<'

section Excess

variable {text : List Char}

theorem excess_append (left right : List Char) :
    excess (left ++ right) = excess left + excess right := by
  simp only [excess, List.count_append, Int.natCast_add]
  omega

theorem excess_cons (c : Char) (rest : List Char) :
    excess (c :: rest) = excess [c] + excess rest := by
  rw [← excess_append, List.singleton_append]

theorem IsBalanced.excess_eq (hbalanced : IsBalanced text) : excess text = 0 := by
  rw [excess, hbalanced.closed, Int.sub_self]

theorem excess_of_not_opening (hopening : '<' ∉ text) : excess text = text.count '>' := by
  rw [excess, List.count_eq_zero.2 hopening, Int.natCast_zero, Int.sub_zero]

theorem excess_of_isBlank (hblank : ∀ c ∈ text, isBlank c = true) : excess text = 0 := by
  apply IsBalanced.excess_eq
  apply IsUnbracketed.isBalanced
  constructor <;> exact fun hmem => absurd (hblank _ hmem) (by decide)

theorem excess_trim (text : List Char) : excess (trim text) = excess text := by
  obtain ⟨front, back, heq, hfront, hback⟩ := exists_eq_append_trim text
  calc excess (trim text)
    _ = excess front + excess (trim text) + excess back := by
      rw [excess_of_isBlank hfront, excess_of_isBlank hback, Int.zero_add, Int.add_zero]
    _ = excess (front ++ trim text ++ back) := by rw [excess_append, excess_append]
    _ = excess text := by rw [← heq]

theorem excess_intercalate {separator : List Char} (hseparator : excess separator = 0)
    (parts : List (List Char)) :
    excess (separator.intercalate parts) = (parts.map excess).sum := by
  induction parts with
  | nil => rfl
  | cons first others ih =>
    cases others with
    | nil => simp [List.intercalate]
    | cons second others =>
      rw [List.intercalate_cons_cons, excess_append, excess_append, hseparator, ih, Int.add_zero]
      rfl

/-- Commas are no brackets, so the parts have all brackets of the text. -/
theorem sum_excess_splitParameters (depth : Int) (current text : List Char) :
    ((splitParameters depth current text).map excess).sum = excess current + excess text := by
  induction text generalizing depth current with
  | nil => simp [splitParameters, excess]
  | cons c rest ih =>
    rw [splitParameters, excess_cons c rest]
    split_ifs with hless hgreater hcut
    · rw [ih, excess_append, Int.add_assoc]
    · rw [ih, excess_append, Int.add_assoc]
    · have hcomma : excess [c] = 0 := hcut.1 ▸ rfl
      rw [List.map_cons, List.sum_cons, ih, hcomma]
      rfl
    · rw [ih, excess_append, Int.add_assoc]

theorem dropClosing_cases (text : List Char) :
    text = dropClosing text ++ ['>'] ∨ dropClosing text = text := by
  rw [dropClosing]
  split_ifs with hlast
  · exact .inl (List.dropLast_append_getLast? '>' hlast).symm
  · exact .inr rfl

/-- What is accepted as a type has all brackets closed. -/
theorem excess_of_isBracketed {depth : Nat} (hbracketed : isBracketed depth text = true) :
    excess text = depth := by
  induction text generalizing depth with
  | nil =>
    rw [isBracketed, beq_iff_eq] at hbracketed
    rw [hbracketed]
    rfl
  | cons c rest ih =>
    simp only [isBracketed] at hbracketed
    rw [excess_cons]
    split_ifs at hbracketed with hless hgreater
    · rw [hless, ih hbracketed]
      simp [excess]
    · cases depth with
      | zero => cases hbracketed
      | succ outer =>
        rw [hgreater, ih hbracketed]
        simp [excess]
        omega
    · rw [Bool.and_eq_true] at hbracketed
      rw [ih hbracketed.2]
      simp [excess, hless, hgreater]

end Excess

/-! ## Nested types -/

/-- A word without brackets, or such a word with arguments in brackets, of which the closing one is
the end. Each argument is nested again. -/
inductive IsNested : List Char → Prop
  | word {token : List Char} (hfree : IsUnbracketed token) : IsNested token
  | generic {token outer inner : List Char}
      (htoken : trim token = outer ++ '<' :: (inner ++ ['>'])) (houter : IsUnbracketed outer)
      (harguments : ∀ argument ∈ splitParameters 0 [] inner, IsNested argument) : IsNested token

theorem isUnbracketed_trim_iff {text : List Char} :
    IsUnbracketed (trim text) ↔ IsUnbracketed text := by
  have hopening := @mem_trim_iff '<' text (by decide)
  have hclosing := @mem_trim_iff '>' text (by decide)
  exact ⟨fun hfree => ⟨mt hopening.2 hfree.opening, mt hclosing.2 hfree.closing⟩,
    fun hfree => ⟨mt hopening.1 hfree.opening, mt hclosing.1 hfree.closing⟩⟩

namespace Backend

variable (backend : Backend)

/-- A word with a bracket in it stands for no type of the vocabulary. -/
theorem isUnbracketed_of_typing? {word : String} {typing : Typing}
    (htyping : typing? word = some typing) :
    IsUnbracketed word.toList ∧ IsUnbracketed typing.javaType.toList := by
  have hnames : ((primitiveTypings ++ referenceTypings).all fun entry =>
      entry.1.toList.all continuesIdentifier && entry.2.javaType.toList.all continuesIdentifier) =
        true := by
    decide +kernel
  have hentry := List.all_eq_true.1 hnames _ (entry_of_typing? htyping)
  rw [Bool.and_eq_true, List.all_eq_true, List.all_eq_true] at hentry
  have hlower := isUnbracketed_of_continues hentry.1
  have htrimmed : IsUnbracketed (trimmed word).toList := by
    constructor
    · exact mt (mem_lowercased (continuesIdentifier_of_endsWord (by decide))) hlower.opening
    · exact mt (mem_lowercased (continuesIdentifier_of_endsWord (by decide))) hlower.closing
  rw [trimmed, String.toList_ofList, isUnbracketed_trim_iff] at htrimmed
  exact ⟨htrimmed, isUnbracketed_of_continues hentry.2⟩

/-- A word stays as it is, or it becomes a name without brackets. -/
theorem wordType_cases (word : String) :
    (backend.wordType word).text = word ∨
      IsUnbracketed (backend.wordType word).text.toList ∧
        (IsUnbracketed word.toList ∨ ∃ entity, backend.entity? (tableName word) = some entity) := by
  rw [wordType]
  split_ifs with hvoid henum
  · exact .inl rfl
  · exact .inl rfl
  · split
    · rename_i typing htyping
      obtain ⟨hword, htype⟩ := isUnbracketed_of_typing? htyping
      exact .inr ⟨htype, .inl hword⟩
    · split
      · rename_i entity hentity
        split_ifs
        · exact .inl rfl
        · refine .inr ⟨?_, .inr ⟨entity, hentity⟩⟩
          have hends := @endsWord_of_mem_upperCamelCase entity.table.name
          constructor <;> exact fun hmem => absurd (hends _ hmem) (by decide)
      · exact .inl rfl

theorem isBalanced_wordType {word : String} (hfree : IsUnbracketed word.toList) :
    IsBalanced (backend.wordType word).text.toList := by
  rcases backend.wordType_cases word with hsame | ⟨hresult, -⟩
  · rw [hsame]
    exact hfree.isBalanced
  · exact hresult.isBalanced

theorem toList_text_applied (outer : String) (arguments : List WrittenType) :
    (applied outer arguments).text.toList =
      outer.toList ++ '<' :: ([',', ' '].intercalate
        (arguments.map fun argument => argument.text.toList) ++ ['>']) := by
  simp [applied, String.toList_intercalate, List.map_map, Function.comp_def]

/-- In a nested type every bracket is closed by the one that closes it in the token. -/
theorem isBalanced_signatureType {token : List Char} (hnested : IsNested token) :
    IsBalanced (backend.signatureType token).text.toList := by
  induction hnested with
  | @word token hfree =>
    have htrim := isUnbracketed_trim_iff.2 hfree
    rw [signatureType_of_word _ (splitFirst_eq_none_iff.2 htrim.opening)]
    apply isBalanced_wordType
    rwa [String.toList_ofList]
  | @generic token outer inner htoken houter _ ih =>
    have hsplit : splitFirst '<' (trim token) = some (outer, inner ++ ['>']) := by
      rw [htoken, splitFirst_append_cons houter.opening]
    have hclosing : dropClosing (inner ++ ['>']) = inner := by
      rw [dropClosing, if_pos List.getLast?_concat, List.dropLast_concat]
    rw [signatureType_of_arguments _ hsplit, hclosing, toList_text_applied, String.toList_ofList]
    have houter := (isUnbracketed_trim_iff.2 houter).isBalanced
    apply houter.append
    apply IsBalanced.enclosed
    apply IsBalanced.intercalate (IsUnbracketed.isBalanced ⟨by decide, by decide⟩)
    rw [List.map_map, List.forall_mem_map]
    exact ih

/-! ## Brackets that are lost and gained -/

theorem excess_signatureType_of_arguments {token before after : List Char}
    (hsplit : splitFirst '<' (trim token) = some (before, after)) :
    excess (backend.signatureType token).text.toList = excess before +
      ((splitParameters 0 [] (dropClosing after)).map fun argument =>
        excess (backend.signatureType argument).text.toList).sum := by
  have hseparator : excess [',', ' '] = 0 := by decide
  have hopening : excess ['<'] = -1 := by decide
  have hclosing : excess ['>'] = 1 := by decide
  rw [backend.signatureType_of_arguments hsplit, toList_text_applied, String.toList_ofList,
    excess_append, excess_trim, excess_cons, excess_append, excess_intercalate hseparator, hopening,
    hclosing, List.map_map, List.map_map]
  simp only [Function.comp_def]
  omega

end Backend

/-- The brackets of a token are those of its arguments, if a closing one is the end of it. -/
theorem excess_eq_of_closing {token before after : List Char}
    (hsplit : splitFirst '<' (trim token) = some (before, after))
    (hclosing : after = dropClosing after ++ ['>']) :
    excess token =
      excess before + ((splitParameters 0 [] (dropClosing after)).map excess).sum := by
  have hafter := congrArg excess hclosing
  have hends : excess ['<'] = -1 ∧ excess ['>'] = 1 ∧ excess [] = 0 := by decide
  rw [excess_append] at hafter
  rw [sum_excess_splitParameters, ← excess_trim token, splitFirst_eq_some hsplit, excess_append,
    excess_cons]
  omega

/-- Otherwise the closing bracket is one of those of the arguments. -/
theorem excess_eq_of_not_closing {token before after : List Char}
    (hsplit : splitFirst '<' (trim token) = some (before, after))
    (hclosing : dropClosing after = after) :
    excess token + 1 =
      excess before + ((splitParameters 0 [] (dropClosing after)).map excess).sum := by
  have hends : excess ['<'] = -1 ∧ excess [] = 0 := by decide
  rw [sum_excess_splitParameters, ← excess_trim token, splitFirst_eq_some hsplit, excess_append,
    excess_cons, hclosing]
  omega

namespace Backend

section Bare

variable {backend : Backend} (hbare : ∀ table, backend.entity? table = none)

include hbare

theorem excess_wordType (word : String) :
    excess (backend.wordType word).text.toList = excess word.toList := by
  rcases backend.wordType_cases word with hsame | ⟨hresult, hword | ⟨entity, hentity⟩⟩
  · rw [hsame]
  · rw [hresult.isBalanced.excess_eq, hword.isBalanced.excess_eq]
  · cases (hbare _).symm.trans hentity

/-- No closing bracket of a token is lost. -/
theorem excess_le_signatureType (token : List Char) :
    excess token ≤ excess (backend.signatureType token).text.toList := by
  induction token using signatureType.induct backend with
  | case1 token hsplit =>
    rw [signatureType_of_word _ hsplit, excess_wordType hbare, String.toList_ofList, excess_trim]
  | case2 token before after hsplit ih =>
    have harguments := List.sum_le_sum ih
    rw [backend.excess_signatureType_of_arguments hsplit]
    rcases dropClosing_cases after with hclosing | hclosing
    · rw [excess_eq_of_closing hsplit hclosing]
      omega
    · have htoken := excess_eq_of_not_closing hsplit hclosing
      omega

/-- If no closing bracket is gained, there are never more opening ones, and a token that has as many
of both is nested. -/
theorem isNested_of_excess_eq {token : List Char}
    (hexcess : excess (backend.signatureType token).text.toList = excess token) :
    0 ≤ excess token ∧ (excess token = 0 → IsNested token) := by
  induction token using signatureType.induct backend with
  | case1 token hsplit =>
    have hopening : '<' ∉ token :=
      mt (mem_trim_iff (by decide)).2 (splitFirst_eq_none_iff.1 hsplit)
    rw [excess_of_not_opening hopening]
    refine ⟨Int.natCast_nonneg _, fun hnone => .word ⟨hopening, ?_⟩⟩
    exact List.count_eq_zero.1 (Int.ofNat_inj.1 hnone)
  | case2 token before after hsplit ih =>
    have hopening := not_mem_of_splitFirst hsplit
    have hbefore := excess_of_not_opening hopening
    have hle := fun argument (_ : argument ∈ splitParameters 0 [] (dropClosing after)) =>
      excess_le_signatureType hbare argument
    have hsum := List.sum_le_sum hle
    rw [backend.excess_signatureType_of_arguments hsplit] at hexcess
    rcases dropClosing_cases after with hclosing | hclosing
    · have htoken := excess_eq_of_closing hsplit hclosing
      -- the sums are equal, so no argument gains a bracket
      have hsame : ∀ argument ∈ splitParameters 0 [] (dropClosing after),
          excess (backend.signatureType argument).text.toList = excess argument := by
        intro argument hmem
        by_contra hne
        have hlt := List.sum_lt_sum _ _ hle
          ⟨argument, hmem, lt_of_le_of_ne (hle argument hmem) (Ne.symm hne)⟩
        omega
      have hnonneg : ∀ value ∈ (splitParameters 0 [] (dropClosing after)).map excess,
          0 ≤ value := by
        rw [List.forall_mem_map]
        exact fun argument hmem => (ih argument hmem (hsame argument hmem)).1
      have hsumNonneg := List.sum_nonneg hnonneg
      refine ⟨by omega, fun hnone =>
        @IsNested.generic token before (dropClosing after) ?_ ⟨hopening, ?_⟩ ?_⟩
      · rw [splitFirst_eq_some hsplit, ← hclosing]
      · exact List.count_eq_zero.1 (by omega)
      · intro argument hmem
        apply (ih argument hmem (hsame argument hmem)).2
        exact List.all_zero_of_le_zero_le_of_sum_eq_zero hnonneg (by omega)
          (List.mem_map_of_mem hmem)
    · have htoken := excess_eq_of_not_closing hsplit hclosing
      omega

end Bare

/-- The backend of a schema without tables. -/
def bare : Backend :=
  full Schema.empty
    { basePackage := JavaProject.defaultPackage, name := JavaProject.defaultName }

theorem entity?_bare (table : String) : bare.entity? table = none := rfl

/-- An accepted type token becomes a type with balanced brackets in every backend exactly if it is
nested. -/
theorem isBalanced_signatureType_iff {token : List Char} (htype : isTypeExpression token = true) :
    (∀ backend : Backend, IsBalanced (backend.signatureType token).text.toList) ↔
      IsNested token := by
  constructor
  · intro hbalanced
    rw [isTypeExpression, Bool.and_eq_true] at htype
    have htoken : excess token = 0 := excess_of_isBracketed htype.1
    have hexcess : excess (bare.signatureType token).text.toList = excess token := by
      rw [(hbalanced bare).excess_eq, htoken]
    exact (isNested_of_excess_eq entity?_bare hexcess).2 htoken
  · exact fun hnested backend => backend.isBalanced_signatureType hnested

/-- Blanks around the arguments do no harm. -/
theorem isBalanced_signatureType_iff_map :
    isTypeExpression "Map<String, List<Date> >".toList = true ∧
      IsNested "Map<String, List<Date> >".toList ∧
      ∀ backend : Backend,
        IsBalanced (backend.signatureType "Map<String, List<Date> >".toList).text.toList := by
  have htype : isTypeExpression "Map<String, List<Date> >".toList = true := by decide +kernel
  have hdate : ∀ argument ∈ splitParameters 0 [] "Date".toList, IsNested argument := by
    have hparts : splitParameters 0 [] "Date".toList = ["Date".toList] := by decide
    rw [hparts, List.forall_mem_singleton]
    exact .word ⟨by decide, by decide⟩
  have hlist : IsNested " List<Date> ".toList :=
    @IsNested.generic _ "List".toList "Date".toList (by decide) ⟨by decide, by decide⟩ hdate
  have hnested : IsNested "Map<String, List<Date> >".toList := by
    have hparts : splitParameters 0 [] "String, List<Date> ".toList =
        ["String".toList, " List<Date> ".toList] := by
      decide
    refine @IsNested.generic _ "Map".toList "String, List<Date> ".toList (by decide)
      ⟨by decide, by decide⟩ ?_
    rw [hparts, List.forall_mem_cons, List.forall_mem_singleton]
    exact ⟨.word ⟨by decide, by decide⟩, hlist⟩
  exact ⟨htype, hnested, (isBalanced_signatureType_iff htype).2 hnested⟩

/-- An array of lists is accepted as a type, and its last bracket closes nothing. -/
theorem exists_unbalanced_signatureType :
    isTypeExpression "List<Long>[]".toList = true ∧
      (bare.signatureType "List<Long>[]".toList).text = "List<Long>[]>" ∧
      ¬ IsBalanced (bare.signatureType "List<Long>[]".toList).text.toList := by
  have hresult : (bare.signatureType "List<Long>[]".toList).text = "List<Long>[]>" := by
    decide +kernel
  refine ⟨by decide +kernel, hresult, fun hbalanced => ?_⟩
  rw [hresult] at hbalanced
  exact absurd hbalanced.closed (by decide)

end Backend

end ClassDiagram
