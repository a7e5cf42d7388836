import ClassDiagram.Proofs.Text.Words

/-!
# Tokens between separators

The spellings of tokens may stand between any blanks and comments, and the tokens come out again. A
separator ends every word, so the longest word that can be read is the spelling itself, and what a
comment says does not matter.
-/

namespace ClassDiagram.Notation

open Text

/-! ## Separators -/

/-- A blank, or a comment from `#` to the end of its line. -/
inductive Gap where
  | blank (c : Char) (hblank : isBlank c = true)
  | comment (text : List Char) (hline : '\n' ∉ text)

def Gap.text : Gap → List Char
  | .blank c _ => [c]
  | .comment text _ => '#' :: (text ++ ['\n'])

/-- Blanks and comments, of which there is at least one. -/
structure Separator where
  first : Gap
  others : List Gap

def Separator.text (separator : Separator) : List Char :=
  separator.first.text ++ separator.others.flatMap Gap.text

/-- The spellings of tokens, with a separator behind each but the last. -/
def separated (separators : Nat → Separator) : List Token → List Char
  | [] => []
  | [last] => last.spelling
  | token :: next :: others =>
    token.spelling ++ ((separators 0).text ++
      separated (fun place => separators (place + 1)) (next :: others))

/-- A comment is skipped up to the end of its line. -/
theorem splitBlank_comment {text rest : List Char} (hline : '\n' ∉ text) :
    splitBlank true (text ++ '\n' :: rest) =
      (text ++ '\n' :: (splitBlank false rest).1, (splitBlank false rest).2) := by
  induction text with
  | nil => rfl
  | cons c more ih =>
    rw [List.mem_cons, not_or] at hline
    have hgoes : (c != '\n') = true := bne_iff_ne.2 (Ne.symm hline.1)
    simp only [List.cons_append, splitBlank, hgoes, ih hline.2, if_true]

theorem Scans.gap (gap : Gap) {rest : List Char} {tokens : List Token} (hrest : Scans rest tokens) :
    Scans (gap.text ++ rest) tokens := by
  cases gap with
  | blank c hblank => exact hrest.blank hblank
  | comment text hline =>
    apply hrest.skip
    have hskipped := @splitBlank_comment text rest hline
    simp [Gap.text, splitBlank, hskipped]

theorem Scans.gaps (gaps : List Gap) {rest : List Char} {tokens : List Token}
    (hrest : Scans rest tokens) : Scans (gaps.flatMap Gap.text ++ rest) tokens := by
  induction gaps with
  | nil => exact hrest
  | cons gap others ih =>
    rw [List.flatMap_cons, List.append_assoc]
    exact ih.gap gap

theorem Scans.separator (separator : Separator) {rest : List Char} {tokens : List Token}
    (hrest : Scans rest tokens) : Scans (separator.text ++ rest) tokens := by
  rw [Separator.text, List.append_assoc]
  exact (hrest.gaps separator.others).gap separator.first

/-! ## Tokens -/

/-- The token is an identifier, a number of 64 bits with a sign, or a mark. -/
def Token.IsReadable : Token → Prop
  | .identifier name => isIdentifier name.toList = true
  | .number value => value ≤ maxNumber
  | _ => True

/-- What follows ends the token in front of it, whichever that is. -/
def EndsToken (rest : List Char) : Prop :=
  Breaks rest ∧ rest.head? ≠ some '.'

theorem Gap.exists_first (gap : Gap) : ∃ c more, gap.text = c :: more ∧
    continuesIdentifier c = false ∧ c ≠ '.' := by
  cases gap with
  | blank c hblank =>
    refine ⟨c, [], rfl, continuesIdentifier_of_isBlank hblank, ?_⟩
    rintro rfl
    exact absurd hblank (by decide)
  | comment text hline =>
    exact ⟨'#', _, rfl, continuesIdentifier_of_endsWord (by decide), by decide⟩

theorem endsToken_separator (separator : Separator) (rest : List Char) :
    EndsToken (separator.text ++ rest) := by
  obtain ⟨c, more, hfirst, hstop, hdot⟩ := separator.first.exists_first
  rw [Separator.text, hfirst]
  exact ⟨breaks_cons_iff.2 hstop, fun heq => hdot (Option.some.inj heq)⟩

/-- The digits of a number write it. -/
theorem numberValue_toString (value : Nat) : numberValue (toString value).toList = value := by
  rw [Nat.toString_eq_repr, Nat.toList_repr]
  exact Nat.ofDigitChars_ten_toDigits

theorem Scans.numeral {value : Nat} (hbound : value ≤ maxNumber) {rest : List Char}
    {tokens : List Token} (hbreaks : Breaks rest) (hrest : Scans rest tokens) :
    Scans ((toString value).toList ++ rest) (.number value :: tokens) := by
  have hvalue := numberValue_toString value
  have hdigits : ∀ d ∈ (toString value).toList, d.isDigit = true := fun _ => isDigit_of_mem_toString
  cases htext : (toString value).toList with
  | nil =>
    rw [Nat.toString_eq_repr, Nat.toList_repr] at htext
    exact absurd htext Nat.toDigits_ne_nil
  | cons c more =>
    rw [htext] at hvalue hdigits
    rw [← hvalue] at hbound
    have hscans := Scans.number hdigits hbound hbreaks hrest
    rwa [hvalue] at hscans

/-- In front of what ends it a token is read from its spelling. -/
theorem Scans.spelling {token : Token} (htoken : token.IsReadable) {rest : List Char}
    {tokens : List Token} (hends : EndsToken rest) (hrest : Scans rest tokens) :
    Scans (token.spelling ++ rest) (token :: tokens) := by
  cases token with
  | identifier name =>
    have hscans := hrest.identifier htoken hends.1
    rwa [String.ofList_toList] at hscans
  | number value => exact hrest.numeral htoken hends.1
  | dot => exact hrest.dot hends.2
  | dash => exact hrest.dash
  | dotDot => exact hrest.dotDot
  | _ => exact hrest.mark rfl

theorem scans_separated (separators : Nat → Separator) {found : List Token}
    (hfound : ∀ token ∈ found, token.IsReadable) : Scans (separated separators found) found := by
  induction found generalizing separators with
  | nil => exact scans_nil
  | cons token others ih =>
    rw [List.forall_mem_cons] at hfound
    cases others with
    | nil =>
      have hends : EndsToken [] := ⟨breaks_nil, nofun⟩
      have hscans := Scans.spelling hfound.1 hends scans_nil
      rwa [List.append_nil] at hscans
    | cons next more =>
      have hmore := ih (fun place => separators (place + 1)) hfound.2
      rw [separated]
      apply Scans.spelling hfound.1 (endsToken_separator _ _)
      exact hmore.separator (separators 0)

/-- Whatever blanks and comments stand between the spellings of tokens, the tokens are read from the
text, and nothing else. -/
theorem tokens_separated (separators : Nat → Separator) {found : List Token}
    (hfound : ∀ token ∈ found, token.IsReadable) :
    tokens (String.ofList (separated separators found)) = .ok found := by
  rw [tokens, lexemes, String.toList_ofList]
  exact scans_separated separators hfound 1

/-- Tokens of which most would be read as others without what stands between them. -/
def adjoiningTokens : List Token :=
  [.identifier "größe", .identifier "m2", .number maxNumber, .dot, .dotDot]

/-- A comment and a tabulator first, then no-break spaces. -/
def remarkSeparators : Nat → Separator
  | 0 => { first := .comment "# 1..9".toList (by decide), others := [.blank '\t' (by decide)] }
  | _ => { first := .blank '\u00a0' (by decide), others := [] }

/-- The words of the comment and its dots are no tokens. -/
theorem tokens_separated_remarks :
    (∀ token ∈ adjoiningTokens, token.IsReadable) ∧
      tokens "größe## 1..9\n\tm2\u00a09223372036854775807\u00a0.\u00a0.." =
        .ok adjoiningTokens := by
  have hreadable : ∀ token ∈ adjoiningTokens, token.IsReadable := by
    have hnames : isIdentifier "größe".toList = true ∧ isIdentifier "m2".toList = true := by
      decide +kernel
    rw [adjoiningTokens]
    simp only [List.forall_mem_cons, Token.IsReadable]
    exact ⟨hnames.1, hnames.2, Nat.le_refl _, trivial, trivial, List.forall_mem_nil _⟩
  have htext : separated remarkSeparators adjoiningTokens =
      "größe## 1..9\n\tm2\u00a09223372036854775807\u00a0.\u00a0..".toList := by
    decide +kernel
  have hread := tokens_separated remarkSeparators hreadable
  rw [htext, String.ofList_toList] at hread
  exact ⟨hreadable, hread⟩

end ClassDiagram.Notation
