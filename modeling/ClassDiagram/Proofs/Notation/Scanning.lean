import ClassDiagram.Notation.Lexeme
import ClassDiagram.Proofs.Outcomes
import ClassDiagram.Proofs.Text.CodeSets

/-!
# Scanning

A word ends where a character stands that cannot go on a word, so the tokens of a text are known
from its pieces. A piece spells its tokens if they come out in front of every rest that does not go
on the last word of the piece; it delimits itself if they come out in front of every rest.
-/

namespace ClassDiagram.Notation

open Text

/-! ## Characters -/

theorem inIntervals_ascii {code : Nat} (hascii : code < 128) :
    inIntervals [(0, 127)] code = true := by
  simp [inIntervals, Nat.le_of_lt_succ hascii]

theorem isAlphabetic_of_ascii {c : Char} (hascii : c.toNat < 128) : isAlphabetic c = c.isAlpha := by
  have hbeyond : bitsWithin [(0, 127)] &&& bitsWithin alphabeticIntervals = 0 := by decide +kernel
  rw [isAlphabetic, inIntervals_eq_false_of_disjoint hbeyond (inIntervals_ascii hascii),
    Bool.or_false]

theorem isNumeric_of_ascii {c : Char} (hascii : c.toNat < 128) : isNumeric c = c.isDigit := by
  have hbeyond : bitsWithin [(0, 127)] &&& bitsWithin numericIntervals = 0 := by decide +kernel
  rw [isNumeric, inIntervals_eq_false_of_disjoint hbeyond (inIntervals_ascii hascii),
    Bool.or_false]

/-- Within ASCII, words go on with letters, digits, `_` and `$`. -/
theorem continuesIdentifier_of_ascii {c : Char} (hascii : c.toNat < 128) :
    continuesIdentifier c = (c.isAlphanum || c == '_' || c == '$') := by
  rw [continuesIdentifier, isAlphanumeric, isAlphabetic_of_ascii hascii, isNumeric_of_ascii hascii,
    Char.isAlphanum]

/-- The code points of all blank characters. -/
def blankCodes : List Nat :=
  blankIntervals.flatMap fun interval =>
    List.range' interval.1 (interval.2 + 1 - interval.1)

theorem mem_blankCodes_of_isBlank {c : Char} (hblank : isBlank c = true) :
    c.toNat ∈ blankCodes := by
  obtain ⟨interval, hmem, hbounds⟩ := List.any_eq_true.1 hblank
  rw [Bool.and_eq_true, decide_eq_true_eq, decide_eq_true_eq] at hbounds
  apply List.mem_flatMap.2
  refine ⟨interval, hmem, List.mem_range'_1.2 ⟨hbounds.1, ?_⟩⟩
  omega

theorem continuesIdentifier_of_isBlank {c : Char} (hblank : isBlank c = true) :
    continuesIdentifier c = false := by
  obtain ⟨hletters, hnumerals⟩ : bitsWithin blankIntervals &&& bitsWithin alphabeticIntervals = 0 ∧
      bitsWithin blankIntervals &&& bitsWithin numericIntervals = 0 := by
    decide +kernel
  have hcodes : ∀ code ∈ blankCodes, ((Char.ofNat code).isAlpha || (Char.ofNat code).isDigit ||
      Char.ofNat code == '_' || Char.ofNat code == '$') = false := by
    decide
  have hascii := hcodes _ (mem_blankCodes_of_isBlank hblank)
  rw [Char.ofNat_toNat] at hascii
  rw [continuesIdentifier, isAlphanumeric, isAlphabetic, isNumeric,
    inIntervals_eq_false_of_disjoint hletters hblank,
    inIntervals_eq_false_of_disjoint hnumerals hblank, Bool.or_false, Bool.or_false]
  exact hascii

/-- A character of ASCII that ends a word. -/
def endsWord (c : Char) : Bool :=
  c.toNat < 128 && !(c.isAlphanum || c == '_' || c == '$')

theorem continuesIdentifier_of_endsWord {c : Char} (hends : endsWord c = true) :
    continuesIdentifier c = false := by
  rw [endsWord, Bool.and_eq_true, decide_eq_true_eq, Bool.not_eq_true'] at hends
  exact (continuesIdentifier_of_ascii hends.1).trans hends.2

theorem ne_of_continues {c other : Char} (hgoes : continuesIdentifier c = true)
    (hends : endsWord other = true) : c ≠ other := by
  rintro rfl
  cases hgoes.symm.trans (continuesIdentifier_of_endsWord hends)

theorem isBlank_of_continues {c : Char} (hgoes : continuesIdentifier c = true) :
    isBlank c = false := by
  cases hblank : isBlank c with
  | false => rfl
  | true => cases hgoes.symm.trans (continuesIdentifier_of_isBlank hblank)

theorem startsIdentifier_of_isDigit {c : Char} (hdigit : c.isDigit = true) :
    startsIdentifier c = false := by
  obtain ⟨hleast, hgreatest⟩ := Char.isDigit_iff_toNat.1 hdigit
  have hascii : c.toNat < 128 := Nat.lt_of_le_of_lt hgreatest (by decide)
  have hcodes : ∀ code ∈ List.range' '0'.toNat 10, ((Char.ofNat code).isAlpha ||
      Char.ofNat code == '_' || Char.ofNat code == '$') = false := by
    decide
  rw [startsIdentifier, isAlphabetic_of_ascii hascii, ← Char.ofNat_toNat c]
  exact hcodes _ (List.mem_range'_1.2 ⟨hleast, Nat.lt_succ_of_le hgreatest⟩)

theorem continuesIdentifier_of_ofMark? {c : Char} {token : Token}
    (hmark : Token.ofMark? c = some token) : continuesIdentifier c = false := by
  unfold Token.ofMark? at hmark
  split at hmark <;>
    first | exact continuesIdentifier_of_endsWord (by decide) | cases hmark

theorem isDigit_of_continuesIdentifier {c : Char} (hstop : continuesIdentifier c = false) :
    c.isDigit = false := by
  cases hdigit : c.isDigit with
  | false => rfl
  | true => simp [continuesIdentifier, isAlphanumeric, isNumeric, hdigit] at hstop

/-- No word goes on with the first character of the text. -/
def Breaks (text : List Char) : Prop :=
  ∀ c ∈ text.head?, continuesIdentifier c = false

theorem breaks_nil : Breaks [] := by
  simp [Breaks]

theorem breaks_cons_iff {c : Char} {rest : List Char} :
    Breaks (c :: rest) ↔ continuesIdentifier c = false := by
  simp [Breaks]

theorem Breaks.append {front rest : List Char} (hfront : Breaks front) (hrest : Breaks rest) :
    Breaks (front ++ rest) := by
  cases front with
  | nil => exact hrest
  | cons c more => exact breaks_cons_iff.2 (breaks_cons_iff.1 hfront)

theorem takeWhile_append_of_breaks {p : Char → Bool} {word rest : List Char}
    (hp : ∀ c, continuesIdentifier c = false → p c = false) (hword : ∀ c ∈ word, p c = true)
    (hbreaks : Breaks rest) : (word ++ rest).takeWhile p = word := by
  rw [List.takeWhile_append_of_pos hword]
  cases rest with
  | nil => simp
  | cons c more => simp [hp c (breaks_cons_iff.1 hbreaks)]

/-! ## Scans -/

theorem lexemesFrom_of_nil {text : List Char} (hsplit : (splitBlank false text).2 = [])
    (line : Nat) : lexemesFrom line text = [] := by
  rw [lexemesFrom]
  split
  · rfl
  · rename_i heq
    cases heq.symm.trans hsplit

theorem lexemesFrom_of_cons {text rest : List Char} {c : Char}
    (hsplit : (splitBlank false text).2 = c :: rest) (line : Nat) :
    lexemesFrom line text =
      let start := line + newlines (splitBlank false text).1
      let reading := readToken start c rest
      { skipped := (splitBlank false text).1, text := c :: reading.1, outcome := reading.2 } ::
        lexemesFrom start (rest.drop reading.1.length) := by
  rw [lexemesFrom]
  split
  · rename_i heq
    cases heq.symm.trans hsplit
  · rename_i heq
    cases heq.symm.trans hsplit
    rfl

/-- Without faults the text is cut into these tokens, whatever line it begins on. -/
def Scans (text : List Char) (tokens : List Token) : Prop :=
  ∀ line, (lexemesFrom line text).mapM Lexeme.outcome = .ok tokens

theorem scans_nil : Scans [] [] := by
  intro line
  rw [lexemesFrom_of_nil rfl]
  rfl

/-- What is skipped in front changes nothing but the lines. -/
theorem Scans.skip {front text : List Char} {tokens : List Token}
    (hsplit : splitBlank false (front ++ text) =
      (front ++ (splitBlank false text).1, (splitBlank false text).2))
    (htext : Scans text tokens) : Scans (front ++ text) tokens := by
  intro line
  have hnext := htext (line + newlines front)
  cases hrest : (splitBlank false text).2 with
  | nil =>
    rw [lexemesFrom_of_nil hrest] at hnext
    rw [lexemesFrom_of_nil (by rw [hsplit, hrest])]
    exact hnext
  | cons first rest =>
    have hline : line + newlines (front ++ (splitBlank false text).1) =
        line + newlines front + newlines (splitBlank false text).1 := by
      rw [newlines, List.count_append, ← Nat.add_assoc]
      rfl
    rw [lexemesFrom_of_cons hrest, List.mapM_cons] at hnext
    rw [lexemesFrom_of_cons (by rw [hsplit, hrest]), List.mapM_cons]
    simp only [hsplit, hline]
    exact hnext

theorem Scans.blank {c : Char} {text : List Char} {tokens : List Token} (hblank : isBlank c = true)
    (htext : Scans text tokens) : Scans (c :: text) tokens := by
  have hhash : (c == '#') = false := by
    rw [beq_eq_false_iff_ne]
    rintro rfl
    exact absurd hblank (by decide)
  apply @Scans.skip [c] text tokens _ htext
  simp [splitBlank, hblank, hhash]

theorem Scans.of_token (more : List Char) {rest : List Char} {c : Char} {token : Token}
    {tokens : List Token} (hstart : isBlank c = false ∧ c ≠ '#')
    (htoken : ∀ line, readToken line c (more ++ rest) = (more, .ok token))
    (hrest : Scans rest tokens) : Scans (c :: (more ++ rest)) (token :: tokens) := by
  have hsplit : splitBlank false (c :: (more ++ rest)) = ([], c :: (more ++ rest)) := by
    simp [splitBlank, hstart.1, hstart.2]
  intro line
  rw [lexemesFrom_of_cons (congrArg Prod.snd hsplit), List.mapM_cons]
  simp only [htoken, List.drop_left, hrest _]
  rfl

/-! ## Tokens -/

/-- A character of words opens neither a blank nor a comment nor a mark. -/
theorem opensWord_of_continues {c : Char} (hgoes : continuesIdentifier c = true) :
    (isBlank c = false ∧ c ≠ '#') ∧ Token.ofMark? c = none ∧ c ≠ '.' ∧ c ≠ '-' := by
  refine ⟨⟨isBlank_of_continues hgoes, ne_of_continues hgoes (by decide)⟩, ?_,
    ne_of_continues hgoes (by decide), ne_of_continues hgoes (by decide)⟩
  · cases hmark : Token.ofMark? c with
    | none => rfl
    | some token => cases hgoes.symm.trans (continuesIdentifier_of_ofMark? hmark)

theorem Scans.identifier {name rest : List Char} {tokens : List Token}
    (hname : isIdentifier name = true) (hbreaks : Breaks rest) (hrest : Scans rest tokens) :
    Scans (name ++ rest) (.identifier (String.ofList name) :: tokens) := by
  cases name with
  | nil => cases hname
  | cons c more =>
    rw [isIdentifier, Bool.and_eq_true, List.all_eq_true] at hname
    obtain ⟨hstart, hmark, hdot, hdash⟩ :=
      opensWord_of_continues (continuesIdentifier_of_starts hname.1)
    have hdigit : c.isDigit = false := by
      cases hdigit : c.isDigit with
      | false => rfl
      | true => cases hname.1.symm.trans (startsIdentifier_of_isDigit hdigit)
    apply Scans.of_token more hstart _ hrest
    intro line
    rw [readToken, hmark]
    simp only [if_neg hdot, if_neg hdash, hdigit, hname.1,
      takeWhile_append_of_breaks (fun _ hstop => hstop) hname.2 hbreaks]
    rfl

/-- A row of digits that does not go on is the number that it writes. -/
theorem Scans.number {c : Char} {more rest : List Char} {tokens : List Token}
    (hdigits : ∀ d ∈ c :: more, d.isDigit = true) (hbound : numberValue (c :: more) ≤ maxNumber)
    (hbreaks : Breaks rest) (hrest : Scans rest tokens) :
    Scans (c :: (more ++ rest)) (.number (numberValue (c :: more)) :: tokens) := by
  rw [List.forall_mem_cons] at hdigits
  have hgoes : continuesIdentifier c = true := by
    cases hstop : continuesIdentifier c with
    | true => rfl
    | false => cases hdigits.1.symm.trans (isDigit_of_continuesIdentifier hstop)
  obtain ⟨hstart, hmark, hdot, hdash⟩ := opensWord_of_continues hgoes
  have hread : (more ++ rest).takeWhile Char.isDigit = more :=
    takeWhile_append_of_breaks (fun _ => isDigit_of_continuesIdentifier) hdigits.2 hbreaks
  apply Scans.of_token more hstart _ hrest
  intro line
  rw [readToken, hmark]
  simp only [if_neg hdot, if_neg hdash, if_pos hdigits.1, hread, numberToken, if_pos hbound]

theorem Scans.digit {c : Char} {rest : List Char} {tokens : List Token} (hdigit : c.isDigit = true)
    (hbreaks : Breaks rest) (hrest : Scans rest tokens) :
    Scans (c :: rest) (.number (digitValue c) :: tokens) := by
  have hvalue : numberValue [c] = digitValue c := by
    rw [numberValue, List.foldl_cons, List.foldl_nil, Nat.mul_zero, Nat.zero_add]
  have hbound : digitValue c ≤ maxNumber :=
    calc
      digitValue c ≤ c.toNat := Nat.sub_le _ _
      _ ≤ '9'.toNat := (Char.isDigit_iff_toNat.1 hdigit).2
      _ ≤ maxNumber := by decide
  rw [← hvalue] at hbound ⊢
  exact Scans.number (List.forall_mem_singleton.2 hdigit) hbound hbreaks hrest

theorem Scans.mark {c : Char} {token : Token} {rest : List Char} {tokens : List Token}
    (hmark : Token.ofMark? c = some token) (hrest : Scans rest tokens) :
    Scans (c :: rest) (token :: tokens) := by
  have hstart : isBlank c = false ∧ c ≠ '#' := by
    unfold Token.ofMark? at hmark
    split at hmark <;> first | decide | cases hmark
  apply Scans.of_token [] hstart _ hrest
  intro line
  rw [readToken, hmark]

theorem Scans.dash {rest : List Char} {tokens : List Token} (hrest : Scans rest tokens) :
    Scans ('-' :: '-' :: rest) (.dash :: tokens) :=
  Scans.of_token ['-'] (by decide) (fun _ => rfl) hrest

theorem Scans.dotDot {rest : List Char} {tokens : List Token} (hrest : Scans rest tokens) :
    Scans ('.' :: '.' :: rest) (.dotDot :: tokens) :=
  Scans.of_token ['.'] (by decide) (fun _ => rfl) hrest

theorem Scans.dot {rest : List Char} {tokens : List Token} (hdot : rest.head? ≠ some '.')
    (hrest : Scans rest tokens) : Scans ('.' :: rest) (.dot :: tokens) := by
  apply Scans.of_token [] (by decide) _ hrest
  intro line
  rw [readToken, List.nil_append, if_neg hdot]
  rfl

/-! ## Pieces of text -/

/-- The tokens of the text come out in front of every rest that does not go on its last word. -/
def Spells (text : String) (tokens : List Token) : Prop :=
  ∀ rest others, Breaks rest → Scans rest others → Scans (text.toList ++ rest) (tokens ++ others)

/-- The tokens of the text come out in front of every rest. -/
def Delimits (text : String) (tokens : List Token) : Prop :=
  ∀ rest others, Scans rest others → Scans (text.toList ++ rest) (tokens ++ others)

section Pieces

variable {left right : String} {before after : List Token}

theorem Delimits.spells (hdelimits : Delimits left before) : Spells left before :=
  fun rest others _ => hdelimits rest others

theorem Delimits.append (hleft : Delimits left before) (hright : Delimits right after) :
    Delimits (left ++ right) (before ++ after) := by
  intro rest others hrest
  rw [String.toList_append, List.append_assoc, List.append_assoc]
  exact hleft _ _ (hright _ _ hrest)

theorem Delimits.append_spells (hleft : Delimits left before) (hright : Spells right after) :
    Spells (left ++ right) (before ++ after) := by
  intro rest others hbreaks hrest
  rw [String.toList_append, List.append_assoc, List.append_assoc]
  exact hleft _ _ (hright _ _ hbreaks hrest)

theorem Spells.append (hleft : Spells left before) (hbreaks : Breaks right.toList)
    (hright : Spells right after) : Spells (left ++ right) (before ++ after) := by
  intro rest others hrestBreaks hrest
  rw [String.toList_append, List.append_assoc, List.append_assoc]
  exact hleft _ _ (hbreaks.append hrestBreaks) (hright _ _ hrestBreaks hrest)

/-- A piece that begins with a delimiter delimits what stands in front of it. -/
theorem Spells.append_delimits (hleft : Spells left before) {c : Char} {more : List Char}
    (hbegins : right.toList = c :: more) (hends : endsWord c = true)
    (hright : Delimits right after) : Delimits (left ++ right) (before ++ after) := by
  intro rest others hrest
  rw [String.toList_append, List.append_assoc, List.append_assoc]
  apply hleft _ _ _ (hright _ _ hrest)
  rw [hbegins]
  exact breaks_cons_iff.2 (continuesIdentifier_of_endsWord hends)

end Pieces

theorem delimits_empty : Delimits "" [] := fun _ _ hrest => hrest

theorem delimits_space : Delimits " " [] := fun _ _ hrest => hrest.blank (by decide)

theorem delimits_indent : Delimits "    " [] := by
  have htext : "    " = " " ++ " " ++ " " ++ " " := by decide
  rw [htext]
  exact ((delimits_space.append delimits_space).append delimits_space).append delimits_space

theorem delimits_newline : Delimits "\n" [] := fun _ _ hrest => hrest.blank (by decide)

theorem delimits_mark {mark : String} {c : Char} {token : Token} (hchar : mark.toList = [c])
    (hmark : Token.ofMark? c = some token) : Delimits mark [token] := by
  intro rest others hrest
  rw [hchar]
  exact hrest.mark hmark

theorem delimits_comma : Delimits ", " [.comma] := by
  have htext : ", " = "," ++ " " := by decide
  have hcomma : Delimits "," [.comma] := delimits_mark rfl rfl
  rw [htext]
  exact hcomma.append delimits_space

theorem delimits_colon : Delimits ": " [.colon] := by
  have htext : ": " = ":" ++ " " := by decide
  have hcolon : Delimits ":" [.colon] := delimits_mark rfl rfl
  rw [htext]
  exact hcolon.append delimits_space

theorem delimits_semicolon : Delimits ";" [.semicolon] := delimits_mark rfl rfl

theorem delimits_dash : Delimits "--" [.dash] := fun _ _ hrest => hrest.dash

theorem delimits_dotDot : Delimits ".." [.dotDot] := fun _ _ hrest => hrest.dotDot

theorem spells_identifier {name : String} (hname : isIdentifier name.toList = true) :
    Spells name [.identifier name] := by
  intro rest others hbreaks hrest
  have hscans := hrest.identifier hname hbreaks
  rwa [String.ofList_toList] at hscans

theorem spells_digit {digit : String} {c : Char} {value : Nat} (hchar : digit.toList = [c])
    (hdigit : c.isDigit = true) (hvalue : digitValue c = value) :
    Spells digit [.number value] := by
  intro rest others hbreaks hrest
  rw [hchar, ← hvalue]
  exact hrest.digit hdigit hbreaks

/-! ## Tokens of a text -/

/-- What every identifier that a text yields looks like. -/
def Token.IsSpellable : Token → Prop
  | .identifier name => isIdentifier name.toList = true
  | _ => True

theorem isSpellable_of_readToken {line : Nat} {c : Char} {rest : List Char} {token : Token}
    (htoken : (readToken line c rest).2 = .ok token) : token.IsSpellable := by
  have hmarks : ∀ c token, Token.ofMark? c = some token → token.IsSpellable := by
    intro c token hmark
    unfold Token.ofMark? at hmark
    split at hmark <;> cases hmark <;> trivial
  unfold readToken at htoken
  split at htoken
  · rename_i mark hmark
    cases htoken
    exact hmarks _ _ hmark
  · split at htoken
    · split at htoken <;> cases htoken <;> trivial
    · split at htoken
      · split at htoken <;> cases htoken
        trivial
      · split at htoken
        · simp only [numberToken] at htoken
          split at htoken <;> cases htoken
          trivial
        · split at htoken
          · rename_i hstarts
            cases htoken
            rw [Token.IsSpellable, String.toList_ofList, isIdentifier, hstarts, Bool.true_and]
            exact List.all_takeWhile
          · cases htoken

theorem isSpellable_of_mem_lexemes (line : Nat) (text : List Char) :
    ∀ lexeme ∈ lexemesFrom line text, ∀ token, lexeme.outcome = .ok token →
      token.IsSpellable := by
  fun_induction lexemesFrom line text with
  | case1 => simp
  | case2 line text c rest hsplit skipped start more outcome hread hshorter ih =>
    intro lexeme hmem token htoken
    rcases List.mem_cons.1 hmem with rfl | hmem
    · exact isSpellable_of_readToken ((congrArg Prod.snd hread).trans htoken)
    · exact ih lexeme hmem token htoken

theorem isSpellable_of_mem_tokens {text : String} {found : List Token}
    (htokens : tokens text = .ok found) : ∀ token ∈ found, token.IsSpellable := by
  intro token hmem
  obtain ⟨lexeme, hlexeme, houtcome⟩ := exists_of_mem_mapM htokens token hmem
  exact isSpellable_of_mem_lexemes 1 text.toList lexeme hlexeme token houtcome

end ClassDiagram.Notation
