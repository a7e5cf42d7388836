import Mathlib.Data.List.Infix
import ClassDiagram.Proofs.Notation.Separators

/-!
# How a text is cut

A scanner is asked for one lexeme after another, also behind faults, until it has come to the end.
Each step takes the next characters of the text: blanks and comments, then one token or a character
that begins none. So nothing is left out or taken twice, and a line is the number of line ends in
front of the character that is blamed.
-/

namespace ClassDiagram.Notation

open Text

/-! ## The scanner -/

/-- The line that has been reached, and the characters that are left. -/
structure Scanner where
  line : Nat
  rest : List Char

namespace Scanner

def start (text : String) : Scanner :=
  { line := 1, rest := text.toList }

/-- What comes next, which is nothing at the end of the text, and the scanner behind it. -/
def next (scanner : Scanner) : Option Lexeme × Scanner :=
  let (skipped, remaining) := splitBlank false scanner.rest
  let line := scanner.line + newlines skipped
  match remaining with
  | [] => (none, { line, rest := [] })
  | c :: rest =>
    let (more, outcome) := readToken line c rest
    (some { skipped, text := c :: more, outcome }, { line, rest := rest.drop more.length })

/-- The answers to so many calls, one after the other. -/
def answers : Nat → Scanner → List (Option Lexeme)
  | 0, _ => []
  | calls + 1, scanner => scanner.next.1 :: answers calls scanner.next.2

theorem next_of_nil {scanner : Scanner} (hsplit : (splitBlank false scanner.rest).2 = []) :
    scanner.next.1 = none ∧ scanner.next.2.rest = [] := by
  simp [next, hsplit]

theorem answers_of_nil (calls : Nat) {scanner : Scanner}
    (hsplit : (splitBlank false scanner.rest).2 = []) :
    scanner.answers calls = List.replicate calls none := by
  induction calls generalizing scanner with
  | zero => rfl
  | succ calls ih =>
    obtain ⟨hnone, hrest⟩ := next_of_nil hsplit
    rw [answers, hnone, List.replicate_succ, ih (by rw [hrest]; rfl)]

/-- The lexemes are the answers up to the end, and the end is all that comes after them. -/
theorem answers_eq (scanner : Scanner) (further : Nat) :
    scanner.answers ((lexemesFrom scanner.line scanner.rest).length + further) =
      (lexemesFrom scanner.line scanner.rest).map some ++ List.replicate further none := by
  obtain ⟨line, text⟩ := scanner
  fun_induction lexemesFrom line text with
  | case1 line text hsplit =>
    rw [List.length_nil, Nat.zero_add]
    exact answers_of_nil further hsplit
  | case2 line text c rest hsplit skipped start more outcome hread hshorter ih =>
    have hnext : next ⟨line, text⟩ =
        (some { skipped, text := c :: more, outcome }, ⟨start, rest.drop more.length⟩) := by
      simp only [next, hsplit]
      rw [show readToken (line + newlines (splitBlank false text).1) c rest = _ from hread]
    rw [List.length_cons, Nat.add_right_comm, answers, hnext, ih]
    rfl

end Scanner

/-! ## What is skipped -/

/-- Blanks and comments. If no text remains behind them, the last comment may lack its line end. -/
def IsGapText (skipped remaining : List Char) : Prop :=
  ∃ gaps : List Gap, skipped = gaps.flatMap Gap.text ∨
    remaining = [] ∧ ∃ comment, '\n' ∉ comment ∧ skipped = gaps.flatMap Gap.text ++ '#' :: comment

theorem IsGapText.cons (gap : Gap) {skipped remaining : List Char}
    (hskipped : IsGapText skipped remaining) : IsGapText (gap.text ++ skipped) remaining := by
  obtain ⟨gaps, rfl | ⟨hremaining, comment, hline, rfl⟩⟩ := hskipped
  · exact ⟨gap :: gaps, .inl rfl⟩
  · exact ⟨gap :: gaps, .inr ⟨hremaining, comment, hline, by simp⟩⟩

theorem splitBlank_endless {comment : List Char} (hline : '\n' ∉ comment) :
    splitBlank true comment = (comment, []) := by
  induction comment with
  | nil => rfl
  | cons c rest ih =>
    rw [List.mem_cons, not_or] at hline
    have hgoes : (c != '\n') = true := bne_iff_ne.2 (Ne.symm hline.1)
    simp only [splitBlank, hgoes, ih hline.2, if_true]

theorem isGapText_splitBlank (text : List Char) :
    IsGapText (splitBlank false text).1 (splitBlank false text).2 := by
  induction hlength : text.length using Nat.strongRecOn generalizing text with
  | ind length ih =>
    cases text with
    | nil => exact ⟨[], .inl rfl⟩
    | cons c rest =>
      rw [List.length_cons] at hlength
      by_cases hblank : isBlank c = true
      · have hhash : (c == '#') = false := by
          rw [beq_eq_false_iff_ne]
          rintro rfl
          exact absurd hblank (by decide)
        have hrest := (ih rest.length (by omega) rest rfl).cons (.blank c hblank)
        simpa [splitBlank, hblank, hhash, Gap.text] using hrest
      · by_cases hhash : c = '#'
        · subst hhash
          by_cases hline : '\n' ∈ rest
          · obtain ⟨comment, others, rfl, hcomment⟩ := List.eq_append_cons_of_mem hline
            rw [List.length_append, List.length_cons] at hlength
            have hrest := (ih others.length (by omega) others rfl).cons (.comment comment hcomment)
            simpa [splitBlank, splitBlank_comment hcomment, Gap.text] using hrest
          · have hall : splitBlank false ('#' :: rest) = ('#' :: rest, []) := by
              simp [splitBlank, splitBlank_endless hline]
            rw [hall]
            exact ⟨[], .inr ⟨rfl, rest, hline, rfl⟩⟩
        · simp only [splitBlank, hblank, hhash, Bool.false_or, beq_iff_eq, if_false,
            Bool.false_eq_true]
          exact ⟨[], .inl rfl⟩

/-- What is skipped ends in front of a character that is not blank. -/
theorem isBlank_of_splitBlank {inComment : Bool} {text rest : List Char} {c : Char}
    (hsplit : (splitBlank inComment text).2 = c :: rest) : isBlank c = false := by
  induction text generalizing inComment with
  | nil => cases hsplit
  | cons first more ih =>
    simp only [splitBlank] at hsplit
    split_ifs at hsplit with hcomment hskips
    · exact ih hsplit
    · exact ih hsplit
    · cases hsplit
      rw [Bool.or_eq_true, not_or] at hskips
      exact Bool.eq_false_iff.2 hskips.1

theorem Gap.isDigit_getLast? (gap : Gap) : ∀ c ∈ gap.text.getLast?, c.isDigit = false := by
  intro c hc
  cases gap with
  | blank other hblank =>
    obtain rfl : other = c := by simpa [Gap.text] using hc
    exact isDigit_of_continuesIdentifier (continuesIdentifier_of_isBlank hblank)
  | comment text hline =>
    rw [Gap.text, ← List.cons_append, List.getLast?_concat] at hc
    exact Option.some.inj hc ▸ rfl

/-! ## One step -/

/-- What a token is read as: the characters behind its first one, and its meaning. -/
inductive ReadsToken (line : Nat) (c : Char) (rest : List Char) :
    List Char × Except LexicalFault Token → Prop
  | mark {token : Token} (hmark : Token.ofMark? c = some token) :
      ReadsToken line c rest ([], .ok token)
  | dot (hdot : c = '.') : ReadsToken line c rest ([], .ok .dot)
  | pair {token : Token} {mark : Char} (hpair : c = '.' ∨ c = '-') (hsecond : mark = c)
      (hnext : rest.head? = some mark) : ReadsToken line c rest ([mark], .ok token)
  | number (hdigit : c.isDigit = true) :
      ReadsToken line c rest
        (rest.takeWhile Char.isDigit, numberToken (c :: rest.takeWhile Char.isDigit))
  | identifier (hstarts : startsIdentifier c = true) :
      ReadsToken line c rest
        (rest.takeWhile continuesIdentifier,
          .ok (.identifier (String.ofList (c :: rest.takeWhile continuesIdentifier))))
  | unexpected (hdigit : c.isDigit = false) :
      ReadsToken line c rest ([], .error (.unexpectedChar c line))

theorem readToken_cases (line : Nat) (c : Char) (rest : List Char) :
    ReadsToken line c rest (readToken line c rest) := by
  rw [readToken]
  split
  · exact .mark (by assumption)
  · split_ifs with hdot hnext hdash hnext hdigit hstarts
    · exact .pair (.inl hdot) hdot.symm hnext
    · exact .dot hdot
    · exact .pair (.inr hdash) hdash.symm hnext
    · exact .unexpected (by rw [hdash]; decide)
    · exact .number hdigit
    · exact .identifier hstarts
    · exact .unexpected (Bool.eq_false_iff.2 hdigit)

section Step

variable {line : Nat} {c : Char} {rest : List Char}
  {reading : List Char × Except LexicalFault Token}

theorem ReadsToken.isPrefix (hreads : ReadsToken line c rest reading) : reading.1 <+: rest := by
  cases hreads with
  | mark | dot | unexpected => exact List.nil_prefix
  | pair hpair hsecond hnext =>
    obtain ⟨more, rfl⟩ := List.head?_eq_some_iff.1 hnext
    exact List.prefix_append [_] more
  | number | identifier => exact List.takeWhile_prefix _

/-- No token goes over the end of a line. -/
theorem ReadsToken.newline_not_mem (hreads : ReadsToken line c rest reading)
    (hvisible : isBlank c = false) : '\n' ∉ c :: reading.1 := by
  have hfirst : '\n' ≠ c := by
    rintro rfl
    exact absurd hvisible (by decide)
  have hword : ∀ p : Char → Bool, p '\n' = false → '\n' ∉ rest.takeWhile p := by
    intro p hstop hmem
    cases hstop.symm.trans (List.all_eq_true.1 List.all_takeWhile _ hmem)
  have hmore : '\n' ∉ reading.1 := by
    cases hreads with
    | mark | dot | unexpected => exact List.not_mem_nil
    | pair hpair hsecond => exact fun hmem => hfirst (hsecond ▸ List.mem_singleton.1 hmem)
    | number => exact hword _ (by decide)
    | identifier => exact hword _ (continuesIdentifier_of_endsWord (by decide))
  exact fun hmem => (List.mem_cons.1 hmem).elim hfirst hmore

/-- A digit begins a row of digits. -/
theorem ReadsToken.eq_number (hreads : ReadsToken line c rest reading)
    (hdigit : c.isDigit = true) :
    reading = (rest.takeWhile Char.isDigit, numberToken (c :: rest.takeWhile Char.isDigit)) := by
  cases hreads with
  | mark hmark =>
    cases hdigit.symm.trans (isDigit_of_continuesIdentifier (continuesIdentifier_of_ofMark? hmark))
  | dot hdot => cases hdot ▸ hdigit
  | pair hpair => rcases hpair with rfl | rfl <;> cases hdigit
  | number => rfl
  | identifier hstarts => cases hstarts.symm.trans (startsIdentifier_of_isDigit hdigit)
  | unexpected hother => cases hdigit.symm.trans hother

/-- Only a number that is too great is an invalid one. -/
theorem ReadsToken.invalidNumber_iff (hreads : ReadsToken line c rest reading) {digits : String} :
    reading.2 = .error (.invalidNumber digits) ↔
      c.isDigit = true ∧ digits.toList = c :: reading.1 ∧
        maxNumber < numberValue (c :: reading.1) := by
  cases hdigit : c.isDigit with
  | false =>
    cases hreads with
    | number hnumber => cases hdigit.symm.trans hnumber
    | _ => simp
  | true =>
    cases hreads.eq_number hdigit
    rw [numberToken, ← Nat.not_le]
    split_ifs with hbound
    · simp [hbound]
    · simp only [hbound, Except.error.injEq, LexicalFault.invalidNumber.injEq, true_and,
        not_false_eq_true, and_true]
      exact ⟨fun heq => heq ▸ String.toList_ofList, fun heq => heq ▸ String.ofList_toList⟩

theorem ReadsToken.of_unexpectedChar (hreads : ReadsToken line c rest reading) {d : Char}
    {place : Nat} (hfault : reading.2 = .error (.unexpectedChar d place)) :
    reading.1 = [] ∧ d = c ∧ place = line := by
  cases hreads with
  | mark | dot | pair | identifier => cases hfault
  | number =>
    rw [numberToken] at hfault
    split at hfault <;> cases hfault
  | unexpected =>
    cases hfault
    exact ⟨rfl, rfl, rfl⟩

end Step

/-! ## Rows of digits -/

/-- No row of digits goes on from the one text to the other. -/
def PartsDigits (front back : List Char) : Prop :=
  ∀ c ∈ front.getLast?, c.isDigit = true → ∀ d ∈ back.head?, d.isDigit = false

theorem partsDigits_of_last {front : List Char} (hlast : ∀ c ∈ front.getLast?, c.isDigit = false)
    (back : List Char) : PartsDigits front back := by
  intro c hc hdigit
  cases hdigit.symm.trans (hlast c hc)

theorem drop_length_takeWhile (p : Char → Bool) (text : List Char) :
    text.drop (text.takeWhile p).length = text.dropWhile p := by
  have hparts := List.takeWhile_append_dropWhile (p := p) (l := text)
  calc
    text.drop (text.takeWhile p).length =
        (text.takeWhile p ++ text.dropWhile p).drop (text.takeWhile p).length := by rw [hparts]
    _ = text.dropWhile p := List.drop_left

theorem isDigit_head?_dropWhile {p : Char → Bool} (hp : ∀ c, p c = false → c.isDigit = false)
    (text : List Char) : ∀ d ∈ (text.dropWhile p).head?, d.isDigit = false := by
  intro d hd
  have hstop := List.head?_dropWhile_not p text
  rw [hd] at hstop
  exact hp d hstop

theorem ReadsToken.partsDigits {line : Nat} {c : Char} {rest : List Char}
    {reading : List Char × Except LexicalFault Token} (hreads : ReadsToken line c rest reading) :
    PartsDigits (c :: reading.1) (rest.drop reading.1.length) := by
  have hsingle : ∀ {c : Char}, c.isDigit = false → ∀ d ∈ [c].getLast?, d.isDigit = false :=
    fun hdigit d hd => Option.some.inj hd ▸ hdigit
  cases hreads with
  | mark hmark =>
    exact partsDigits_of_last (hsingle (isDigit_of_continuesIdentifier
      (continuesIdentifier_of_ofMark? hmark))) _
  | dot hdot => exact partsDigits_of_last (hsingle (hdot ▸ rfl)) _
  | @pair _ mark hpair hsecond =>
    have hdigit : mark.isDigit = false := hsecond ▸ hpair.elim (· ▸ rfl) (· ▸ rfl)
    apply partsDigits_of_last
    rw [List.getLast?_cons_cons]
    exact hsingle hdigit
  | number =>
    rw [drop_length_takeWhile]
    exact fun _ _ _ => isDigit_head?_dropWhile (fun _ hstop => hstop) rest
  | identifier =>
    rw [drop_length_takeWhile]
    exact fun _ _ _ => isDigit_head?_dropWhile (fun _ => isDigit_of_continuesIdentifier) rest
  | unexpected hdigit => exact partsDigits_of_last (hsingle hdigit) _

theorem isDigit_getLast?_gaps (gaps : List Gap) :
    ∀ c ∈ (gaps.flatMap Gap.text).getLast?, c.isDigit = false := by
  intro c hc
  rcases List.eq_nil_or_concat gaps with rfl | ⟨front, last, rfl⟩
  · cases hc
  · obtain ⟨first, more, htext, -⟩ := last.exists_first
    apply last.isDigit_getLast?
    rwa [List.concat_eq_append, List.flatMap_append, List.flatMap_singleton,
      List.getLast?_append_of_ne_nil _ (htext ▸ List.cons_ne_nil first more)] at hc

/-- A row of digits that goes on to neither side. -/
structure IsDigitRun (before digits after : List Char) : Prop where
  ne_nil : digits ≠ []
  all : ∀ c ∈ digits, c.isDigit = true
  begins : ∀ c ∈ before.getLast?, c.isDigit = false
  ends : ∀ c ∈ after.head?, c.isDigit = false

/-! ## The run -/

/-- The characters that a step takes. -/
def Lexeme.taken (lexeme : Lexeme) : List Char :=
  lexeme.skipped ++ lexeme.text

/-- What a step says is right at its place in the text. It takes blanks and comments, and at least
one character behind them. A character that it blames is the last one that it takes, and stands in
the line that is named. A number that it blames is a whole row of digits, and it blames all those
that are too great. -/
structure Lexeme.StandsBetween (lexeme : Lexeme) (before after : List Char) : Prop where
  skipped : ∃ gaps : List Gap, lexeme.skipped = gaps.flatMap Gap.text
  text : lexeme.text ≠ []
  char : ∀ c line, lexeme.outcome = .error (.unexpectedChar c line) →
    lexeme.taken.getLast? = some c ∧ line = 1 + newlines (before ++ lexeme.taken.dropLast)
  number : ∀ digits, lexeme.outcome = .error (.invalidNumber digits) ↔
    digits.toList = lexeme.text ∧ IsDigitRun (before ++ lexeme.skipped) lexeme.text after ∧
      maxNumber < numberValue lexeme.text

/-- The first step behind a text of which the lines have been counted. -/
theorem standsBetween_of_readToken {passed skipped rest : List Char} {c : Char}
    (hgaps : ∃ gaps : List Gap, skipped = gaps.flatMap Gap.text)
    (hparts : PartsDigits passed (skipped ++ c :: rest))
    {reading : List Char × Except LexicalFault Token}
    (hreads : ReadsToken (1 + newlines passed + newlines skipped) c rest reading) :
    Lexeme.StandsBetween { skipped, text := c :: reading.1, outcome := reading.2 } passed
      (rest.drop reading.1.length) where
  skipped := hgaps
  text := List.cons_ne_nil c reading.1
  char := by
    intro d line hfault
    obtain ⟨hmore, rfl, rfl⟩ := hreads.of_unexpectedChar hfault
    simp only [Lexeme.taken, hmore, List.getLast?_concat, List.dropLast_concat, newlines,
      List.count_append, Nat.add_assoc, and_self]
  number := by
    intro digits
    rw [hreads.invalidNumber_iff]
    constructor
    · rintro ⟨hdigit, htext, hgreat⟩
      have hall : ∀ d ∈ c :: reading.1, d.isDigit = true := by
        rw [hreads.eq_number hdigit, List.forall_mem_cons]
        exact ⟨hdigit, fun d => List.all_eq_true.1 List.all_takeWhile d⟩
      refine ⟨htext, ⟨List.cons_ne_nil c reading.1, hall, fun d hd => ?_, fun d hd => ?_⟩, hgreat⟩
      · obtain ⟨gaps, rfl⟩ := hgaps
        rw [Option.mem_def, List.getLast?_append, Option.or_eq_some_iff] at hd
        rcases hd with hgap | ⟨hnone, hlast⟩
        · exact isDigit_getLast?_gaps gaps d hgap
        · have hnil : gaps.flatMap Gap.text = [] := List.getLast?_eq_none_iff.1 hnone
          rw [hnil] at hparts
          cases hother : d.isDigit with
          | false => rfl
          | true => cases hdigit.symm.trans (hparts d hlast hother c rfl)
      · have hlast := List.getLast?_eq_some_getLast (List.cons_ne_nil c reading.1)
        exact hreads.partsDigits _ hlast (hall _ (List.getLast_mem _)) d hd
    · rintro ⟨htext, hrun, hgreat⟩
      exact ⟨hrun.all c List.mem_cons_self, htext, hgreat⟩

/-- No token goes over a line: what stands behind the first step stands in the line of its token. -/
theorem ReadsToken.line_behind {line : Nat} {c : Char} {rest : List Char}
    {reading : List Char × Except LexicalFault Token} (hreads : ReadsToken line c rest reading)
    (hblank : isBlank c = false) {passed skipped : List Char}
    (hline : line = 1 + newlines passed + newlines skipped) :
    line = 1 + newlines
      (passed ++ Lexeme.taken { skipped, text := c :: reading.1, outcome := reading.2 }) :=
  have hnone : newlines (c :: reading.1) = 0 :=
    List.count_eq_zero.2 (hreads.newline_not_mem hblank)
  calc
    line = 1 + newlines passed + newlines skipped + newlines (c :: reading.1) := by
      rw [hnone, Nat.add_zero, hline]
    _ = _ := by simp only [newlines, Lexeme.taken, List.count_append, Nat.add_assoc]

theorem ReadsToken.partsDigits_behind {line : Nat} {c : Char} {rest : List Char}
    {reading : List Char × Except LexicalFault Token} (hreads : ReadsToken line c rest reading)
    (passed skipped : List Char) :
    PartsDigits (passed ++ Lexeme.taken { skipped, text := c :: reading.1, outcome := reading.2 })
      (rest.drop reading.1.length) := by
  rw [PartsDigits, Lexeme.taken, ← List.append_assoc,
    List.getLast?_append_of_ne_nil _ (List.cons_ne_nil c reading.1)]
  exact hreads.partsDigits

theorem length_lexemesFrom_le (line : Nat) (text : List Char) :
    (lexemesFrom line text).length ≤ text.length := by
  fun_induction lexemesFrom line text with
  | case1 => exact Nat.zero_le _
  | case2 line text c rest hsplit skipped start more outcome hread hshorter ih =>
    rw [List.length_cons]
    omega

/-- The lexemes cover the text up to the blanks and comments at its end, and each stands in it
rightly. -/
theorem exists_cover {line : Nat} {passed text : List Char} (hline : line = 1 + newlines passed)
    (hparts : PartsDigits passed text) :
    ∃ trailing, text = (lexemesFrom line text).flatMap Lexeme.taken ++ trailing ∧
      IsGapText trailing [] ∧
      ∀ front lexeme back, lexemesFrom line text = front ++ lexeme :: back →
        lexeme.StandsBetween (passed ++ front.flatMap Lexeme.taken)
          (back.flatMap Lexeme.taken ++ trailing) := by
  fun_induction lexemesFrom line text generalizing passed with
  | case1 line text hsplit =>
    have hgaps := isGapText_splitBlank text
    have htext := splitBlank_append false text
    rw [hsplit, List.append_nil] at htext
    rw [hsplit, htext] at hgaps
    exact ⟨text, rfl, hgaps, by simp⟩
  | case2 line text c rest hsplit skipped start more outcome hread hshorter =>
    rename_i ih
    have htext : text = skipped ++ c :: rest := by rw [← hsplit, splitBlank_append]
    have hgaps : ∃ gaps : List Gap, skipped = gaps.flatMap Gap.text := by
      obtain ⟨gaps, heq | ⟨hnil, -⟩⟩ := isGapText_splitBlank text
      · exact ⟨gaps, heq⟩
      · cases hnil.symm.trans hsplit
    have hreads : ReadsToken start c rest (more, outcome) := hread ▸ readToken_cases start c rest
    have hstart : start = 1 + newlines passed + newlines skipped := by rw [← hline]
    have hrest : rest = more ++ rest.drop more.length :=
      List.prefix_append_drop hreads.isPrefix
    have hnext := hreads.line_behind (isBlank_of_splitBlank hsplit) hstart
    have hcut := hreads.partsDigits_behind passed skipped
    let first : Lexeme := { skipped, text := c :: more, outcome }
    obtain ⟨trailing, hcover, htrailing, hothers⟩ := ih hnext hcut
    refine ⟨trailing, ?_, htrailing, fun front lexeme back heq => ?_⟩
    · calc
        text = first.taken ++ rest.drop more.length := by
          rw [htext, Lexeme.taken, List.append_assoc, List.cons_append, ← hrest]
        _ = (first :: lexemesFrom start (rest.drop more.length)).flatMap Lexeme.taken ++
            trailing := by
          rw [List.flatMap_cons, List.append_assoc, ← hcover]
    · cases front with
      | nil =>
        obtain ⟨rfl, rfl⟩ := List.cons.inj heq
        rw [List.flatMap_nil, List.append_nil, ← hcover]
        rw [htext] at hparts
        rw [hstart] at hreads
        exact standsBetween_of_readToken hgaps hparts hreads
      | cons earlier others =>
        obtain ⟨rfl, hback⟩ := List.cons.inj heq
        rw [List.flatMap_cons, ← List.append_assoc]
        exact hothers others lexeme back hback

/-- Asked again and again, also behind faults, a scanner gives the lexemes of the text and then the
end. There are no more of them than characters, and they and the blanks and comments at the end
cover the text, in order and each character once. Each fault names what stands at its place. -/
theorem lexemes_cover (text : String) :
    (lexemes text).length ≤ text.length ∧
      (∀ further, (Scanner.start text).answers ((lexemes text).length + further) =
        (lexemes text).map some ++ List.replicate further none) ∧
      ∃ trailing, text.toList = (lexemes text).flatMap Lexeme.taken ++ trailing ∧
        IsGapText trailing [] ∧
        ∀ front lexeme back, lexemes text = front ++ lexeme :: back →
          lexeme.StandsBetween (front.flatMap Lexeme.taken)
            (back.flatMap Lexeme.taken ++ trailing) := by
  refine ⟨?_, (Scanner.start text).answers_eq, ?_⟩
  · rw [← String.length_toList]
    exact length_lexemesFrom_le 1 text.toList
  · have hempty : PartsDigits [] text.toList := nofun
    simpa [lexemes] using @exists_cover 1 [] text.toList rfl hempty

/-- A text with a number that is too great and a character that begins no token. -/
def misread : String :=
  "a # n\n9223372036854775808@ # z"

def misreadLexemes : List Lexeme := [
  { skipped := []
    text := ['a']
    outcome := .ok (.identifier "a") },
  { skipped := " # n\n".toList
    text := "9223372036854775808".toList
    outcome := .error (.invalidNumber "9223372036854775808") },
  { skipped := []
    text := ['@']
    outcome := .error (.unexpectedChar '@' 2) }]

deriving instance DecidableEq for Lexeme

/-- The scanner goes on behind a fault, and stays at the end once it has come there. -/
theorem lexemes_cover_misread :
    lexemes misread = misreadLexemes ∧
      (Scanner.start misread).answers 5 = misreadLexemes.map some ++ [none, none] ∧
      ∃ trailing, misread.toList = misreadLexemes.flatMap Lexeme.taken ++ trailing ∧
        IsGapText trailing [] ∧
        Lexeme.StandsBetween
          { skipped := [], text := ['@'], outcome := .error (.unexpectedChar '@' 2) }
          "a # n\n9223372036854775808".toList trailing := by
  have hlexemes : lexemes misread = misreadLexemes := by decide +kernel
  obtain ⟨-, hanswers, trailing, htext, hgap, hstands⟩ := lexemes_cover misread
  rw [hlexemes] at hanswers htext hstands
  exact ⟨hlexemes, hanswers 2, trailing, htext, hgap, hstands (misreadLexemes.take 2) _ [] rfl⟩

end ClassDiagram.Notation
