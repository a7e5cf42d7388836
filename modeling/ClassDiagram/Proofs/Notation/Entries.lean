import ClassDiagram.Notation.Diagram
import ClassDiagram.Proofs.Notation.Types

/-!
# Where elements are read

A reader takes tokens from the front, so what it leaves is an end of what it was given. Hence each
element of a diagram is read from a block of the text: its name, an opening brace and the members
behind it.
-/

namespace ClassDiagram

namespace Notation

variable {α β : Type}

/-! ## What readers leave -/

/-- What the reader leaves is an end of the tokens. -/
def LeavesEnd (reader : Reader α) : Prop :=
  ∀ tokens, (reader tokens).rest <:+ tokens

theorem leavesEnd_done (value : α) : LeavesEnd (done value) := fun _ => List.suffix_rfl

theorem leavesEnd_failBefore (expected : String) : LeavesEnd (failBefore expected : Reader α) :=
  fun _ => List.suffix_rfl

theorem leavesEnd_failAfter (expected : String) : LeavesEnd (failAfter expected : Reader α) :=
  fun tokens => List.tail_suffix tokens

/-- The first token is taken, and the reader leaves an end of the others. -/
theorem LeavesEnd.cons {reader : Reader α} (hreader : LeavesEnd reader) (token : Token)
    (rest : List Token) : (reader rest).rest <:+ token :: rest :=
  (hreader rest).trans (List.suffix_cons token rest)

theorem Reading.andThen_suffix {reading : Reading α} {next : α → Reader β} {tokens : List Token}
    (hreading : reading.rest <:+ tokens) (hnext : ∀ value, LeavesEnd (next value)) :
    (reading.andThen next).rest <:+ tokens := by
  unfold Reading.andThen
  split
  · exact (hnext _ _).trans hreading
  · exact hreading

theorem leavesEnd_readIdentifier : LeavesEnd readIdentifier := by
  intro tokens
  unfold readIdentifier
  split
  · exact (leavesEnd_done _).cons _ _
  · exact leavesEnd_failAfter _ _

theorem leavesEnd_expectToken (token : Token) (expected : String) :
    LeavesEnd (expectToken token expected) := by
  intro tokens
  unfold expectToken
  split
  · exact leavesEnd_failAfter _ _
  · split
    · exact (leavesEnd_done _).cons _ _
    · exact leavesEnd_failAfter _ _

theorem leavesEnd_readBlock {item : Nat → Reader α} {hitem : ∀ count, Advances (item count)}
    (hitems : ∀ count, LeavesEnd (item count)) (count : Nat) :
    LeavesEnd (readBlock item hitem count) := by
  intro tokens
  have hdropped : ∀ tokens, dropSeparators tokens <:+ tokens :=
    fun tokens => List.dropWhile_suffix isSeparator
  fun_induction readBlock item hitem count tokens with
  | case1 count tokens => exact List.nil_suffix
  | case2 count tokens rest heq =>
    exact (List.suffix_cons _ _).trans (heq ▸ hdropped tokens)
  | case3 count tokens token rest _ heq reading fault _ =>
    exact (hitems count _).trans (heq ▸ hdropped tokens)
  | case4 count tokens token rest _ heq reading value _ _ ih =>
    exact (ih.trans (hitems count _)).trans (heq ▸ hdropped tokens)

/-! ## Members -/

theorem leavesEnd_readType (state : TypeState) (depth : Nat) (text : String) :
    LeavesEnd (readType state depth text) := by
  intro tokens
  fun_induction readType state depth text tokens with
  | case1 | case3 | case5 | case11 => exact leavesEnd_failAfter _ _
  | case2 | case8 => exact leavesEnd_done _ _
  | case4 | case6 | case7 | case9 | case10 =>
    rename_i ih
    exact ih.trans (List.suffix_cons _ _)

theorem leavesEnd_readOptionalMark : LeavesEnd readOptionalMark := by
  intro tokens
  unfold readOptionalMark
  split
  · exact (leavesEnd_done _).cons _ _
  · exact leavesEnd_done _ _

theorem leavesEnd_readResult : LeavesEnd readResult := by
  intro tokens
  unfold readResult
  split
  · exact (leavesEnd_readType .nameDue 0 "").cons _ _
  · exact leavesEnd_done _ _

theorem leavesEnd_readParameters : LeavesEnd readParameters := by
  intro tokens
  have htype : ∀ name rest, (readType .nameDue 0 "" rest).rest <:+
      .identifier name :: .colon :: rest := fun name rest =>
    ((leavesEnd_readType .nameDue 0 "").cons .colon rest).trans (List.suffix_cons _ _)
  fun_induction readParameters tokens with
  | case1 rest => exact List.suffix_cons _ _
  | case2 name rest reading fault _ => exact htype name rest
  | case3 name rest reading typeToken _ parameter others heq _ ih =>
    exact (ih.trans (List.suffix_cons _ _)).trans (heq ▸ htype name rest)
  | case4 name rest reading typeToken _ parameter others heq =>
    exact (List.suffix_cons _ _).trans (heq ▸ htype name rest)
  | case5 name rest reading typeToken _ parameter others =>
    exact (leavesEnd_failAfter _ _).trans (htype name rest)
  | case6 name rest => exact (leavesEnd_failAfter _).cons _ _
  | case7 tokens => exact leavesEnd_failAfter _ _

theorem leavesEnd_readMember : LeavesEnd readMember := by
  intro tokens
  unfold readMember
  split
  · apply Reading.andThen_suffix
    · exact ((leavesEnd_readType _ _ _).cons _ _).trans (List.suffix_cons _ _)
    · exact fun _ => leavesEnd_readOptionalMark
  · apply Reading.andThen_suffix
    · exact (leavesEnd_readParameters.cons _ _).trans (List.suffix_cons _ _)
    · exact fun _ => leavesEnd_readResult
  · exact (leavesEnd_failBefore _).cons _ _
  · exact leavesEnd_failAfter _ _

/-! ## Relationships -/

theorem leavesEnd_readUpperBound (lower : Nat) : LeavesEnd (readUpperBound lower) := by
  intro tokens
  unfold readUpperBound
  split
  · exact (leavesEnd_done _).cons _ _
  · split
    · exact (leavesEnd_done _).cons _ _
    · exact leavesEnd_failAfter _ _
  · split
    · exact (leavesEnd_done _).cons _ _
    · exact leavesEnd_failAfter _ _
  · exact leavesEnd_failAfter _ _

theorem leavesEnd_readCardinality : LeavesEnd readCardinality := by
  intro tokens
  unfold readCardinality
  split
  · exact (leavesEnd_done _).cons _ _
  · apply Reading.andThen_suffix
    · exact (leavesEnd_expectToken _ _).cons _ _
    · exact fun _ => leavesEnd_readUpperBound 0
  · exact ((leavesEnd_readUpperBound 1).cons _ _).trans (List.suffix_cons _ _)
  · exact (leavesEnd_done _).cons _ _
  · split
    · exact (leavesEnd_done _).cons _ _
    · exact leavesEnd_failBefore _ _
  · exact leavesEnd_failBefore _ _

theorem leavesEnd_readSourceCardinality : LeavesEnd readSourceCardinality := by
  intro tokens
  unfold readSourceCardinality
  split
  · exact leavesEnd_done _ _
  · exact leavesEnd_readCardinality _

theorem leavesEnd_readTargetCardinality : LeavesEnd readTargetCardinality := by
  intro tokens
  unfold readTargetCardinality
  split
  · split
    · exact leavesEnd_readCardinality _
    · exact leavesEnd_done _ _
  · exact leavesEnd_readCardinality _
  · exact leavesEnd_readCardinality _
  · exact leavesEnd_done _ _

theorem leavesEnd_readKind : LeavesEnd readKind := by
  intro tokens
  unfold readKind
  split
  · apply Reading.andThen_suffix
    · exact leavesEnd_readIdentifier.cons _ _
    · intro word rest
      split <;> exact List.suffix_rfl
  · exact leavesEnd_done _ _

theorem leavesEnd_readRelationship (count : Nat) : LeavesEnd (readRelationship count) := by
  intro tokens
  apply Reading.andThen_suffix (leavesEnd_readIdentifier tokens)
  intro sourceId tokens
  apply Reading.andThen_suffix (leavesEnd_readSourceCardinality tokens)
  intro sourceCardinality tokens
  apply Reading.andThen_suffix (leavesEnd_expectToken _ _ tokens)
  intro _ tokens
  apply Reading.andThen_suffix (leavesEnd_readTargetCardinality tokens)
  intro targetCardinality tokens
  apply Reading.andThen_suffix (leavesEnd_readIdentifier tokens)
  exact fun targetId tokens => leavesEnd_readKind tokens

/-! ## Entries -/

theorem leavesEnd_readClass (kind : ElementKind) : LeavesEnd (readClass kind) := by
  intro tokens
  apply Reading.andThen_suffix (leavesEnd_readIdentifier tokens)
  intro name tokens
  apply Reading.andThen_suffix (leavesEnd_expectToken _ _ tokens)
  exact fun _ tokens => leavesEnd_readBlock (fun _ => leavesEnd_readMember) 0 tokens

theorem leavesEnd_readEnum : LeavesEnd readEnum := by
  intro tokens
  apply Reading.andThen_suffix (leavesEnd_readIdentifier tokens)
  intro name tokens
  apply Reading.andThen_suffix (leavesEnd_expectToken _ _ tokens)
  exact fun _ tokens => leavesEnd_readBlock (fun _ => leavesEnd_readIdentifier) 0 tokens

theorem dropClassWord_suffix (tokens : List Token) : dropClassWord tokens <:+ tokens := by
  unfold dropClassWord
  split
  · exact List.suffix_rfl
  · split
    · exact List.suffix_cons _ _
    · exact List.suffix_rfl

theorem leavesEnd_readEntry (count : Nat) (keyword : Keyword) :
    LeavesEnd (readEntry count keyword) := by
  intro tokens
  cases keyword with
  | classWord | interfaceWord => exact leavesEnd_readClass _ tokens
  | abstractWord => exact (leavesEnd_readClass _ _).trans (dropClassWord_suffix tokens)
  | enumWord => exact leavesEnd_readEnum tokens
  | relWord =>
    apply Reading.andThen_suffix (leavesEnd_expectToken _ _ tokens)
    exact fun _ tokens => leavesEnd_readBlock leavesEnd_readRelationship count tokens

/-! ## Results that have been read -/

theorem Reading.outcome_andThen_eq_ok {reading : Reading α} {next : α → Reader β} {result : β}
    (hok : (reading.andThen next).outcome = .ok result) :
    ∃ value, reading.outcome = .ok value ∧ (next value reading.rest).outcome = .ok result := by
  unfold Reading.andThen at hok
  split at hok
  · rename_i value hvalue
    exact ⟨value, hvalue, hok⟩
  · cases hok

theorem Reading.outcome_map_eq_ok {reading : Reading α} {f : α → β} {result : β}
    (hok : (reading.map f).outcome = .ok result) :
    ∃ value, reading.outcome = .ok value ∧ f value = result := by
  rw [Reading.map] at hok
  cases houtcome : reading.outcome with
  | error fault =>
    rw [houtcome] at hok
    cases hok
  | ok value =>
    rw [houtcome] at hok
    exact ⟨value, rfl, Except.ok.inj hok⟩

theorem eq_cons_of_readIdentifier {tokens : List Token} {name : String}
    (hok : (readIdentifier tokens).outcome = .ok name) :
    tokens = .identifier name :: (readIdentifier tokens).rest := by
  unfold readIdentifier at hok ⊢
  split at hok
  · cases hok
    rfl
  · cases hok

theorem eq_cons_of_expectToken {token : Token} {expected : String} {tokens : List Token}
    (hok : (expectToken token expected tokens).outcome = .ok ()) :
    tokens = token :: (expectToken token expected tokens).rest := by
  unfold expectToken at hok ⊢
  split at hok
  · cases hok
  · split at hok
    · rename_i first rest heq
      rw [heq, if_pos rfl]
      rfl
    · cases hok

end Notation

open Notation

/-- The element has been read from a block of the tokens: its members or its constants are those
that the reader of blocks gives behind the opening brace. -/
inductive Element.IsReadIn (tokens : List Token) : Element → Prop
  | classLike {name : String} {kind : ElementKind} {block : List Token} {members : List Member}
      (hkind : kind ≠ .enumKind) (hblock : .identifier name :: .leftBrace :: block <:+ tokens)
      (hmembers : (readBlock (fun _ => readMember) (fun _ => advances_readMember) 0 block).outcome =
        .ok members) :
      IsReadIn tokens
        { id := name
          className := name
          attributes := (members.filterMap Member.attribute?).map Attribute.text
          methods := (members.filterMap Member.method?).map Method.text
          kind }
  | enumeration {name : String} {block : List Token} {constants : List String}
      (hblock : .identifier name :: .leftBrace :: block <:+ tokens)
      (hconstants : (readBlock (fun _ => readIdentifier) (fun _ => advances_readIdentifier) 0
        block).outcome = .ok constants) :
      IsReadIn tokens
        { id := name
          className := name
          attributes := constants
          methods := []
          kind := .enumKind }

theorem Element.IsReadIn.of_suffix {tokens whole : List Token} {element : Element}
    (hread : element.IsReadIn tokens) (hsuffix : tokens <:+ whole) : element.IsReadIn whole := by
  cases hread with
  | classLike hkind hblock hmembers => exact .classLike hkind (hblock.trans hsuffix) hmembers
  | enumeration hblock hconstants => exact .enumeration (hblock.trans hsuffix) hconstants

namespace Notation

/-- An element begins with its name and an opening brace. -/
theorem exists_block {tokens : List Token} {α : Type} {next : String → Reader α} {result : α}
    (hok : ((readIdentifier tokens).andThen fun name tokens =>
      (readOpeningBrace tokens).andThen fun _ => next name).outcome = .ok result) :
    ∃ name block, tokens = .identifier name :: .leftBrace :: block ∧
      (next name block).outcome = .ok result := by
  obtain ⟨name, hname, hrest⟩ := Reading.outcome_andThen_eq_ok hok
  obtain ⟨_, hbrace, hnext⟩ := Reading.outcome_andThen_eq_ok hrest
  refine ⟨name, _, ?_, hnext⟩
  rw [readOpeningBrace, ← eq_cons_of_expectToken hbrace]
  exact eq_cons_of_readIdentifier hname

theorem isReadIn_of_readClass {kind : ElementKind} (hkind : kind ≠ .enumKind)
    {tokens : List Token} {element : Element}
    (hok : (readClass kind tokens).outcome = .ok element) : element.IsReadIn tokens := by
  obtain ⟨name, block, rfl, hblock⟩ := exists_block hok
  obtain ⟨members, hmembers, rfl⟩ := Reading.outcome_map_eq_ok hblock
  exact .classLike hkind List.suffix_rfl hmembers

theorem isReadIn_of_readEnum {tokens : List Token} {element : Element}
    (hok : (readEnum tokens).outcome = .ok element) : element.IsReadIn tokens := by
  obtain ⟨name, block, rfl, hblock⟩ := exists_block hok
  obtain ⟨constants, hconstants, rfl⟩ := Reading.outcome_map_eq_ok hblock
  exact .enumeration List.suffix_rfl hconstants

theorem isReadIn_of_readEntry {count : Nat} {keyword : Keyword} {tokens : List Token}
    {element : Element} (hok : (readEntry count keyword tokens).outcome = .ok (.element element)) :
    element.IsReadIn tokens := by
  cases keyword with
  | classWord | interfaceWord =>
    obtain ⟨read, hread, heq⟩ := Reading.outcome_map_eq_ok hok
    cases heq
    exact isReadIn_of_readClass (by decide) hread
  | abstractWord =>
    obtain ⟨read, hread, heq⟩ := Reading.outcome_map_eq_ok hok
    cases heq
    exact (isReadIn_of_readClass (by decide) hread).of_suffix (dropClassWord_suffix tokens)
  | enumWord =>
    obtain ⟨read, hread, heq⟩ := Reading.outcome_map_eq_ok hok
    cases heq
    exact isReadIn_of_readEnum hread
  | relWord =>
    obtain ⟨-, -, hblock⟩ := Reading.outcome_andThen_eq_ok hok
    obtain ⟨relationships, -, heq⟩ := Reading.outcome_map_eq_ok hblock
    cases heq

/-- Each element was there before or has been read in the tokens. -/
theorem isReadIn_of_readEntries {whole : List Token} {soFar diagram : Diagram} {tokens : List Token}
    (hok : (readEntries soFar tokens).outcome = .ok diagram) (hsuffix : tokens <:+ whole)
    (hsoFar : ∀ element ∈ soFar.elements, element.IsReadIn whole) :
    ∀ element ∈ diagram.elements, element.IsReadIn whole := by
  fun_induction readEntries soFar tokens with
  | case1 soFar =>
    cases hok
    exact hsoFar
  | case2 => cases hok
  | case3 => cases hok
  | case4 soFar token rest keyword _ count entry hentry ih =>
    have hrest : rest <:+ whole := (List.suffix_cons token rest).trans hsuffix
    apply ih hok ((leavesEnd_readEntry count keyword rest).trans hrest)
    cases entry with
    | relationships => exact hsoFar
    | element added =>
      have hadded := (isReadIn_of_readEntry hentry).of_suffix hrest
      exact List.forall_mem_append.2 ⟨hsoFar, List.forall_mem_singleton.2 hadded⟩

end Notation

/-- Each element of the diagram of a text has been read in the tokens of the text. -/
theorem Diagram.isReadIn_of_ofNotation {text : String} {diagram : Diagram}
    (hread : Diagram.ofNotation text = .ok diagram) :
    ∃ tokens, Notation.tokens text = .ok tokens ∧
      ∀ element ∈ diagram.elements, element.IsReadIn tokens := by
  rw [ofNotation] at hread
  split at hread
  · cases hread
  · rename_i tokens htokens
    exact ⟨tokens, htokens,
      isReadIn_of_readEntries hread List.suffix_rfl (List.forall_mem_nil _)⟩

end ClassDiagram
