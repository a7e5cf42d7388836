import ClassDiagram.Notation.Member
import ClassDiagram.Proofs.Notation.Readings

/-!
# Types in the notation

The grammar of types, as a relation between the tokens that the reader of types may still take and
the text that they add. A type that has been read belongs to the grammar; what belongs to it is
spelled by its text, and is read back where no dot and no bracket goes on with it.
-/

namespace ClassDiagram.Notation

/-- In the given state, with so many brackets open, the tokens complete a type and add the text. -/
inductive CompletesType : TypeState → Nat → List Token → String → Prop
  | ended {state : TypeState} (hstate : state ≠ .nameDue) : CompletesType state 0 [] ""
  | name {depth : Nat} {tokens : List Token} {name text : String} (hname : IsName name)
      (hmore : CompletesType .named depth tokens text) :
      CompletesType .nameDue depth (.identifier name :: tokens) (name ++ text)
  | dot {depth : Nat} {tokens : List Token} {text : String}
      (hmore : CompletesType .nameDue depth tokens text) :
      CompletesType .named depth (.dot :: tokens) ("." ++ text)
  | less {depth : Nat} {tokens : List Token} {text : String}
      (hmore : CompletesType .nameDue (depth + 1) tokens text) :
      CompletesType .named depth (.less :: tokens) ("<" ++ text)
  | comma {state : TypeState} {depth : Nat} {tokens : List Token} {text : String}
      (hstate : state ≠ .nameDue) (hmore : CompletesType .nameDue (depth + 1) tokens text) :
      CompletesType state (depth + 1) (.comma :: tokens) (", " ++ text)
  | greater {state : TypeState} {depth : Nat} {tokens : List Token} {text : String}
      (hstate : state ≠ .nameDue) (hmore : CompletesType .closed depth tokens text) :
      CompletesType state (depth + 1) (.greater :: tokens) (">" ++ text)

/-- The text of a whole type. -/
def IsTypeText (text : String) : Prop :=
  ∃ tokens, CompletesType .nameDue 0 tokens text

/-! ## What is read -/

/-- A token that adds a piece of text is the first of those that complete the type. -/
theorem Reading.Gives.completes {reading : Reading String} {state next : TypeState}
    {depth further : Nat} {text piece : String} {token : Token}
    (hreading : reading.Gives fun result =>
      ∃ read more, CompletesType next further read more ∧ text ++ piece ++ more = result)
    (hstep : ∀ read more, CompletesType next further read more →
      CompletesType state depth (token :: read) (piece ++ more)) :
    reading.Gives fun result =>
      ∃ read more, CompletesType state depth read more ∧ text ++ more = result := by
  apply hreading.imp
  rintro result ⟨read, more, hcompletes, rfl⟩
  exact ⟨token :: read, piece ++ more, hstep read more hcompletes, by rw [String.append_assoc]⟩

theorem gives_readType (state : TypeState) (depth : Nat) (text : String) {tokens : List Token}
    (hspellable : Spellable tokens) :
    (readType state depth text tokens).Gives fun result =>
      ∃ read more, CompletesType state depth read more ∧ text ++ more = result := by
  fun_induction readType state depth text tokens with
  | case1 depth text => exact yields_failAfter _ _ hspellable
  | case2 state text hstate =>
    exact yields_done ⟨[], "", .ended hstate, String.append_empty⟩ _ hspellable
  | case3 state text depth hstate => exact yields_failAfter _ _ hspellable
  | case4 depth text rest name ih =>
    rw [spellable_cons] at hspellable
    exact (ih hspellable.2).completes fun _ _ => .name hspellable.1
  | case5 depth text token rest _ => exact yields_failAfter _ _ hspellable
  | case6 depth text rest ih => exact (ih hspellable.tail).completes fun _ _ => .dot
  | case7 depth text rest ih => exact (ih hspellable.tail).completes fun _ _ => .less
  | case8 state text token rest hstate _ _ _ =>
    exact yields_done ⟨[], "", .ended hstate, String.append_empty⟩ _ hspellable
  | case9 state text rest depth hstate ih =>
    exact (ih hspellable.tail).completes fun _ _ => .comma hstate
  | case10 state text rest depth hstate ih =>
    exact (ih hspellable.tail).completes fun _ _ => .greater hstate
  | case11 state text token rest depth _ _ _ _ _ _ => exact yields_failAfter _ _ hspellable

theorem yields_readType : Yields (readType .nameDue 0 "") IsTypeText := by
  intro tokens hspellable
  apply (gives_readType .nameDue 0 "" hspellable).imp
  rintro result ⟨read, more, hcompletes, rfl⟩
  rw [String.empty_append]
  exact ⟨read, hcompletes⟩

/-! ## What is spelled -/

theorem breaks_toList_append {front text : String} {c : Char} {more : List Char}
    (hfront : front.toList = c :: more) (hends : endsWord c = true) :
    Breaks (front ++ text).toList := by
  rw [String.toList_append, hfront]
  exact breaks_cons_iff.2 (continuesIdentifier_of_endsWord hends)

/-- Behind a name stands nothing that goes on with it. -/
theorem CompletesType.breaks {state : TypeState} {depth : Nat} {tokens : List Token}
    {text : String} (hcompletes : CompletesType state depth tokens text)
    (hstate : state ≠ .nameDue) : Breaks text.toList := by
  cases hcompletes with
  | ended => exact breaks_nil
  | name => exact absurd rfl hstate
  | dot | less | comma | greater => exact breaks_toList_append rfl (by decide)

theorem CompletesType.head?_ne_dot {depth : Nat} {tokens : List Token} {text : String}
    (hcompletes : CompletesType .nameDue depth tokens text) (rest : List Char) :
    (text.toList ++ rest).head? ≠ some '.' := by
  cases hcompletes with
  | ended hstate => exact absurd rfl hstate
  | comma hstate => exact absurd rfl hstate
  | greater hstate => exact absurd rfl hstate
  | @name _ _ name text hname =>
    rw [String.toList_append, List.append_assoc]
    rw [IsName] at hname
    cases hchars : name.toList with
    | nil =>
      rw [hchars] at hname
      cases hname
    | cons c more =>
      rw [hchars, isIdentifier, Bool.and_eq_true] at hname
      have hdot := (opensWord_of_continues (continuesIdentifier_of_starts hname.1)).2.2.1
      simpa using hdot

theorem CompletesType.spells {state : TypeState} {depth : Nat} {tokens : List Token}
    {text : String} (hcompletes : CompletesType state depth tokens text) : Spells text tokens := by
  induction hcompletes with
  | ended => exact delimits_empty.spells
  | name hname hmore ih =>
    exact (spells_identifier hname).append (hmore.breaks (by decide)) ih
  | dot hmore ih =>
    intro rest others hbreaks hrest
    rw [String.toList_append]
    exact (ih rest others hbreaks hrest).dot (hmore.head?_ne_dot rest)
  | less hmore ih => exact (delimits_mark rfl rfl).append_spells ih
  | comma hstate hmore ih => exact delimits_comma.append_spells ih
  | greater hstate hmore ih => exact (delimits_mark rfl rfl).append_spells ih

/-! ## What is read back -/

/-- Nothing follows that goes on with a type. -/
def EndsType (rest : List Token) : Prop :=
  ∀ token ∈ rest.head?, token ≠ .dot ∧ token ≠ .less

theorem readType_ended {state : TypeState} (hstate : state ≠ .nameDue) (text : String)
    {rest : List Token} (hrest : EndsType rest) : readType state 0 text rest = done text rest := by
  cases rest with
  | nil =>
    cases state with
    | nameDue => exact absurd rfl hstate
    | named | closed => rfl
  | cons token rest =>
    have hends := hrest token rfl
    cases state with
    | nameDue => exact absurd rfl hstate
    | named =>
      cases token with
      | dot => exact absurd rfl hends.1
      | less => exact absurd rfl hends.2
      | _ => rfl
    | closed => cases token <;> rfl

theorem CompletesType.readType_eq {state : TypeState} {depth : Nat} {tokens : List Token}
    {more : String} (hcompletes : CompletesType state depth tokens more) (text : String)
    {rest : List Token} (hrest : EndsType rest) :
    readType state depth text (tokens ++ rest) = done (text ++ more) rest := by
  induction hcompletes generalizing text with
  | ended hstate =>
    rw [String.append_empty]
    exact readType_ended hstate text hrest
  | name _ _ ih | dot _ ih | less _ ih =>
    rw [← String.append_assoc, ← ih]
    rfl
  | @comma state _ _ _ hstate hmore ih | @greater state _ _ _ hstate hmore ih =>
    rw [← String.append_assoc, ← ih]
    cases state with
    | nameDue => exact absurd rfl hstate
    | named | closed => rfl

theorem IsTypeText.readsBack {text : String} (htype : IsTypeText text) :
    ∃ tokens, Spells text tokens ∧
      ∀ rest, EndsType rest → readType .nameDue 0 "" (tokens ++ rest) = done text rest := by
  obtain ⟨tokens, hcompletes⟩ := htype
  refine ⟨tokens, hcompletes.spells, fun rest hrest => ?_⟩
  rw [hcompletes.readType_eq "" hrest, String.empty_append]

end ClassDiagram.Notation
