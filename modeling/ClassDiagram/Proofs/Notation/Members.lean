import ClassDiagram.Notation.Diagram
import ClassDiagram.Proofs.Notation.Types

/-!
# Members in the notation

Attributes, methods and constants, as they stand in the block of an element.
-/

namespace ClassDiagram

open Notation

/-- The parameter can be written in the notation. -/
structure Parameter.HasNotation (parameter : Parameter) : Prop where
  name : IsName parameter.name
  type : IsTypeText parameter.typeToken

structure Attribute.HasNotation (declared : Attribute) : Prop where
  name : IsName declared.name
  type : IsTypeText declared.typeToken

structure Method.HasNotation (declared : Method) : Prop where
  name : IsName declared.name
  parameters : ∀ parameter ∈ declared.parameters, parameter.HasNotation
  result : ∀ typeToken ∈ declared.returnType, IsTypeText typeToken

namespace Notation

def Member.HasNotation : Member → Prop
  | .attribute declared => declared.HasNotation
  | .method declared => declared.HasNotation

def Member.text : Member → String
  | .attribute declared => declared.text
  | .method declared => declared.text

theorem Member.HasNotation.of_attribute? : ∀ {member : Member} {declared : Attribute},
    member.HasNotation → member.attribute? = some declared → declared.HasNotation
  | .attribute _, _, hmember, hsome => Option.some.inj hsome ▸ hmember

theorem Member.HasNotation.of_method? : ∀ {member : Member} {declared : Method},
    member.HasNotation → member.method? = some declared → declared.HasNotation
  | .method _, _, hmember, hsome => Option.some.inj hsome ▸ hmember

/-! ## What is read -/

theorem yields_readOptionalMark : Yields readOptionalMark fun _ => True := by
  intro tokens hspellable
  unfold readOptionalMark
  split
  · exact yields_done trivial _ hspellable.tail
  · exact yields_done trivial _ hspellable

theorem yields_readResult :
    Yields readResult fun result => ∀ typeToken ∈ result, IsTypeText typeToken := by
  intro tokens hspellable
  unfold readResult
  split
  · apply (yields_readType _ hspellable.tail).map
    intro typeToken htype other hother
    exact Option.some.inj hother ▸ htype
  · exact yields_done (by simp) _ hspellable

theorem yields_readParameters :
    Yields readParameters fun parameters =>
      ∀ parameter ∈ parameters, parameter.HasNotation := by
  intro tokens hspellable
  fun_induction readParameters tokens with
  | case1 rest => exact yields_done (List.forall_mem_nil _) _ hspellable.tail
  | case2 name rest reading fault houtcome =>
    exact gives_error (yields_readType rest hspellable.tail.tail).rest
  | case3 name rest reading typeToken houtcome parameter others hrest hshorter ih =>
    have hreading := yields_readType rest hspellable.tail.tail
    have hothers : Spellable (.comma :: others) := hrest ▸ hreading.rest
    apply (ih hothers.tail).map
    intro parameters hparameters
    exact List.forall_mem_cons.2
      ⟨⟨(spellable_cons.1 hspellable).1, hreading.value _ houtcome⟩, hparameters⟩
  | case4 name rest reading typeToken houtcome parameter others hrest =>
    have hreading := yields_readType rest hspellable.tail.tail
    have hothers : Spellable (.rightParen :: others) := hrest ▸ hreading.rest
    apply yields_done _ _ hothers.tail
    exact List.forall_mem_singleton.2
      ⟨(spellable_cons.1 hspellable).1, hreading.value _ houtcome⟩
  | case5 name rest reading typeToken houtcome parameter others =>
    exact yields_failAfter _ _ (yields_readType rest hspellable.tail.tail).rest
  | case6 name rest => exact yields_failAfter _ _ hspellable.tail
  | case7 tokens => exact yields_failAfter _ _ hspellable

theorem yields_readMember : Yields readMember Member.HasNotation := by
  intro tokens hspellable
  unfold readMember
  split
  · rename_i name rest
    have hname : IsName name := (spellable_cons.1 hspellable).1
    apply (yields_readType _ hspellable.tail.tail).andThen
    intro typeToken htype tokens hspellable
    apply (yields_readOptionalMark tokens hspellable).map
    exact fun _ _ => ⟨hname, htype⟩
  · rename_i name rest
    have hname : IsName name := (spellable_cons.1 hspellable).1
    apply (yields_readParameters _ hspellable.tail.tail).andThen
    intro parameters hparameters tokens hspellable
    apply (yields_readResult tokens hspellable).map
    exact fun _ hresult => ⟨hname, hparameters, hresult⟩
  · exact yields_failBefore _ _ hspellable.tail
  · exact yields_failAfter _ _ hspellable

/-! ## What is read back -/

theorem EndsType.of_ne {token : Token} (hdot : token ≠ .dot) (hless : token ≠ .less)
    (rest : List Token) : EndsType (token :: rest) := by
  intro first hfirst
  obtain rfl := Option.some.inj hfirst
  exact ⟨hdot, hless⟩

theorem BeginsItem.endsType {rest : List Token} (hrest : BeginsItem rest) : EndsType rest := by
  intro token htoken
  cases rest with
  | nil => cases htoken
  | cons first others =>
    obtain rfl := Option.some.inj htoken
    cases first with
    | identifier | rightBrace => exact ⟨nofun, nofun⟩
    | _ => exact hrest.elim

/-- A name and its type are spelled alike in attributes and in parameters. -/
theorem readsBack_typed {name typeToken : String} (hname : IsName name)
    (htype : IsTypeText typeToken) :
    ∃ tokens, Spells (name ++ ": " ++ typeToken) (.identifier name :: .colon :: tokens) ∧
      ∀ rest, EndsType rest → readType .nameDue 0 "" (tokens ++ rest) = done typeToken rest := by
  obtain ⟨tokens, hspells, hread⟩ := htype.readsBack
  have hcolon := (spells_identifier hname).append_delimits rfl (by decide) delimits_colon
  exact ⟨tokens, hcolon.append_spells hspells, hread⟩

/-- Behind the type of a parameter another one is read, or the list ends. -/
theorem readParameters_of_type (name : String) {typeToken : String} {tokens rest : List Token}
    (htype : readType .nameDue 0 "" tokens = done typeToken rest) :
    readParameters (.identifier name :: .colon :: tokens) =
      match rest with
      | .comma :: others =>
        (readParameters others).map fun parameters => { name, typeToken } :: parameters
      | .rightParen :: others => done [{ name, typeToken }] others
      | others => failAfter "')'" others := by
  have houtcome := congrArg Reading.outcome htype
  have hrest := congrArg Reading.rest htype
  simp only [done] at houtcome hrest
  rw [readParameters]
  simp only [houtcome]
  split
  · rename_i heq
    cases heq.symm.trans hrest
    rfl
  · rename_i heq
    cases heq.symm.trans hrest
    rfl
  · rename_i hcomma hparen
    rw [hrest] at hcomma hparen ⊢
    split
    · exact absurd rfl (hcomma _)
    · exact absurd rfl (hparen _)
    · rfl

theorem delimits_rightParen : Delimits ")" [.rightParen] := delimits_mark rfl rfl

theorem readsBack_parameters {parameters : List Parameter}
    (hparameters : ∀ parameter ∈ parameters, parameter.HasNotation) :
    ∃ tokens, Delimits (String.intercalate ", " (parameters.map Parameter.text) ++ ")") tokens ∧
      ∀ rest, readParameters (tokens ++ rest) = done parameters rest := by
  induction parameters with
  | nil =>
    refine ⟨[.rightParen], delimits_rightParen, fun rest => ?_⟩
    rw [List.singleton_append, readParameters]
  | cons parameter others ih =>
    rw [List.forall_mem_cons] at hparameters
    obtain ⟨front, hspells, hread⟩ :=
      readsBack_typed hparameters.1.name hparameters.1.type
    obtain ⟨tokens, hdelimits, hothers⟩ := ih hparameters.2
    cases others with
    | nil =>
      refine ⟨_, hspells.append_delimits rfl (by decide) delimits_rightParen,
        fun rest => ?_⟩
      have htype := hread (.rightParen :: rest) (.of_ne (by decide) (by decide) _)
      simpa using readParameters_of_type parameter.name htype
    | cons second more =>
      have hcomma := hspells.append_delimits rfl (by decide) delimits_comma
      refine ⟨.identifier parameter.name :: .colon :: front ++ [Token.comma] ++ tokens, ?_,
        fun rest => ?_⟩
      · rw [List.map_cons, List.map_cons, String.intercalate_cons_cons, String.append_assoc]
        exact hcomma.append hdelimits
      · have htype := hread (.comma :: (tokens ++ rest)) (.of_ne (by decide) (by decide) _)
        have hall := readParameters_of_type parameter.name htype
        simpa [hothers, Reading.map, done] using hall

theorem delimits_leftParen : Delimits "(" [.leftParen] := delimits_mark rfl rfl

theorem delimits_question : Delimits "?" [.question] := delimits_mark rfl rfl

theorem readOptionalMark_of_beginsItem {rest : List Token} (hrest : BeginsItem rest) :
    readOptionalMark rest = done false rest := by
  unfold readOptionalMark
  split
  · exact hrest.elim
  · rfl

theorem readResult_of_beginsItem {rest : List Token} (hrest : BeginsItem rest) :
    readResult rest = done none rest := by
  unfold readResult
  split
  · exact hrest.elim
  · rfl

theorem readsLine_attribute {declared : Attribute} (hdeclared : declared.HasNotation) :
    ReadsLine readMember (.attribute declared) declared.text := by
  obtain ⟨name, typeToken, optional⟩ := declared
  obtain ⟨tokens, hspells, hread⟩ := readsBack_typed hdeclared.name hdeclared.type
  cases optional with
  | false =>
    refine ⟨name, .colon :: tokens, [], ?_, nofun, fun rest hrest => ?_⟩
    · simpa [Attribute.text] using hspells
    · have htype := hread rest hrest.endsType
      simp [readMember, htype, Reading.andThen, done, readOptionalMark_of_beginsItem hrest,
        Reading.map]
  | true =>
    have hmark := hspells.append_delimits rfl (by decide) delimits_question
    refine ⟨name, .colon :: tokens ++ [.question], [], ?_, nofun, fun rest hrest => ?_⟩
    · simpa [Attribute.text] using hmark.spells
    · have htype := hread (.question :: rest) (.of_ne (by decide) (by decide) _)
      simp [readMember, htype, Reading.andThen, done, readOptionalMark, Reading.map]

theorem readsLine_method {declared : Method} (hdeclared : declared.HasNotation) :
    ReadsLine readMember (.method declared) declared.text := by
  obtain ⟨name, parameters, returnType⟩ := declared
  obtain ⟨tokens, hdelimits, hread⟩ := readsBack_parameters hdeclared.parameters
  have hhead := ((spells_identifier hdeclared.name).append_delimits rfl (by decide)
    delimits_leftParen).append hdelimits
  cases returnType with
  | none =>
    refine ⟨name, .leftParen :: tokens, [], ?_, nofun, fun rest hrest => ?_⟩
    · simpa [Method.text, String.append_assoc] using hhead.spells
    · simp [readMember, hread, Reading.andThen, done, readResult_of_beginsItem hrest, Reading.map]
  | some typeToken =>
    obtain ⟨result, hspells, htype⟩ := (hdeclared.result typeToken rfl).readsBack
    have hresult := hhead.append_spells (delimits_colon.append_spells hspells)
    refine ⟨name, .leftParen :: tokens ++ .colon :: result, [], ?_, nofun, fun rest hrest => ?_⟩
    · simpa [Method.text, String.append_assoc] using hresult
    · simp [readMember, hread, Reading.andThen, done, readResult, htype rest hrest.endsType,
        Reading.map]

/-- The constants of an enumeration stand in lines of their own. -/
theorem readsLine_identifier {name : String} (hname : IsName name) :
    ReadsLine readIdentifier name name :=
  ⟨name, [], [], spells_identifier hname, nofun, fun _ _ => rfl⟩

end Notation

end ClassDiagram
