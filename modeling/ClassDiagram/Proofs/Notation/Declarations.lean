import ClassDiagram.Proofs.Notation.Members
import ClassDiagram.Proofs.Outcomes
import ClassDiagram.Proofs.Text.Trimming

/-!
# Declarations read back

The text of a member of the notation, read as a declaration, gives the member again: the same name,
the same types, the same question mark. There is one exception. A name may begin with a dollar sign,
but a type of a declaration may not, so the declaration is refused if a type begins with one.
-/

namespace ClassDiagram

open Text Notation

def opensWithDollar (typeToken : String) : Bool :=
  typeToken.toList.head? == some '$'

/-- What is read, unless one of the types opens with a dollar sign. -/
def unlessDollar {α : Type} (typeTokens : List String) (value : α) : Except DeclarationFault α :=
  match typeTokens.find? opensWithDollar with
  | some typeToken => .error (.invalidType typeToken)
  | none => .ok value

theorem unlessDollar_singleton {α : Type} (typeToken : String) (value : α) :
    unlessDollar [typeToken] value =
      if opensWithDollar typeToken then .error (.invalidType typeToken) else .ok value := by
  rw [unlessDollar, List.find?_singleton]
  cases opensWithDollar typeToken <;> rfl

/-- The types of two steps are looked at one after the other. -/
theorem unlessDollar_bind {α β : Type} (typeTokens others : List String) (value : α)
    (next : α → β) :
    ((unlessDollar typeTokens value).bind fun value => unlessDollar others (next value)) =
      unlessDollar (typeTokens ++ others) (next value) := by
  simp only [unlessDollar, List.find?_append]
  cases typeTokens.find? opensWithDollar <;> rfl

theorem unlessDollar_map {α β : Type} (typeTokens : List String) (value : α) (next : α → β) :
    (unlessDollar typeTokens value).map next = unlessDollar typeTokens (next value) := by
  simp only [unlessDollar]
  cases typeTokens.find? opensWithDollar <;> rfl

/-! ## Names -/

section Name

variable {name : String} (hname : IsName name)

include hname

theorem Notation.IsName.exists_first : ∃ c rest, name.toList = c :: rest ∧
    startsIdentifier c = true ∧ ∀ c ∈ rest, continuesIdentifier c = true := by
  rw [IsName] at hname
  cases hchars : name.toList with
  | nil =>
    rw [hchars] at hname
    cases hname
  | cons c rest =>
    rw [hchars, isIdentifier, Bool.and_eq_true, List.all_eq_true] at hname
    exact ⟨c, rest, rfl, hname⟩

theorem Notation.IsName.continues : ∀ c ∈ name.toList, continuesIdentifier c = true := by
  obtain ⟨c, rest, heq, hstarts, hrest⟩ := hname.exists_first
  rw [heq, List.forall_mem_cons]
  exact ⟨continuesIdentifier_of_starts hstarts, hrest⟩

theorem Notation.IsName.not_mem {mark : Char} (hends : endsWord mark = true) :
    mark ∉ name.toList := by
  exact fun hmem => ne_of_continues (hname.continues mark hmem) hends rfl

/-- A name has none of the characters at which parameters are cut. -/
theorem Notation.IsName.ne_bracket : ∀ c ∈ name.toList, c ≠ '<' ∧ c ≠ '>' ∧ c ≠ ',' := by
  intro c hc
  have hcontinues := hname.continues c hc
  exact ⟨ne_of_continues hcontinues (by decide), ne_of_continues hcontinues (by decide),
    ne_of_continues hcontinues (by decide)⟩

theorem Notation.IsName.hasVisibleEnds : HasVisibleEnds name.toList := by
  obtain ⟨c, rest, heq, -⟩ := hname.exists_first
  have hvisible : ∀ c ∈ name.toList, isBlank c = false :=
    fun c hmem => isBlank_of_continues (hname.continues c hmem)
  constructor
  · exact ⟨c, by rw [heq]; rfl, hvisible c (heq ▸ List.mem_cons_self)⟩
  · have hlast := List.getLast?_eq_some_getLast (heq ▸ List.cons_ne_nil c rest)
    exact ⟨_, hlast, hvisible _ (List.getLast_mem _)⟩

theorem Notation.IsName.readName_eq : readName name.toList = .ok name := by
  have hends := hname.hasVisibleEnds
  have hnonempty : name.toList.isEmpty = false := List.isEmpty_eq_false_iff.2 hends.ne_nil
  have hidentifier : isIdentifier name.toList = true := hname
  simp only [readName, hends.trim_eq, hnonempty, hidentifier, if_true, Bool.false_eq_true, if_false,
    String.ofList_toList]

/-- The text that opens with a name has no visibility mark. -/
theorem declarationBody_eq {text : String} {rest : List Char}
    (htext : text.toList = name.toList ++ rest) (hends : HasVisibleEnds text.toList) :
    declarationBody text = text.toList := by
  obtain ⟨c, others, heq, hstarts, -⟩ := hname.exists_first
  have hmark : isVisibilityMark c = false := by
    have hcontinues := continuesIdentifier_of_starts hstarts
    have hne : ∀ other, endsWord other = true → (c == other) = false :=
      fun other hother => beq_false_of_ne (ne_of_continues hcontinues hother)
    rw [isVisibilityMark, hne '+' (by decide), hne '-' (by decide), hne '#' (by decide),
      hne '~' (by decide)]
    rfl
  rw [declarationBody, hends.trim_eq, htext, heq, List.cons_append]
  simp only [hmark, Bool.false_eq_true, if_false]

end Name

/-! ## Types -/

theorem isBracketed_append {front : List Char}
    (hfront : ∀ c ∈ front, continuesIdentifier c = true) (depth : Nat) (rest : List Char) :
    isBracketed depth (front ++ rest) = isBracketed depth rest := by
  induction front with
  | nil => rfl
  | cons c more ih =>
    rw [List.forall_mem_cons] at hfront
    have htype : isTypeChar c = true := by rw [isTypeChar, hfront.1, Bool.or_true]
    have hless : c ≠ '<' := ne_of_continues hfront.1 (by decide)
    have hgreater : c ≠ '>' := ne_of_continues hfront.1 (by decide)
    simp only [List.cons_append, isBracketed, if_neg hless, if_neg hgreater, htype, Bool.true_and,
      ih hfront.2]

theorem isTypeChar_of_isBracketed {cs : List Char} {depth : Nat}
    (hbracketed : isBracketed depth cs = true) :
    ∀ c ∈ cs, isTypeChar c = true ∨ c = '<' ∨ c = '>' := by
  induction cs generalizing depth with
  | nil => exact List.forall_mem_nil _
  | cons c rest ih =>
    simp only [isBracketed] at hbracketed
    rw [List.forall_mem_cons]
    split_ifs at hbracketed with hless hgreater
    · exact ⟨.inr (.inl hless), ih hbracketed⟩
    · cases depth with
      | zero => cases hbracketed
      | succ outer => exact ⟨.inr (.inr hgreater), ih hbracketed⟩
    · rw [Bool.and_eq_true] at hbracketed
      exact ⟨.inl hbracketed.1, ih hbracketed.2⟩

theorem not_mem_of_isBracketed {cs : List Char} {depth : Nat}
    (hbracketed : isBracketed depth cs = true) {mark : Char} (hends : endsWord mark = true)
    (hother : mark ∉ ['[', ']', '.', ',', ' ', '<', '>']) : mark ∉ cs := by
  intro hmem
  have hmark := isTypeChar_of_isBracketed hbracketed mark hmem
  apply hother
  simpa [isTypeChar, continuesIdentifier_of_endsWord hends, or_assoc] using hmark

theorem splitParameters_append {front : List Char}
    (hfront : ∀ c ∈ front, c ≠ '<' ∧ c ≠ '>' ∧ c ≠ ',') (depth : Int)
    (current rest : List Char) :
    splitParameters depth current (front ++ rest) =
      splitParameters depth (current ++ front) rest := by
  induction front generalizing current with
  | nil => rw [List.nil_append, List.append_nil]
  | cons c more ih =>
    rw [List.forall_mem_cons] at hfront
    obtain ⟨⟨hless, hgreater, hcomma⟩, hmore⟩ := hfront
    rw [List.cons_append, splitParameters, if_neg hless, if_neg hgreater,
      if_neg fun hboth => hcomma hboth.1, ih hmore, List.append_assoc, List.singleton_append]

namespace Notation

section Completes

variable {state : TypeState} {depth : Nat} {tokens : List Token} {text : String}

theorem CompletesType.isBracketed_eq (hcompletes : CompletesType state depth tokens text) :
    isBracketed depth text.toList = true := by
  induction hcompletes with
  | ended => rfl
  | name hname _ ih =>
    rw [String.toList_append, isBracketed_append hname.continues, ih]
  | dot _ ih => simpa [isBracketed, isTypeChar] using ih
  | less _ ih => simpa [isBracketed] using ih
  | comma _ _ ih => simpa [isBracketed, isTypeChar] using ih
  | greater _ _ ih => simpa [isBracketed] using ih

/-- A type ends with a character of a word or with a bracket. -/
theorem CompletesType.getLast?_cases (hcompletes : CompletesType state depth tokens text) :
    (state = .nameDue → text.toList ≠ []) ∧
      ∀ c ∈ text.toList.getLast?, continuesIdentifier c = true ∨ c = '>' := by
  have hpiece : ∀ piece more : String, more.toList ≠ [] →
      (piece ++ more).toList.getLast? = more.toList.getLast? := by
    intro piece more hmore
    rw [String.toList_append, List.getLast?_append_of_ne_nil _ hmore]
  induction hcompletes with
  | ended hstate => exact ⟨fun heq => absurd heq hstate, nofun⟩
  | @name depth tokens name text hname _ ih =>
    rw [String.toList_append]
    refine ⟨fun _ => List.append_ne_nil_of_left_ne_nil hname.hasVisibleEnds.ne_nil _,
      fun c hc => ?_⟩
    rw [Option.mem_def, List.getLast?_append, Option.or_eq_some_iff] at hc
    rcases hc with hmore | ⟨-, hlast⟩
    · exact ih.2 c hmore
    · exact .inl (hname.continues c (List.mem_of_getLast? hlast))
  | dot _ ih | less _ ih =>
    refine ⟨nofun, ?_⟩
    rw [hpiece _ _ (ih.1 rfl)]
    exact ih.2
  | comma hstate _ ih =>
    refine ⟨fun heq => absurd heq hstate, ?_⟩
    rw [hpiece _ _ (ih.1 rfl)]
    exact ih.2
  | greater hstate _ ih =>
    refine ⟨fun heq => absurd heq hstate, fun c hc => ?_⟩
    rw [Option.mem_def, String.toList_append, List.getLast?_append, Option.or_eq_some_iff] at hc
    rcases hc with hmore | ⟨-, hlast⟩
    · exact ih.2 c hmore
    · exact .inr (Option.some.inj hlast).symm

/-- Within a type commas stand between brackets only. -/
theorem CompletesType.splitParameters_append (hcompletes : CompletesType state depth tokens text)
    (current rest : List Char) :
    splitParameters depth current (text.toList ++ rest) =
      splitParameters 0 (current ++ text.toList) rest := by
  induction hcompletes generalizing current with
  | ended => rw [String.toList_empty, List.nil_append, List.append_nil]; rfl
  | @name depth tokens name text hname _ ih =>
    rw [String.toList_append, List.append_assoc,
      ClassDiagram.splitParameters_append hname.ne_bracket, ih, List.append_assoc]
  | @dot depth tokens text _ ih =>
    have hstep := ih (current ++ ['.'])
    simpa [splitParameters] using hstep
  | @less depth tokens text _ ih =>
    have hstep := ih (current ++ ['<'])
    simpa [splitParameters] using hstep
  | @comma state depth tokens text _ _ ih =>
    have hstep := ih (current ++ [',', ' '])
    have hopen : (depth : Int) + 1 ≠ 0 := by omega
    simpa [splitParameters, hopen] using hstep
  | @greater state depth tokens text _ _ ih =>
    have hstep := ih (current ++ ['>'])
    simpa [splitParameters] using hstep

end Completes

section TypeText

variable {typeToken : String} (htype : IsTypeText typeToken)

include htype

theorem IsTypeText.exists_first : ∃ c rest, typeToken.toList = c :: rest ∧
    startsIdentifier c = true := by
  obtain ⟨tokens, hcompletes⟩ := htype
  cases hcompletes with
  | ended hstate => exact absurd rfl hstate
  | name hname =>
    obtain ⟨c, rest, heq, hstarts, -⟩ := hname.exists_first
    exact ⟨c, rest ++ _, by rw [String.toList_append, heq, List.cons_append], hstarts⟩

theorem IsTypeText.hasVisibleEnds : HasVisibleEnds typeToken.toList := by
  obtain ⟨c, rest, heq, hstarts⟩ := htype.exists_first
  obtain ⟨tokens, hcompletes⟩ := htype
  constructor
  · exact ⟨c, by rw [heq]; rfl, isBlank_of_continues (continuesIdentifier_of_starts hstarts)⟩
  · have hlast := List.getLast?_eq_some_getLast (heq ▸ List.cons_ne_nil c rest)
    refine ⟨_, hlast, ?_⟩
    rcases hcompletes.getLast?_cases.2 _ hlast with hcontinues | hgreater
    · exact isBlank_of_continues hcontinues
    · rw [hgreater]
      decide

theorem IsTypeText.not_mem {mark : Char} (hends : endsWord mark = true)
    (hother : mark ∉ ['[', ']', '.', ',', ' ', '<', '>']) : mark ∉ typeToken.toList := by
  obtain ⟨tokens, hcompletes⟩ := htype
  exact not_mem_of_isBracketed hcompletes.isBracketed_eq hends hother

/-- The declaration parser takes every type of the notation that opens with no dollar sign. -/
theorem IsTypeText.isTypeExpression_eq :
    isTypeExpression typeToken.toList = !opensWithDollar typeToken := by
  obtain ⟨c, rest, heq, hstarts⟩ := htype.exists_first
  obtain ⟨tokens, hcompletes⟩ := htype
  have hfirst : (isAlphabetic c || c == '_') = !(c == '$') := by
    by_cases hdollar : c = '$'
    · rw [hdollar, isAlphabetic_of_ascii (by decide)]
      decide
    · rw [startsIdentifier, beq_false_of_ne hdollar, Bool.or_false] at hstarts
      rw [hstarts, beq_false_of_ne hdollar]
      rfl
  rw [isTypeExpression, hcompletes.isBracketed_eq, Bool.true_and, opensWithDollar, heq,
    List.head?_cons, Option.any_some, hfirst]
  rfl

theorem IsTypeText.readTypeToken_eq :
    readTypeToken typeToken.toList = unlessDollar [typeToken] typeToken := by
  have hnonempty : typeToken.toList.isEmpty = false :=
    List.isEmpty_eq_false_iff.2 htype.hasVisibleEnds.ne_nil
  rw [readTypeToken, hnonempty, if_neg Bool.false_ne_true, htype.isTypeExpression_eq,
    String.ofList_toList, unlessDollar_singleton]
  cases opensWithDollar typeToken <;> rfl

end TypeText

end Notation

/-! ## Legible declarations -/

/-- The type is not cut when a declaration that ends with it is taken apart, and it is read unless
it opens with a dollar sign. -/
structure IsLegibleType (typeToken : String) : Prop where
  ends : HasVisibleEnds typeToken.toList
  unmarked : '?' ∉ typeToken.toList
  unclosed : ')' ∉ typeToken.toList
  read : readTypeToken typeToken.toList = unlessDollar [typeToken] typeToken

structure Attribute.IsLegible (declared : Attribute) : Prop where
  name : IsName declared.name
  type : IsLegibleType declared.typeToken

/-- Parameters are not cut within the type either. -/
structure Parameter.IsLegible (parameter : Parameter) : Prop where
  name : IsName parameter.name
  type : IsLegibleType parameter.typeToken
  whole : ∀ current rest : List Char,
    splitParameters 0 current (parameter.typeToken.toList ++ rest) =
      splitParameters 0 (current ++ parameter.typeToken.toList) rest

structure Method.IsLegible (declared : Method) : Prop where
  name : IsName declared.name
  parameters : ∀ parameter ∈ declared.parameters, parameter.IsLegible
  result : ∀ typeToken ∈ declared.returnType, IsLegibleType typeToken

theorem Notation.IsTypeText.isLegible {typeToken : String} (htype : IsTypeText typeToken) :
    IsLegibleType typeToken where
  ends := htype.hasVisibleEnds
  unmarked := htype.not_mem (by decide) (by decide)
  unclosed := htype.not_mem (by decide) (by decide)
  read := htype.readTypeToken_eq

theorem Parameter.HasNotation.isLegible {parameter : Parameter}
    (hparameter : parameter.HasNotation) : parameter.IsLegible := by
  obtain ⟨tokens, hcompletes⟩ := hparameter.type
  exact ⟨hparameter.name, hparameter.type.isLegible, hcompletes.splitParameters_append⟩

/-! ## Attributes and parameters -/

/-- A name and its type, as attributes and parameters have them. -/
def typedText (name : String) (written : List Char) : List Char :=
  name.toList ++ [':', ' '] ++ written

theorem readTypedName_typedText {name : String} (hname : IsName name) {written : List Char}
    (hwritten : HasVisibleEnds written) :
    readTypedName (typedText name written) = .ok (name, written) ∧
      readTypedName (' ' :: typedText name written) = .ok (name, written) := by
  have hcolon : ':' ∉ name.toList := hname.not_mem (by decide)
  have hspaced : ':' ∉ ' ' :: name.toList := by
    rw [List.mem_cons, not_or]
    exact ⟨by decide, hcolon⟩
  have htoken : trim (' ' :: written) = written := by
    rw [trim_cons_of_isBlank (by decide), hwritten.trim_eq]
  have hnonempty : written.isEmpty = false := List.isEmpty_eq_false_iff.2 hwritten.ne_nil
  have hread : readName (' ' :: name.toList) = .ok name := by
    rw [readName, trim_cons_of_isBlank (by decide)]
    exact hname.readName_eq
  constructor
  · have hsplit := splitFirst_append_cons hcolon (' ' :: written)
    simp only [readTypedName, typedText, List.append_assoc, List.cons_append, List.nil_append,
      hsplit, hname.readName_eq, htoken, hnonempty]
    rfl
  · have hsplit := splitFirst_append_cons hspaced (' ' :: written)
    simp only [readTypedName, typedText, List.append_assoc, List.cons_append, List.nil_append] at hsplit ⊢
    simp only [hsplit, hread, htoken, hnonempty]
    rfl

theorem hasVisibleEnds_typedText {name : String} (hname : IsName name) {written : List Char}
    (hwritten : HasVisibleEnds written) : HasVisibleEnds (typedText name written) :=
  hname.hasVisibleEnds.append hwritten [':', ' ']

/-- A type with what marks it as optional. -/
theorem splitOptional_written {typeToken : String} (htype : IsLegibleType typeToken)
    (optional : Bool) :
    splitOptional (typeToken.toList ++ if optional then ['?'] else []) =
      (typeToken.toList, optional) := by
  cases optional with
  | true =>
    obtain ⟨last, hlast, hvisible⟩ := htype.ends.last
    have htrimmed : trimEnd typeToken.toList = typeToken.toList :=
      trimEnd_eq_self fun c hc => Option.mem_unique hc hlast ▸ hvisible
    simp [splitOptional, htrimmed]
  | false =>
    have hmark : typeToken.toList.getLast? ≠ some '?' := fun hlast =>
      htype.unmarked (List.mem_of_getLast? hlast)
    simp [splitOptional, hmark]

theorem hasVisibleEnds_written {typeToken : String} (htype : IsLegibleType typeToken)
    (optional : Bool) :
    HasVisibleEnds (typeToken.toList ++ if optional then ['?'] else []) := by
  cases optional with
  | true =>
    have hmark : HasVisibleEnds ['?'] := .singleton (by decide)
    simpa using htype.ends.append hmark []
  | false => simpa using htype.ends

/-- The text of an attribute is read as this attribute, unless its type opens with a dollar sign. -/
theorem Attribute.IsLegible.read_text {declared : Attribute} (hdeclared : declared.IsLegible) :
    Attribute.read declared.text = unlessDollar [declared.typeToken] declared := by
  have hwritten := hasVisibleEnds_written hdeclared.type declared.optional
  have htext : declared.text.toList = typedText declared.name
      (declared.typeToken.toList ++ if declared.optional then ['?'] else []) := by
    cases hoptional : declared.optional <;> simp [Attribute.text, typedText, hoptional]
  have hbody : declarationBody declared.text = declared.text.toList := by
    apply declarationBody_eq hdeclared.name
    · rw [htext, typedText, List.append_assoc]
    · rw [htext]
      exact hasVisibleEnds_typedText hdeclared.name hwritten
  rw [← unlessDollar_map [declared.typeToken] declared.typeToken fun typeToken =>
    ({ declared with typeToken } : Attribute)]
  simp only [Attribute.read, hbody, htext, (readTypedName_typedText hdeclared.name hwritten).1,
    bind, Except.bind, splitOptional_written hdeclared.type, hdeclared.type.read]
  rfl

theorem Attribute.HasNotation.read_text {declared : Attribute} (hdeclared : declared.HasNotation) :
    Attribute.read declared.text = unlessDollar [declared.typeToken] declared :=
  Attribute.IsLegible.read_text ⟨hdeclared.name, hdeclared.type.isLegible⟩

theorem toList_text_parameter (parameter : Parameter) :
    parameter.text.toList = typedText parameter.name parameter.typeToken.toList := by
  simp [Parameter.text, typedText]

/-- A parameter is read alike with and without a space before it. -/
theorem Parameter.IsLegible.read_text {parameter : Parameter} (hparameter : parameter.IsLegible) :
    ∀ text, text = parameter.text.toList ∨ text = ' ' :: parameter.text.toList →
      Parameter.read text = unlessDollar [parameter.typeToken] parameter := by
  obtain ⟨hplain, hspaced⟩ :=
    readTypedName_typedText hparameter.name hparameter.type.ends
  rw [← unlessDollar_map [parameter.typeToken] parameter.typeToken fun typeToken =>
    ({ parameter with typeToken } : Parameter)]
  rintro text (rfl | rfl)
  · simp only [Parameter.read, toList_text_parameter, hplain, bind, Except.bind,
      hparameter.type.read]
    rfl
  · simp only [Parameter.read, toList_text_parameter, hspaced, bind, Except.bind,
      hparameter.type.read]
    rfl

/-! ## Methods -/

theorem Parameter.IsLegible.splitParameters_append {parameter : Parameter}
    (hparameter : parameter.IsLegible) (current rest : List Char) :
    splitParameters 0 current (parameter.text.toList ++ rest) =
      splitParameters 0 (current ++ parameter.text.toList) rest := by
  have hplain : ∀ c ∈ parameter.name.toList ++ [':', ' '], c ≠ '<' ∧ c ≠ '>' ∧ c ≠ ',' := by
    rw [List.forall_mem_append]
    exact ⟨hparameter.name.ne_bracket, by simp⟩
  rw [toList_text_parameter, typedText, List.append_assoc, ClassDiagram.splitParameters_append
    hplain, hparameter.whole, List.append_assoc]

/-- Parameters are cut behind each of them; the spaces behind the commas go with the next ones. -/
theorem splitParameters_texts {first : Parameter} {others : List Parameter}
    (hparameters : ∀ parameter ∈ first :: others, parameter.IsLegible) (lead : List Char) :
    splitParameters 0 lead
        (String.intercalate ", " ((first :: others).map Parameter.text)).toList =
      (lead ++ first.text.toList) :: others.map fun parameter => ' ' :: parameter.text.toList := by
  induction others generalizing first lead with
  | nil =>
    have hsplit := (hparameters first List.mem_cons_self).splitParameters_append lead []
    simpa [splitParameters] using hsplit
  | cons second more ih =>
    rw [List.forall_mem_cons] at hparameters
    have hfirst := hparameters.1.splitParameters_append lead
    have hcomma : ∀ current rest : List Char, splitParameters 0 current (',' :: ' ' :: rest) =
        current :: splitParameters 0 [' '] rest := by
      intro current rest
      simp [splitParameters]
    have hrest := ih hparameters.2 [' ']
    rw [List.map_cons] at hrest
    rw [List.map_cons, List.map_cons, String.intercalate_cons_cons, String.toList_append,
      String.toList_append, List.append_assoc, hfirst]
    exact (hcomma _ _).trans (congrArg _ hrest)

theorem hasVisibleEnds_texts {first : Parameter} {others : List Parameter}
    (hparameters : ∀ parameter ∈ first :: others, parameter.IsLegible) :
    HasVisibleEnds (String.intercalate ", " ((first :: others).map Parameter.text)).toList := by
  have htext : ∀ parameter : Parameter, parameter.IsLegible →
      HasVisibleEnds parameter.text.toList := by
    intro parameter hparameter
    rw [toList_text_parameter]
    exact hasVisibleEnds_typedText hparameter.name hparameter.type.ends
  induction others generalizing first with
  | nil => simpa using htext first (hparameters first List.mem_cons_self)
  | cons second more ih =>
    rw [List.forall_mem_cons] at hparameters
    have hrest := ih hparameters.2
    rw [List.map_cons] at hrest
    rw [List.map_cons, List.map_cons, String.intercalate_cons_cons, String.toList_append,
      String.toList_append]
    exact (htext first hparameters.1).append hrest _

/-- The types of the parameters and of the result. -/
def Method.typeTokens (declared : Method) : List String :=
  declared.parameters.map Parameter.typeToken ++ declared.returnType.toList

theorem mapM_read_parameters {pieces : List (List Char)} {parameters : List Parameter}
    (hpieces : List.Forall₂ (fun piece parameter =>
      Parameter.read piece = unlessDollar [parameter.typeToken] parameter) pieces parameters) :
    pieces.mapM Parameter.read =
      unlessDollar (parameters.map Parameter.typeToken) parameters := by
  induction hpieces with
  | nil => rfl
  | @cons piece parameter pieces parameters hpiece _ ih =>
    calc
      (piece :: pieces).mapM Parameter.read =
          (unlessDollar [parameter.typeToken] parameter).bind fun first =>
            (unlessDollar (parameters.map Parameter.typeToken) parameters).map (first :: ·) := by
        rw [List.mapM_cons, hpiece, ih]
        rfl
      _ = (unlessDollar [parameter.typeToken] parameter).bind fun first =>
            unlessDollar (parameters.map Parameter.typeToken) (first :: parameters) := by
        simp only [unlessDollar_map]
      _ = unlessDollar ((parameter :: parameters).map Parameter.typeToken)
            (parameter :: parameters) := unlessDollar_bind _ _ _ _

theorem readParameters_texts {parameters : List Parameter}
    (hparameters : ∀ parameter ∈ parameters, parameter.IsLegible) :
    readParameters (String.intercalate ", " (parameters.map Parameter.text)).toList =
      unlessDollar (parameters.map Parameter.typeToken) parameters := by
  cases parameters with
  | nil => rfl
  | cons first others =>
    have hends := hasVisibleEnds_texts hparameters
    have hnonempty := List.isEmpty_eq_false_iff.2 hends.ne_nil
    rw [readParameters]
    simp only [hends.trim_eq, hnonempty, Bool.false_eq_true, if_false,
      splitParameters_texts hparameters]
    apply mapM_read_parameters
    rw [List.forall_mem_cons] at hparameters
    refine .cons (hparameters.1.read_text _ (.inl rfl)) ?_
    rw [List.forall₂_map_left_iff, List.forall₂_same]
    exact fun parameter hmem => (hparameters.2 parameter hmem).read_text _ (.inr rfl)

/-- What stands behind the parameters. -/
def resultText : Option String → List Char
  | none => []
  | some typeToken => ':' :: ' ' :: typeToken.toList

theorem readReturnType_resultText {result : Option String}
    (hresult : ∀ typeToken ∈ result, IsLegibleType typeToken) :
    readReturnType (resultText result) = unlessDollar result.toList result := by
  cases result with
  | none => rfl
  | some typeToken =>
    have htype := hresult typeToken rfl
    have hcolon : HasVisibleEnds (':' :: ' ' :: typeToken.toList) := by
      have hmark : HasVisibleEnds [':'] := .singleton (by decide)
      simpa using hmark.append htype.ends [' ']
    have htoken : trim (' ' :: typeToken.toList) = typeToken.toList := by
      rw [trim_cons_of_isBlank (by decide), htype.ends.trim_eq]
    simp only [readReturnType, resultText, hcolon.trim_eq, if_true, htoken, htype.read]
    exact unlessDollar_map [typeToken] typeToken some

/-- The text of a method is read as this method, unless a type opens with a dollar sign. -/
theorem Method.IsLegible.read_text {declared : Method} (hdeclared : declared.IsLegible) :
    Method.read declared.text = unlessDollar declared.typeTokens declared := by
  let inner := (String.intercalate ", " (declared.parameters.map Parameter.text)).toList
  have htext : declared.text.toList =
      declared.name.toList ++ '(' :: (inner ++ ')' :: resultText declared.returnType) := by
    cases hresult : declared.returnType <;> simp [Method.text, resultText, hresult, inner]
  have hopen : '(' ∉ declared.name.toList := hdeclared.name.not_mem (by decide)
  have hclose : ')' ∉ resultText declared.returnType := by
    cases hresult : declared.returnType with
    | none => exact List.not_mem_nil
    | some typeToken =>
      have hfree := (hdeclared.result typeToken hresult).unclosed
      simpa [resultText] using hfree
  have hends : HasVisibleEnds (declared.name.toList ++
      '(' :: (inner ++ ')' :: resultText declared.returnType)) := by
    have hlast : HasVisibleEnds (')' :: resultText declared.returnType) := by
      have hparen : HasVisibleEnds [')'] := .singleton (by decide)
      cases hresult : declared.returnType with
      | none => exact hparen
      | some typeToken =>
        exact hparen.append (hdeclared.result typeToken hresult).ends [':', ' ']
    simpa using hdeclared.name.hasVisibleEnds.append hlast ('(' :: inner)
  have hbody := declarationBody_eq hdeclared.name htext (htext ▸ hends)
  rw [Method.read, hbody, htext, splitFirst_append_cons hopen]
  simp only [splitLast_append_cons inner hclose, hdeclared.name.readName_eq]
  calc
    _ = (unlessDollar (declared.parameters.map Parameter.typeToken) declared.parameters).bind
          fun parameters => (unlessDollar declared.returnType.toList declared.returnType).map
            fun returnType => ({ name := declared.name, parameters, returnType } : Method) := by
      rw [← readParameters_texts hdeclared.parameters, ← readReturnType_resultText hdeclared.result]
      rfl
    _ = unlessDollar declared.typeTokens declared := by
      simp only [unlessDollar_map]
      exact unlessDollar_bind _ _ _ _

theorem Method.HasNotation.read_text {declared : Method} (hdeclared : declared.HasNotation) :
    Method.read declared.text = unlessDollar declared.typeTokens declared :=
  Method.IsLegible.read_text
    { name := hdeclared.name
      parameters := fun parameter hmem => (hdeclared.parameters parameter hmem).isLegible
      result := fun typeToken hmem => (hdeclared.result typeToken hmem).isLegible }

/-! ## Constants -/

theorem Notation.IsName.readConstant_eq {name : String} (hname : IsName name) :
    readConstant name = .ok name := by
  have hbody := declarationBody_eq hname (List.append_nil _).symm hname.hasVisibleEnds
  have hkept : ∀ c ∈ name.toList, (c != ':') = true := fun c hc =>
    bne_iff_ne.2 (ne_of_continues (hname.continues c hc) (by decide))
  have hwhole : (name.toList ++ []).takeWhile _ = _ :=
    List.takeWhile_append_of_pos hkept
  rw [List.takeWhile_nil, List.append_nil] at hwhole
  rw [readConstant, hbody, hwhole, hname.readName_eq]

end ClassDiagram
