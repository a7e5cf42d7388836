import ClassDiagram.Proofs.Notation.Declarations

/-!
# Normal forms of declarations

What has been read from a declaration can be written down again without the visibility mark and
without further blanks. This normal form is read as the same attribute or method, since no name and
no type that is accepted has a character at which a declaration is cut.
-/

namespace ClassDiagram

open Text Notation

/-! ## What is accepted -/

section Accepted

variable {text token before after : List Char} {name typeToken : String}

theorem readName_eq_ok (hread : readName text = .ok name) :
    IsName name ∧ trim text = name.toList := by
  rw [readName] at hread
  split_ifs at hread with hempty hidentifier
  cases hread
  rw [IsName, String.toList_ofList]
  exact ⟨hidentifier, rfl⟩

theorem readTypeToken_eq_ok (hread : readTypeToken token = .ok typeToken) :
    token = typeToken.toList ∧ isTypeExpression token = true := by
  rw [readTypeToken] at hread
  split_ifs at hread with hempty htype
  cases hread
  exact ⟨String.toList_ofList.symm, htype⟩

theorem readTypeToken_ne_nil (hread : readTypeToken token = .ok typeToken) : token ≠ [] := by
  rintro rfl
  cases hread

theorem not_opensWithDollar (htype : isTypeExpression typeToken.toList = true) :
    opensWithDollar typeToken = false := by
  rw [isTypeExpression, Bool.and_eq_true, Option.any_eq_true] at htype
  obtain ⟨-, c, hfirst, hopens⟩ := htype
  rw [opensWithDollar, hfirst, ← Bool.not_eq_true, beq_iff_eq, Option.some.injEq]
  rintro rfl
  rw [isAlphabetic_of_ascii (by decide)] at hopens
  exact absurd hopens (by decide)

/-- An accepted type between other characters than blanks is legible. -/
theorem isLegibleType_of_read (hends : HasVisibleEnds token)
    (hread : readTypeToken token = .ok typeToken) :
    IsLegibleType typeToken ∧ opensWithDollar typeToken = false := by
  obtain ⟨rfl, htype⟩ := readTypeToken_eq_ok hread
  have hdollar := not_opensWithDollar htype
  rw [isTypeExpression, Bool.and_eq_true] at htype
  refine ⟨⟨hends, not_mem_of_isBracketed htype.1 (by decide) (by decide),
    not_mem_of_isBracketed htype.1 (by decide) (by decide), ?_⟩, hdollar⟩
  rw [hread, unlessDollar_singleton, hdollar, if_neg Bool.false_ne_true]

theorem readTypedName_eq_ok (hread : readTypedName text = .ok (name, token)) :
    IsName name ∧ HasVisibleEnds token ∧ ∃ before after, text = before ++ ':' :: after ∧
      trim before = name.toList ∧ trim after = token := by
  rw [readTypedName] at hread
  split at hread
  · cases hread
  · rename_i before after hsplit
    obtain ⟨read, hname, hrest⟩ := bind_eq_ok hread
    obtain ⟨hname, hbefore⟩ := readName_eq_ok hname
    dsimp only at hrest
    split_ifs at hrest with hempty
    cases hrest
    have hends := hasVisibleEnds_trim (mt List.isEmpty_iff.2 hempty)
    exact ⟨hname, hends, before, after, splitFirst_eq_some hsplit, hbefore, rfl⟩

end Accepted

/-! ## Attributes -/

/-- What stands before the question mark is not blank at its ends. -/
theorem hasVisibleEnds_splitOptional {token : List Char} (hends : HasVisibleEnds token)
    (hne : (splitOptional token).1 ≠ []) : HasVisibleEnds (splitOptional token).1 := by
  rw [splitOptional] at hne ⊢
  split_ifs at hne ⊢
  · refine hasVisibleEnds_trimEnd (fun c hc => ?_) hne
    obtain ⟨first, hfirst, hvisible⟩ := hends.first
    obtain ⟨back, hback⟩ := List.dropLast_prefix token
    have hhead : token.head? = some c := by
      rw [← hback, List.head?_append, Option.mem_def.1 hc, Option.some_or]
    rwa [Option.mem_unique hhead hfirst]
  · exact hends

theorem Attribute.isLegible_of_read {text : String} {declared : Attribute}
    (hread : Attribute.read text = .ok declared) :
    declared.IsLegible ∧ opensWithDollar declared.typeToken = false := by
  rw [Attribute.read] at hread
  obtain ⟨⟨name, written⟩, htyped, hread⟩ := bind_eq_ok hread
  obtain ⟨typeToken, htoken, hread⟩ := bind_eq_ok hread
  cases hread
  obtain ⟨hname, hends, -⟩ := readTypedName_eq_ok htyped
  obtain ⟨htype, hdollar⟩ := isLegibleType_of_read
    (hasVisibleEnds_splitOptional hends (readTypeToken_ne_nil htoken)) htoken
  exact ⟨⟨hname, htype⟩, hdollar⟩

/-! ## Parameters -/

/-- No comma stands outside angle brackets. -/
def IsUncut (depth : Int) : List Char → Prop
  | [] => True
  | c :: rest =>
    if c = '<' then IsUncut (depth + 1) rest
    else if c = '>' then IsUncut (depth - 1) rest
    else ¬ (c = ',' ∧ depth = 0) ∧ IsUncut depth rest

/-- The first part begins where the cutting begins, and all parts are left whole. -/
theorem exists_splitParameters_eq (cs : List Char) : ∀ (depth : Int) (current : List Char),
    ∃ first others, splitParameters depth current cs = (current ++ first) :: others ∧
      IsUncut depth first ∧ ∀ part ∈ others, IsUncut 0 part := by
  -- the depth and the part that has been begun are general: both change at every character
  induction cs with
  | nil => exact fun depth current => ⟨[], [], by simp [splitParameters], trivial, by simp⟩
  | cons c rest ih =>
    intro depth current
    rw [splitParameters]
    split_ifs with hless hgreater hcut
    · obtain ⟨first, others, hparts, hfirst, hothers⟩ := ih (depth + 1) (current ++ [c])
      refine ⟨c :: first, others, by simp [hparts], ?_, hothers⟩
      rwa [IsUncut, if_pos hless]
    · obtain ⟨first, others, hparts, hfirst, hothers⟩ := ih (depth - 1) (current ++ [c])
      refine ⟨c :: first, others, by simp [hparts], ?_, hothers⟩
      rwa [IsUncut, if_neg hless, if_pos hgreater]
    · obtain ⟨first, others, hparts, hfirst, hothers⟩ := ih depth []
      rw [hcut.2] at hfirst
      refine ⟨[], first :: others, by simp [hparts], trivial, ?_⟩
      exact List.forall_mem_cons.2 ⟨hfirst, hothers⟩
    · obtain ⟨first, others, hparts, hfirst, hothers⟩ := ih depth (current ++ [c])
      refine ⟨c :: first, others, by simp [hparts], ?_, hothers⟩
      rw [IsUncut, if_neg hless, if_neg hgreater]
      exact ⟨hcut, hfirst⟩

theorem isUncut_of_mem_splitParameters {cs part : List Char}
    (hpart : part ∈ splitParameters 0 [] cs) : IsUncut 0 part := by
  obtain ⟨first, others, hparts, hfirst, hothers⟩ := exists_splitParameters_eq cs 0 []
  rw [hparts, List.nil_append] at hpart
  exact (List.mem_cons.1 hpart).elim (fun heq => heq ▸ hfirst) (hothers part)

namespace IsUncut

variable {depth : Int} {front rest : List Char}

theorem drop (hfront : ∀ c ∈ front, c ≠ '<' ∧ c ≠ '>' ∧ c ≠ ',')
    (huncut : IsUncut depth (front ++ rest)) : IsUncut depth rest := by
  induction front with
  | nil => exact huncut
  | cons c more ih =>
    rw [List.forall_mem_cons] at hfront
    rw [List.cons_append, IsUncut, if_neg hfront.1.1, if_neg hfront.1.2.1] at huncut
    exact ih hfront.2 huncut.2

theorem take (huncut : IsUncut depth (front ++ rest)) : IsUncut depth front := by
  induction front generalizing depth with
  | nil => trivial
  | cons c more ih =>
    rw [List.cons_append, IsUncut] at huncut
    rw [IsUncut]
    split_ifs at huncut ⊢
    · exact ih huncut
    · exact ih huncut
    · exact ⟨huncut.1, ih huncut.2⟩

/-- Where brackets are closed and commas stand within them nothing is cut. -/
theorem splitParameters_append {depth : Nat} (huncut : IsUncut depth front)
    (hbracketed : isBracketed depth front = true) (current rest : List Char) :
    splitParameters depth current (front ++ rest) =
      splitParameters 0 (current ++ front) rest := by
  induction front generalizing depth current with
  | nil =>
    rw [isBracketed, beq_iff_eq] at hbracketed
    rw [hbracketed, List.nil_append, List.append_nil]
    rfl
  | cons c more ih =>
    rw [IsUncut] at huncut
    simp only [isBracketed] at hbracketed
    rw [List.cons_append, splitParameters, List.append_cons current c more]
    split_ifs at huncut hbracketed ⊢ with hless hgreater hcut
    · exact ih huncut hbracketed (current ++ [c])
    · cases depth with
      | zero => cases hbracketed
      | succ outer =>
        have hcast : ((outer + 1 : Nat) : Int) - 1 = outer := by omega
        rw [hcast] at huncut ⊢
        exact ih huncut hbracketed (current ++ [c])
    · exact absurd hcut huncut.1
    · rw [Bool.and_eq_true] at hbracketed
      exact ih huncut.2 hbracketed.2 (current ++ [c])

end IsUncut

theorem ne_bracket_of_isBlank {c : Char} (hblank : isBlank c = true) :
    c ≠ '<' ∧ c ≠ '>' ∧ c ≠ ',' := by
  refine ⟨?_, ?_, ?_⟩
  all_goals
    rintro rfl
    exact absurd hblank (by decide)

/-- Around a name there are blanks only. -/
theorem ne_bracket_of_trim {text : List Char} {name : String} (hname : IsName name)
    (htrim : trim text = name.toList) : ∀ c ∈ text, c ≠ '<' ∧ c ≠ '>' ∧ c ≠ ',' := by
  obtain ⟨front, back, heq, hfront, hback⟩ := exists_eq_append_trim text
  rw [heq, htrim, List.forall_mem_append, List.forall_mem_append]
  exact ⟨⟨fun c hc => ne_bracket_of_isBlank (hfront c hc), hname.ne_bracket⟩,
    fun c hc => ne_bracket_of_isBlank (hback c hc)⟩

/-- A parameter that is cut out of a list is legible. -/
theorem Parameter.isLegible_of_read {text : List Char} {parameter : Parameter}
    (hread : Parameter.read text = .ok parameter) (huncut : IsUncut 0 text) :
    parameter.IsLegible ∧ opensWithDollar parameter.typeToken = false := by
  rw [Parameter.read] at hread
  obtain ⟨⟨name, token⟩, htyped, hread⟩ := bind_eq_ok hread
  obtain ⟨typeToken, htoken, hread⟩ := bind_eq_ok hread
  cases hread
  obtain ⟨hname, hends, before, after, rfl, hbefore, hafter⟩ := readTypedName_eq_ok htyped
  obtain ⟨htype, hdollar⟩ := isLegibleType_of_read hends htoken
  obtain ⟨rfl, hexpression⟩ := readTypeToken_eq_ok htoken
  refine ⟨⟨hname, htype, ?_⟩, hdollar⟩
  -- before the type there are the name, the colon and blanks, which open no bracket
  have hwhole : IsUncut 0 typeToken.toList := by
    have huncut := huncut.drop (ne_bracket_of_trim hname hbefore)
    obtain ⟨front, back, heq, hfront, -⟩ := exists_eq_append_trim after
    rw [heq, hafter, ← List.cons_append, ← List.cons_append] at huncut
    have hcolon : ∀ c ∈ ':' :: front, c ≠ '<' ∧ c ≠ '>' ∧ c ≠ ',' := by
      rw [List.forall_mem_cons]
      exact ⟨by decide, fun c hc => ne_bracket_of_isBlank (hfront c hc)⟩
    rw [List.append_assoc] at huncut
    exact (huncut.drop hcolon).take
  rw [isTypeExpression, Bool.and_eq_true] at hexpression
  exact hwhole.splitParameters_append hexpression.1

theorem readParameters_isLegible {text : List Char} {parameters : List Parameter}
    (hread : readParameters text = .ok parameters) :
    ∀ parameter ∈ parameters, parameter.IsLegible ∧
      opensWithDollar parameter.typeToken = false := by
  rw [readParameters] at hread
  split_ifs at hread
  · cases hread
    exact List.forall_mem_nil _
  · intro parameter hmem
    obtain ⟨part, hpart, hread⟩ := exists_of_mem_mapM hread parameter hmem
    exact Parameter.isLegible_of_read hread (isUncut_of_mem_splitParameters hpart)

/-! ## Methods -/

theorem readReturnType_isLegible {text : List Char} {result : Option String}
    (hread : readReturnType text = .ok result) :
    ∀ typeToken ∈ result, IsLegibleType typeToken ∧ opensWithDollar typeToken = false := by
  rw [readReturnType] at hread
  split at hread
  · cases hread
    exact nofun
  · rename_i c rest _
    split_ifs at hread
    cases htoken : readTypeToken (trim rest) with
    | error fault =>
      rw [htoken] at hread
      cases hread
    | ok typeToken =>
      rw [htoken] at hread
      cases hread
      rintro _ ⟨⟩
      exact isLegibleType_of_read (hasVisibleEnds_trim (readTypeToken_ne_nil htoken)) htoken

theorem Method.isLegible_of_read {text : String} {declared : Method}
    (hread : Method.read text = .ok declared) :
    declared.IsLegible ∧ ∀ typeToken ∈ declared.typeTokens, opensWithDollar typeToken = false := by
  rw [Method.read] at hread
  split at hread
  · cases hread
  · split at hread
    · cases hread
    · obtain ⟨name, hname, hread⟩ := bind_eq_ok hread
      obtain ⟨parameters, hparameters, hread⟩ := bind_eq_ok hread
      obtain ⟨returnType, hresult, hread⟩ := bind_eq_ok hread
      cases hread
      have hlegible := readParameters_isLegible hparameters
      have hlegible' := readReturnType_isLegible hresult
      refine ⟨⟨(readName_eq_ok hname).1, fun parameter hmem => (hlegible parameter hmem).1,
        fun typeToken hmem => (hlegible' typeToken hmem).1⟩, ?_⟩
      rw [Method.typeTokens, List.forall_mem_append, List.forall_mem_map]
      exact ⟨fun parameter hmem => (hlegible parameter hmem).2,
        fun typeToken hmem => (hlegible' typeToken (Option.mem_toList.1 hmem)).2⟩

theorem unlessDollar_eq_ok {α : Type} {typeTokens : List String}
    (hplain : ∀ typeToken ∈ typeTokens, opensWithDollar typeToken = false) (value : α) :
    unlessDollar typeTokens value = .ok value := by
  have hnone : typeTokens.find? opensWithDollar = none :=
    List.find?_eq_none.2 fun typeToken hmem => by simp [hplain typeToken hmem]
  rw [unlessDollar, hnone]

/-- What is read from a declaration is read again from its normal form. -/
theorem read_text_of_read :
    (∀ text declared, Attribute.read text = .ok declared →
      Attribute.read declared.text = .ok declared) ∧
    ∀ text declared, Method.read text = .ok declared →
      Method.read declared.text = .ok declared := by
  constructor
  · intro text declared hread
    obtain ⟨hlegible, hplain⟩ := Attribute.isLegible_of_read hread
    rw [hlegible.read_text, unlessDollar_eq_ok (List.forall_mem_singleton.2 hplain)]
  · intro text declared hread
    obtain ⟨hlegible, hplain⟩ := Method.isLegible_of_read hread
    rw [hlegible.read_text, unlessDollar_eq_ok hplain]

def emailAttribute : Attribute where
  name := "email"
  typeToken := "String"
  optional := true

def totalMethod : Method where
  name := "total"
  parameters := [⟨"amount", "Integer"⟩, ⟨"extras", "Map<String, Double>"⟩]
  returnType := some "Double"

/-- Marks and blanks are gone from the normal forms; the comma within brackets has stayed. -/
theorem read_text_of_read_email :
    Attribute.read " - email :String ? " = .ok emailAttribute ∧
      emailAttribute.text = "email: String?" ∧
      Attribute.read emailAttribute.text = .ok emailAttribute ∧
      Method.read "+ total( amount :Integer,extras: Map<String, Double> ) :Double" =
        .ok totalMethod ∧
      totalMethod.text = "total(amount: Integer, extras: Map<String, Double>): Double" ∧
      Method.read totalMethod.text = .ok totalMethod := by
  have hemail : Attribute.read " - email :String ? " = .ok emailAttribute := by decide +kernel
  have htotal : Method.read "+ total( amount :Integer,extras: Map<String, Double> ) :Double" =
      .ok totalMethod := by
    decide +kernel
  exact ⟨hemail, by decide, read_text_of_read.1 _ emailAttribute hemail, htotal, by decide,
    read_text_of_read.2 _ totalMethod htotal⟩

end ClassDiagram
