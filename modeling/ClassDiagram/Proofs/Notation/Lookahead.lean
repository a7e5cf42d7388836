import ClassDiagram.Proofs.Notation.Entries
import ClassDiagram.Proofs.Notation.Members
import ClassDiagram.Proofs.Notation.Relationships

/-!
# How far readers look ahead

A reader of members, constants or relationships looks at no more than the one token that stands
behind those it takes. It takes the same tokens for the same value whatever else follows, as long as
that begins alike or with what may stand behind an item; only the words `n` and `N` at the end of a
relationship are another matter if a name follows. Blocks and entries end with a brace, and nothing
that stands behind it matters.
-/

namespace ClassDiagram.Notation

variable {α β : Type}

/-- The reader takes some tokens for a value, and it does so again if something else follows them,
provided that it begins alike or fits behind them. -/
def LooksAhead (reader : Reader α) (fits : List Token → Option Token → Prop) : Prop :=
  ∀ ⦃tokens value rest⦄, reader tokens = done value rest → ∃ read, tokens = read ++ rest ∧
    ∀ next : List Token, next.head? = rest.head? ∨ fits read next.head? →
      reader (read ++ next) = done value next

/-- What may stand behind an item of a block: another one, a separator or the end of the block. -/
def BoundsItem : Option Token → Prop
  | some (.identifier _) | some .comma | some .semicolon | some .rightBrace => True
  | _ => False

/-! ## Readings one after the other -/

theorem Reading.eq_done {reading : Reading α} {value : α} {rest : List Token}
    (houtcome : reading.outcome = .ok value) (hrest : reading.rest = rest) :
    reading = done value rest := by
  rw [done, ← houtcome, ← hrest]

theorem Reading.andThen_eq_done {reading : Reading α} {next : α → Reader β} {result : β}
    {rest : List Token} (heq : reading.andThen next = done result rest) :
    ∃ value between, reading = done value between ∧ next value between = done result rest := by
  obtain ⟨value, hvalue, -⟩ := outcome_andThen_eq_ok (congrArg Reading.outcome heq)
  refine ⟨value, reading.rest, Reading.eq_done hvalue rfl, ?_⟩
  rwa [Reading.andThen, hvalue] at heq

theorem Reading.map_eq_done {reading : Reading α} {f : α → β} {result : β} {rest : List Token}
    (heq : reading.map f = done result rest) :
    ∃ value, reading = done value rest ∧ f value = result := by
  obtain ⟨value, hvalue, hresult⟩ := outcome_map_eq_ok (congrArg Reading.outcome heq)
  exact ⟨value, Reading.eq_done hvalue (congrArg Reading.rest heq), hresult⟩

theorem head?_append_of_head? {fits : Option Token → Prop} {next rest : List Token}
    (hnext : next.head? = rest.head? ∨ fits next.head?) (read : List Token) :
    (read ++ next).head? = (read ++ rest).head? ∨ fits (read ++ next).head? := by
  cases read with
  | nil => exact hnext
  | cons token others => exact .inl rfl

theorem LooksAhead.mono {reader : Reader α} {fits weaker : List Token → Option Token → Prop}
    (hreader : LooksAhead reader fits) (himp : ∀ read head, weaker read head → fits read head) :
    LooksAhead reader weaker := by
  intro tokens value rest heq
  obtain ⟨read, htokens, hread⟩ := hreader heq
  exact ⟨read, htokens, fun next hnext => hread next (hnext.imp_right (himp read _))⟩

theorem LooksAhead.andThen {reader : Reader α} {next : α → Reader β}
    {fits further : Option Token → Prop} (hreader : LooksAhead reader fun _ => fits)
    (hnext : ∀ value, LooksAhead (next value) fun _ => further)
    (himp : ∀ head, further head → fits head) :
    LooksAhead (fun tokens => (reader tokens).andThen next) fun _ => further := by
  intro tokens result rest heq
  obtain ⟨value, between, hvalue, hresult⟩ := Reading.andThen_eq_done heq
  obtain ⟨read, rfl, hread⟩ := hreader hvalue
  obtain ⟨more, rfl, hmore⟩ := hnext value hresult
  refine ⟨read ++ more, (List.append_assoc ..).symm, fun follows hfollows => ?_⟩
  have hfirst := hread (more ++ follows)
    ((head?_append_of_head? hfollows more).imp_right (himp _))
  simp only [List.append_assoc, hfirst, Reading.andThen, done]
  exact hmore follows hfollows

theorem LooksAhead.map {reader : Reader α} {fits : List Token → Option Token → Prop}
    (hreader : LooksAhead reader fits) (f : α → β) :
    LooksAhead (fun tokens => (reader tokens).map f) fits := by
  intro tokens result rest heq
  obtain ⟨value, hvalue, rfl⟩ := Reading.map_eq_done heq
  obtain ⟨read, htokens, hread⟩ := hreader hvalue
  refine ⟨read, htokens, fun next hnext => ?_⟩
  dsimp only
  rw [hread next hnext]
  rfl

/-! ## Members -/

theorem readIdentifier_eq_done {tokens rest : List Token} {name : String}
    (heq : readIdentifier tokens = done name rest) : tokens = .identifier name :: rest := by
  have htokens := eq_cons_of_readIdentifier (congrArg Reading.outcome heq)
  rwa [congrArg Reading.rest heq] at htokens

theorem expectToken_eq_done {token : Token} {expected : String} {tokens rest : List Token}
    (heq : expectToken token expected tokens = done () rest) : tokens = token :: rest := by
  have htokens := eq_cons_of_expectToken (congrArg Reading.outcome heq)
  rwa [congrArg Reading.rest heq] at htokens

theorem looksAhead_readIdentifier : LooksAhead readIdentifier fun _ _ => True := by
  intro tokens name rest heq
  exact ⟨[.identifier name], readIdentifier_eq_done heq, fun _ _ => rfl⟩

theorem BoundsItem.endsType {next : List Token} (hnext : BoundsItem next.head?) :
    EndsType next := by
  intro token htoken
  rw [Option.mem_def.1 htoken] at hnext
  constructor <;> rintro rfl <;> exact hnext

theorem looksAhead_readType (state : TypeState) (depth : Nat) (text : String) :
    LooksAhead (readType state depth text) fun _ => BoundsItem := by
  intro tokens value rest heq
  fun_induction readType state depth text tokens with
  | case1 depth text => cases heq
  | case2 state text hstate =>
    cases heq
    refine ⟨[], rfl, fun next hnext => ?_⟩
    apply readType_ended hstate
    rcases hnext with hnext | hnext
    · rw [List.head?_eq_none_iff.1 hnext]
      exact fun token htoken => absurd htoken (Option.not_mem_none token)
    · exact hnext.endsType
  | case3 state text depth hstate => cases heq
  | case4 depth text rest name ih =>
    obtain ⟨read, rfl, hread⟩ := ih heq
    exact ⟨_ :: read, rfl, hread⟩
  | case5 depth text token rest _ => cases heq
  | case6 depth text rest ih | case7 depth text rest ih =>
    obtain ⟨read, rfl, hread⟩ := ih heq
    exact ⟨_ :: read, rfl, hread⟩
  | case8 state text token rest hstate hdue hdot hless =>
    cases heq
    refine ⟨[], rfl, fun next hnext => ?_⟩
    rcases hnext with hnext | hnext
    · obtain ⟨others, rfl⟩ := List.head?_eq_some_iff.1 hnext
      rw [List.nil_append, readType] <;> assumption
    · exact readType_ended hstate value hnext.endsType
  | case9 state text rest depth hstate ih | case10 state text rest depth hstate ih =>
    obtain ⟨read, rfl, hread⟩ := ih heq
    refine ⟨_ :: read, rfl, fun next hnext => ?_⟩
    cases state with
    | nameDue => exact absurd rfl hstate
    | named | closed => exact hread next hnext
  | case11 state text token rest depth _ _ _ _ _ _ => cases heq

/-- A token that neither stands at the front nor fits does not come there. -/
theorem ne_cons_of_head? {fits : Option Token → Prop} {mark : Token} {next rest : List Token}
    (hother : ∀ others, rest ≠ mark :: others) (hmark : ¬ fits (some mark))
    (hnext : next.head? = rest.head? ∨ fits next.head?) (others : List Token) :
    next ≠ mark :: others := by
  rintro rfl
  rcases hnext with hnext | hnext
  · obtain ⟨others, heq⟩ := List.head?_eq_some_iff.1 hnext.symm
    exact hother others heq
  · exact hmark hnext

theorem looksAhead_readOptionalMark : LooksAhead readOptionalMark fun _ => BoundsItem := by
  intro tokens value rest heq
  unfold readOptionalMark at heq
  split at heq
  · cases heq
    exact ⟨[.question], rfl, fun _ _ => rfl⟩
  · rename_i hother
    cases heq
    refine ⟨[], rfl, fun next hnext => ?_⟩
    rw [List.nil_append, readOptionalMark]
    exact ne_cons_of_head? hother id hnext

theorem looksAhead_readResult : LooksAhead readResult fun _ => BoundsItem := by
  intro tokens value rest heq
  unfold readResult at heq
  split at heq
  · obtain ⟨read, rfl, hread⟩ := (looksAhead_readType .nameDue 0 "").map some heq
    exact ⟨.colon :: read, rfl, hread⟩
  · rename_i hother
    cases heq
    refine ⟨[], rfl, fun next hnext => ?_⟩
    rw [List.nil_append, readResult]
    exact ne_cons_of_head? hother id hnext

/-- The parameters end with a parenthesis, and nothing behind it matters. -/
theorem looksAhead_readParameters : LooksAhead readParameters fun _ _ => True := by
  intro tokens value rest heq
  fun_induction readParameters tokens generalizing value rest with
  | case1 others =>
    cases heq
    exact ⟨[.rightParen], rfl, fun _ _ => by rw [List.singleton_append, readParameters]⟩
  | case2 => cases heq
  | case3 name tokens reading typeToken houtcome parameter others hrest =>
    rename_i hshorter ih
    obtain ⟨parameters, hparameters, rfl⟩ := Reading.map_eq_done heq
    obtain ⟨read, rfl, hread⟩ := looksAhead_readType _ _ _ (Reading.eq_done houtcome hrest)
    obtain ⟨more, rfl, hmore⟩ := ih hparameters
    refine ⟨.identifier name :: .colon :: (read ++ .comma :: more), by simp, fun next hnext => ?_⟩
    have htype := hread (.comma :: (more ++ next)) (.inl rfl)
    simp only [List.cons_append, List.append_assoc, readParameters_of_type name htype,
      hmore next hnext]
    rfl
  | case4 name tokens reading typeToken houtcome parameter =>
    rename_i others hrest
    cases heq
    obtain ⟨read, rfl, hread⟩ := looksAhead_readType _ _ _ (Reading.eq_done houtcome hrest)
    refine ⟨.identifier name :: .colon :: (read ++ [Token.rightParen]), by simp, fun next _ => ?_⟩
    have htype := hread (.rightParen :: next) (.inl rfl)
    simp only [List.cons_append, List.append_assoc, List.nil_append,
      readParameters_of_type name htype]
    rfl
  | case5 => cases heq
  | case6 name tokens => cases heq
  | case7 tokens => cases heq

theorem looksAhead_readMember : LooksAhead readMember fun _ => BoundsItem := by
  intro tokens value rest heq
  unfold readMember at heq
  split at heq
  · rename_i name tokens
    have hattribute := (looksAhead_readType .nameDue 0 "").andThen
      (fun typeToken => looksAhead_readOptionalMark.map fun optional =>
        Member.attribute { name, typeToken, optional }) fun _ => id
    obtain ⟨read, rfl, hread⟩ := hattribute heq
    exact ⟨.identifier name :: .colon :: read, rfl, hread⟩
  · rename_i name tokens
    have hmethod := looksAhead_readParameters.andThen
      (fun parameters => looksAhead_readResult.map fun returnType =>
        Member.method { name, parameters, returnType }) fun _ _ => trivial
    obtain ⟨read, rfl, hread⟩ := hmethod heq
    exact ⟨.identifier name :: .leftParen :: read, rfl, hread⟩
  · cases heq
  · cases heq

/-! ## Relationships -/

/-- The tokens end with dashes and one of the words `n` and `N`, which is the name of a target. -/
def EndsUnbounded (read : List Token) : Prop :=
  ∃ word, isUnbounded word = true ∧ [.dash, .identifier word] <:+ read

theorem EndsUnbounded.of_append {front read : List Token} (hends : EndsUnbounded read) :
    EndsUnbounded (front ++ read) := by
  obtain ⟨word, hword, hsuffix⟩ := hends
  exact ⟨word, hword, hsuffix.trans (List.suffix_append front read)⟩

theorem EndsUnbounded.of_suffix {front read : List Token} (hends : EndsUnbounded front)
    (hread : read <:+ front) (hlength : 2 ≤ read.length) : EndsUnbounded read := by
  obtain ⟨word, hword, hsuffix⟩ := hends
  exact ⟨word, hword, List.suffix_of_suffix_length_le hsuffix hread hlength⟩

/-- What may stand behind a relationship: no name, if it ends with `n` or `N`. -/
def BoundsRelationship (read : List Token) (head : Option Token) : Prop :=
  BoundsItem head ∧ (EndsUnbounded read → ∀ name, head ≠ some (.identifier name))

/-- An upper bound is one token, and not the dashes. -/
theorem readUpperBound_eq_done {lower : Nat} {tokens rest : List Token} {text : String}
    (heq : readUpperBound lower tokens = done text rest) :
    ∃ token, tokens = token :: rest ∧ token ≠ .dash ∧
      ∀ next, readUpperBound lower (token :: next) = done text next := by
  unfold readUpperBound at heq
  split at heq
  · cases heq
    exact ⟨.star, rfl, nofun, fun _ => rfl⟩
  · split at heq
    · rename_i bound others hbound
      cases heq
      exact ⟨.number bound, rfl, nofun, fun _ => if_pos hbound⟩
    · cases heq
  · split at heq
    · rename_i word others hword
      cases heq
      exact ⟨.identifier word, rfl, nofun, fun _ => if_pos hword⟩
    · cases heq
  · cases heq

/-- The tokens of a cardinality, none of which are dashes. -/
theorem readCardinality_eq_done {tokens rest : List Token} {text : String}
    (heq : readCardinality tokens = done text rest) :
    ∃ read, tokens = read ++ rest ∧ .dash ∉ read ∧
      ∀ next : List Token, next.head? = rest.head? →
        readCardinality (read ++ next) = done text next := by
  unfold readCardinality at heq
  split at heq
  · cases heq
    exact ⟨[.star], rfl, by simp, fun _ _ => rfl⟩
  · obtain ⟨_, between, hdots, hbound⟩ := Reading.andThen_eq_done heq
    obtain rfl := expectToken_eq_done hdots
    obtain ⟨token, rfl, htoken, hread⟩ := readUpperBound_eq_done hbound
    exact ⟨[.number 0, .dotDot, token], rfl, by simp [Ne.symm htoken], fun next _ => hread next⟩
  · obtain ⟨token, rfl, htoken, hread⟩ := readUpperBound_eq_done heq
    exact ⟨[.number 1, .dotDot, token], rfl, by simp [Ne.symm htoken], fun next _ => hread next⟩
  · rename_i others hother
    cases heq
    refine ⟨[.number 1], rfl, by simp, fun next hnext => ?_⟩
    rw [List.singleton_append, readCardinality]
    rintro others rfl
    obtain ⟨others, rfl⟩ := List.head?_eq_some_iff.1 hnext.symm
    exact hother others rfl
  · split at heq
    · rename_i word others hword
      cases heq
      exact ⟨[.identifier word], rfl, by simp, fun _ _ => if_pos hword⟩
    · cases heq
  · cases heq

/-- In front of the dashes the tokens of a cardinality are those of the source, if there are any. -/
theorem readSourceCardinality_eq_done {tokens rest : List Token} {text : String}
    (heq : readSourceCardinality tokens = done text (.dash :: rest)) :
    ∃ read, tokens = read ++ .dash :: rest ∧
      ∀ next, readSourceCardinality (read ++ .dash :: next) = done text (.dash :: next) := by
  unfold readSourceCardinality at heq
  split at heq
  · cases heq
    exact ⟨[], rfl, fun _ => rfl⟩
  · rename_i hother
    obtain ⟨read, rfl, -, hread⟩ := readCardinality_eq_done heq
    refine ⟨read, rfl, fun next => ?_⟩
    rw [readSourceCardinality, hread (.dash :: next) rfl]
    intro others hdash
    cases read with
    | nil => exact hother rest rfl
    | cons token read =>
      cases hdash
      exact hother _ rfl

/-- A kind is missing, or it is a word behind a colon. -/
theorem readKind_eq_done {tokens rest : List Token} {kind : RelationshipKind}
    (heq : readKind tokens = done kind rest) :
    (tokens = rest ∧ kind = .association ∧ ∀ others, rest ≠ .colon :: others) ∨
      ∃ word, tokens = .colon :: .identifier word :: rest ∧
        RelationshipKind.ofWord? word = some kind := by
  unfold readKind at heq
  split at heq
  · right
    obtain ⟨word, between, hword, hkind⟩ := Reading.andThen_eq_done heq
    obtain rfl := readIdentifier_eq_done hword
    split at hkind
    · rename_i found hfound
      cases hkind
      exact ⟨word, rfl, hfound⟩
    · cases hkind
  · rename_i hother
    cases heq
    exact .inl ⟨rfl, rfl, hother⟩

theorem looksAhead_readKind : LooksAhead readKind fun _ => BoundsItem := by
  intro tokens kind rest heq
  rcases readKind_eq_done heq with ⟨rfl, rfl, hother⟩ | ⟨word, rfl, hword⟩
  · refine ⟨[], rfl, fun next hnext => ?_⟩
    rw [List.nil_append, readKind]
    exact ne_cons_of_head? hother id hnext
  · refine ⟨[.colon, .identifier word], rfl, fun next _ => ?_⟩
    simp [readKind, readIdentifier, Reading.andThen, done, hword]

/-- What may follow the name of a target behind these tokens of its cardinality: no further name, if
there are none and the name could be one. -/
def FollowsTarget (cardinality : List Token) (target : String) (next : List Token) : Prop :=
  cardinality = [] → isUnbounded target = true → ∀ name, next.head? ≠ some (.identifier name)

theorem FollowsTarget.of_cons (token : Token) (read : List Token) (target : String)
    (next : List Token) : FollowsTarget (token :: read) target next :=
  fun hnone => absurd hnone (List.cons_ne_nil token read)

theorem readTargetCardinality_missing {target : String} {next : List Token}
    (hnext : FollowsTarget [] target next) :
    readTargetCardinality (.identifier target :: next) = done "" (.identifier target :: next) := by
  unfold readTargetCardinality
  split
  · rename_i word name others heq
    cases heq
    have hbounded : ¬ isUnbounded target = true := fun h => hnext rfl h name rfl
    exact if_neg hbounded
  · rename_i heq
    cases heq
  · rename_i heq
    cases heq
  · rfl

/-- The cardinality of a target has no dashes in it. -/
theorem readTargetCardinality_eq_done {tokens rest : List Token} {text target : String}
    (heq : readTargetCardinality tokens = done text (.identifier target :: rest)) :
    ∃ read, tokens = read ++ .identifier target :: rest ∧ .dash ∉ read ∧
      FollowsTarget read target rest ∧ (read = [] → text = "") ∧
      ∀ next, FollowsTarget read target next →
        readTargetCardinality (read ++ .identifier target :: next) =
          done text (.identifier target :: next) := by
  unfold readTargetCardinality at heq
  split at heq
  · rename_i word name others
    split at heq
    · rename_i hword
      rw [readCardinality, if_pos hword] at heq
      cases heq
      refine ⟨[.identifier word], rfl, by simp, .of_cons _ [] _ _, by simp, fun next _ => ?_⟩
      simp [readTargetCardinality, hword, readCardinality]
    · rename_i hword
      cases heq
      refine ⟨[], rfl, by simp, fun _ h => absurd h hword, fun _ => rfl, fun next hnext => ?_⟩
      exact readTargetCardinality_missing hnext
  · cases heq
    exact ⟨[.star], rfl, by simp, .of_cons _ [] _ _, by simp, fun _ _ => rfl⟩
  · rename_i value others
    obtain ⟨read, htokens, hdash, hread⟩ := readCardinality_eq_done heq
    cases read with
    | nil => cases htokens
    | cons token more =>
      cases htokens
      exact ⟨.number value :: more, rfl, hdash, .of_cons _ more _ _, by simp,
        fun next _ => hread _ rfl⟩
  · rename_i hname _ _
    cases heq
    refine ⟨[], rfl, by simp, ?_, fun _ => rfl, fun next hnext => ?_⟩
    · intro _ _ name hhead
      obtain ⟨others, rfl⟩ := List.head?_eq_some_iff.1 hhead
      exact hname target name others rfl
    · exact readTargetCardinality_missing hnext

/-- The tokens of a relationship: around the dashes and the names of its ends stand those of its two
cardinalities and of its kind. -/
def relationshipTokens (relationship : Relationship) (source target kind : List Token) :
    List Token :=
  .identifier relationship.sourceId ::
    (source ++ .dash :: (target ++ .identifier relationship.targetId :: kind))

/-- A relationship is read from the tokens of its cardinalities and its kind, in front of others. -/
structure ReadsRelationship (count : Nat) (relationship : Relationship)
    (source target kind rest : List Token) : Prop where
  id : relationship.id = relationshipId count
  readSource : ∀ next, readSourceCardinality (source ++ .dash :: next) =
    done relationship.sourceCardinality (.dash :: next)
  readTarget : ∀ next, FollowsTarget target relationship.targetId next →
    readTargetCardinality (target ++ .identifier relationship.targetId :: next) =
      done relationship.targetCardinality (.identifier relationship.targetId :: next)
  readKind : ∀ next : List Token, next.head? = rest.head? ∨ BoundsItem next.head? →
    readKind (kind ++ next) = done relationship.kind next
  follows : FollowsTarget target relationship.targetId (kind ++ rest)
  dashless : .dash ∉ target
  missing : target = [] → relationship.targetCardinality = ""
  word : kind = [] ∨ ∃ word, kind = [.colon, .identifier word]

/-- All that reading a relationship can be. -/
theorem readRelationship_eq_done {count : Nat} {relationship : Relationship}
    {tokens rest : List Token} (heq : readRelationship count tokens = done relationship rest) :
    ∃ source target kind, tokens = relationshipTokens relationship source target kind ++ rest ∧
      ReadsRelationship count relationship source target kind rest := by
  obtain ⟨sourceId, _, hsourceId, hbehindSource⟩ := Reading.andThen_eq_done heq
  obtain ⟨sourceCardinality, _, hsource, hbeforeDash⟩ := Reading.andThen_eq_done hbehindSource
  obtain ⟨_, _, hdash, hbehindDash⟩ := Reading.andThen_eq_done hbeforeDash
  obtain ⟨targetCardinality, _, htarget, hbeforeTarget⟩ := Reading.andThen_eq_done hbehindDash
  obtain ⟨targetId, _, htargetId, hbehindTarget⟩ := Reading.andThen_eq_done hbeforeTarget
  obtain ⟨kind, hkind, rfl⟩ := Reading.map_eq_done hbehindTarget
  rw [expectToken_eq_done hdash] at hsource
  rw [readIdentifier_eq_done htargetId] at htarget
  obtain ⟨source, hbefore, hreadSource⟩ := readSourceCardinality_eq_done hsource
  obtain ⟨target, hbetween, hdashless, hfollows, hmissing, hreadTarget⟩ :=
    readTargetCardinality_eq_done htarget
  obtain ⟨word, hbehind, hreadKind⟩ := looksAhead_readKind hkind
  rw [hbehind] at hfollows
  refine ⟨source, target, word, ?_,
    ⟨rfl, hreadSource, hreadTarget, hreadKind, hfollows, hdashless, hmissing, ?_⟩⟩
  · rw [readIdentifier_eq_done hsourceId, hbefore, hbetween, hbehind]
    simp [relationshipTokens]
  · rcases readKind_eq_done hkind with ⟨hnone, -, -⟩ | ⟨found, hfound, -⟩
    · exact .inl (by simpa using hbehind.symm.trans hnone)
    · exact .inr ⟨found, List.append_cancel_right (hbehind.symm.trans hfound)⟩

theorem two_le_length_of_readRelationship {count : Nat} {relationship : Relationship}
    {read rest : List Token}
    (heq : readRelationship count (read ++ rest) = done relationship rest) : 2 ≤ read.length := by
  obtain ⟨source, target, kind, htokens, -⟩ := readRelationship_eq_done heq
  rw [List.append_cancel_right htokens, relationshipTokens, List.length_cons, List.length_append,
    List.length_cons]
  omega

namespace ReadsRelationship

variable {count : Nat} {relationship : Relationship} {source target kind rest : List Token}

theorem readRelationship_eq (hreads : ReadsRelationship count relationship source target kind rest)
    {next : List Token} (hfollows : FollowsTarget target relationship.targetId (kind ++ next))
    (hnext : next.head? = rest.head? ∨ BoundsItem next.head?) :
    readRelationship count (relationshipTokens relationship source target kind ++ next) =
      done relationship next := by
  simp only [readRelationship, relationshipTokens, List.cons_append, List.append_assoc,
    readIdentifier, Reading.andThen, done, hreads.readSource, expectToken, if_true,
    hreads.readTarget _ hfollows, hreads.readKind next hnext, Reading.map]
  rw [← hreads.id]
  rfl

/-- The tokens end with dashes and `n` or `N` exactly if that is the name of the target, without a
cardinality before it and without a kind behind it. -/
theorem endsUnbounded_iff (hreads : ReadsRelationship count relationship source target kind rest) :
    EndsUnbounded (relationshipTokens relationship source target kind) ↔
      target = [] ∧ kind = [] ∧ isUnbounded relationship.targetId = true := by
  constructor
  · rintro ⟨word, hword, front, heq⟩
    rcases hreads.word with rfl | ⟨kindWord, rfl⟩
    · have hends : front ++ [Token.dash] ++ [Token.identifier word] =
          Token.identifier relationship.sourceId :: (source ++ Token.dash :: target) ++
            [Token.identifier relationship.targetId] := by
        simpa [relationshipTokens] using heq
      obtain ⟨hbefore, hlast⟩ := List.append_inj' hends rfl
      obtain rfl : word = relationship.targetId := by simpa using hlast
      refine ⟨?_, rfl, hword⟩
      rcases List.eq_nil_or_concat target with rfl | ⟨others, token, rfl⟩
      · rfl
      · have htoken : front ++ [Token.dash] =
            Token.identifier relationship.sourceId :: (source ++ Token.dash :: others) ++
              [token] := by
          simpa using hbefore
        obtain rfl : Token.dash = token := by simpa using (List.append_inj' htoken rfl).2
        exact absurd (by simp) hreads.dashless
    · have hends : front ++ [Token.dash, Token.identifier word] =
          Token.identifier relationship.sourceId ::
            (source ++ Token.dash :: (target ++ [Token.identifier relationship.targetId])) ++
            [Token.colon, Token.identifier kindWord] := by
        simpa [relationshipTokens] using heq
      simpa using (List.append_inj' hends rfl).2
  · rintro ⟨rfl, rfl, hword⟩
    exact ⟨relationship.targetId, hword, .identifier relationship.sourceId :: source,
      by simp [relationshipTokens]⟩

end ReadsRelationship

theorem looksAhead_readRelationship (count : Nat) :
    LooksAhead (readRelationship count) BoundsRelationship := by
  intro tokens relationship rest heq
  obtain ⟨source, target, kind, htokens, hreads⟩ := readRelationship_eq_done heq
  refine ⟨relationshipTokens relationship source target kind, htokens, fun next hnext => ?_⟩
  refine hreads.readRelationship_eq ?_ (hnext.imp_right And.left)
  intro htarget hword name hname
  rcases head?_append_of_head? hnext kind with hsame | hfits
  · exact hreads.follows htarget hword name (hsame.symm.trans hname)
  · rcases hreads.word with rfl | ⟨word, rfl⟩
    · exact hfits.2 (hreads.endsUnbounded_iff.2 ⟨htarget, rfl, hword⟩) name hname
    · cases hname

/-- If a name follows `n` or `N` at the end of a relationship, that is read as a cardinality. -/
theorem readRelationship_of_name {count : Nat} {relationship other : Relationship}
    {read rest : List Token} (heq : readRelationship count (read ++ rest) = done relationship rest)
    (hends : EndsUnbounded read) {name : String} {others : List Token}
    (hother : (readRelationship count (read ++ .identifier name :: others)).outcome = .ok other) :
    other.targetCardinality = "n" ∧ relationship.targetCardinality = "" := by
  obtain ⟨source, target, kind, htokens, hreads⟩ := readRelationship_eq_done heq
  obtain rfl := List.append_cancel_right htokens
  obtain ⟨rfl, rfl, hword⟩ := hreads.endsUnbounded_iff.1 hends
  refine ⟨?_, hreads.missing rfl⟩
  have hcardinality : readTargetCardinality
      (.identifier relationship.targetId :: .identifier name :: others) =
        done "n" (.identifier name :: others) := by
    simp [readTargetCardinality, hword, readCardinality]
  simp only [readRelationship, relationshipTokens, List.cons_append, List.append_assoc,
    List.nil_append, readIdentifier, Reading.andThen, done, hreads.readSource, expectToken,
    if_true, hcardinality] at hother
  obtain ⟨kind, -, rfl⟩ := Reading.outcome_map_eq_ok hother
  rfl

end ClassDiagram.Notation
