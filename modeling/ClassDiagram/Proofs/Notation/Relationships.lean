import ClassDiagram.Notation.Printer
import ClassDiagram.Notation.Relationship
import ClassDiagram.Proofs.Notation.Readings

/-!
# Relationships in the notation

The readers know nine texts for the number of instances at an end, the empty one among them. A
relationship is read back from its line with the id that its place in the block gives it.
-/

namespace ClassDiagram

open Notation

namespace Notation

/-- The texts of the numbers that may stand at an end. -/
def cardinalityTexts : List String :=
  ["", "*", "0..*", "0..1", "0..n", "1", "1..*", "1..n", "n"]

end Notation

/-- The relationship can be written as the one of this number. -/
structure Relationship.HasNotation (count : Nat) (relationship : Relationship) : Prop where
  id : relationship.id = relationshipId count
  source : IsName relationship.sourceId
  target : IsName relationship.targetId
  sourceCardinality : relationship.sourceCardinality ∈ cardinalityTexts
  targetCardinality : relationship.targetCardinality ∈ cardinalityTexts

namespace Notation

/-! ## What is read -/

theorem yields_readUpperBound {lower : Nat} (hlower : lower ≤ 1) :
    Yields (readUpperBound lower) fun text => text ∈ cardinalityTexts := by
  have htexts : toString lower ++ "..*" ∈ cardinalityTexts ∧
      toString lower ++ "..n" ∈ cardinalityTexts := by
    obtain rfl | rfl := Nat.le_one_iff_eq_zero_or_eq_one.1 hlower <;> decide
  intro tokens hspellable
  unfold readUpperBound
  split
  · exact yields_done htexts.1 _ hspellable.tail
  · split
    · exact yields_done (by decide) _ hspellable.tail
    · exact yields_failAfter _ _ hspellable
  · split
    · exact yields_done htexts.2 _ hspellable.tail
    · exact yields_failAfter _ _ hspellable
  · exact yields_failAfter _ _ hspellable

theorem yields_readCardinality : Yields readCardinality fun text => text ∈ cardinalityTexts := by
  intro tokens hspellable
  unfold readCardinality
  split
  · exact yields_done (by decide) _ hspellable.tail
  · apply (yields_expectToken _ _ _ hspellable.tail).andThen
    exact fun _ _ => yields_readUpperBound (Nat.zero_le 1)
  · exact yields_readUpperBound (Nat.le_refl 1) _ hspellable.tail.tail
  · exact yields_done (by decide) _ hspellable.tail
  · split
    · exact yields_done (by decide) _ hspellable.tail
    · exact yields_failBefore _ _ hspellable
  · exact yields_failBefore _ _ hspellable

theorem yields_readSourceCardinality :
    Yields readSourceCardinality fun text => text ∈ cardinalityTexts := by
  intro tokens hspellable
  unfold readSourceCardinality
  split
  · exact yields_done (by decide) _ hspellable
  · exact yields_readCardinality _ hspellable

theorem yields_readTargetCardinality :
    Yields readTargetCardinality fun text => text ∈ cardinalityTexts := by
  intro tokens hspellable
  unfold readTargetCardinality
  split
  · split
    · exact yields_readCardinality _ hspellable
    · exact yields_done (by decide) _ hspellable
  · exact yields_readCardinality _ hspellable
  · exact yields_readCardinality _ hspellable
  · exact yields_done (by decide) _ hspellable

theorem yields_readKind : Yields readKind fun _ => True := by
  intro tokens hspellable
  unfold readKind
  split
  · apply (yields_readIdentifier _ hspellable.tail).andThen
    intro word _ rest hrest
    split
    · exact yields_done trivial _ hrest
    · exact gives_error hrest
  · exact yields_done trivial _ hspellable

theorem yields_readRelationship (count : Nat) :
    Yields (readRelationship count) (Relationship.HasNotation count) := by
  intro tokens hspellable
  apply (yields_readIdentifier tokens hspellable).andThen
  intro sourceId hsource tokens hspellable
  apply (yields_readSourceCardinality tokens hspellable).andThen
  intro sourceCardinality hsourceCardinality tokens hspellable
  apply (yields_expectToken _ _ tokens hspellable).andThen
  intro _ _ tokens hspellable
  apply (yields_readTargetCardinality tokens hspellable).andThen
  intro targetCardinality htargetCardinality tokens hspellable
  apply (yields_readIdentifier tokens hspellable).andThen
  intro targetId htarget tokens hspellable
  apply (yields_readKind tokens hspellable).map
  exact fun kind _ => ⟨rfl, hsource, htarget, hsourceCardinality, htargetCardinality⟩

/-! ## What is read back -/

theorem delimits_cardinalityText {text : String} {tokens : List Token}
    (htext : text.isEmpty = false) (hspells : Spells text tokens) :
    Delimits (cardinalityText text) tokens := by
  rw [cardinalityText, htext, ← List.append_nil tokens]
  exact (delimits_space.append_spells hspells).append_delimits rfl (by decide) delimits_space

theorem spells_zero : Spells "0" [.number 0] := spells_digit rfl rfl rfl

theorem spells_one : Spells "1" [.number 1] := spells_digit rfl rfl rfl

theorem spells_star : Spells "*" [.star] := (delimits_mark rfl rfl).spells

theorem spells_unbounded : Spells "n" [.identifier "n"] := spells_identifier (by decide)

/-- Between the source and the dashes, and between the dashes and the target, the text is read
back. -/
def ReadsCardinality (text : String) : Prop :=
  ∃ tokens, Delimits (cardinalityText text) tokens ∧
    (∀ rest, readSourceCardinality (tokens ++ .dash :: rest) = done text (.dash :: rest)) ∧
    ∀ target rest, readTargetCardinality (tokens ++ .identifier target :: .colon :: rest) =
      done text (.identifier target :: .colon :: rest)

theorem readsCardinality_range {bound : Nat} {lower upper text : String} {token : Token}
    (hbound : bound ≤ 1) (hlower : Spells lower [.number bound]) (hupper : Spells upper [token])
    (htext : lower ++ ".." ++ upper = text) (hempty : text.isEmpty = false)
    (hread : ∀ rest, readUpperBound bound (token :: rest) = done text rest) :
    ReadsCardinality text := by
  have hspells : Spells text [.number bound, .dotDot, token] :=
    htext ▸ (hlower.append_delimits rfl (by decide) delimits_dotDot).append_spells hupper
  have hcardinality : ∀ rest,
      readCardinality (.number bound :: .dotDot :: token :: rest) = done text rest := by
    intro rest
    obtain rfl | rfl := Nat.le_one_iff_eq_zero_or_eq_one.1 hbound
    · exact hread rest
    · exact hread rest
  exact ⟨_, delimits_cardinalityText hempty hspells, fun rest => hcardinality _,
    fun target rest => hcardinality _⟩

theorem readUpperBound_unbounded (lower : Nat) (rest : List Token) :
    readUpperBound lower (.identifier "n" :: rest) = done (toString lower ++ "..n") rest := by
  simp [readUpperBound, isUnbounded]

theorem readCardinality_unbounded (rest : List Token) :
    readCardinality (.identifier "n" :: rest) = done "n" rest := by
  simp [readCardinality, isUnbounded]

theorem readTargetCardinality_unbounded (target : String) (rest : List Token) :
    readTargetCardinality (.identifier "n" :: .identifier target :: rest) =
      done "n" (.identifier target :: rest) := by
  simp [readTargetCardinality, isUnbounded, readCardinality]

theorem readsCardinality {text : String} (htext : text ∈ cardinalityTexts) :
    ReadsCardinality text := by
  have hstar : ∀ bound rest,
      readUpperBound bound (.star :: rest) = done (toString bound ++ "..*") rest :=
    fun _ _ => rfl
  have hzeroStar : toString 0 ++ "..*" = "0..*" := by decide
  have hzeroUnbounded : toString 0 ++ "..n" = "0..n" := by decide
  have honeStar : toString 1 ++ "..*" = "1..*" := by decide
  have honeUnbounded : toString 1 ++ "..n" = "1..n" := by decide
  simp only [cardinalityTexts, List.mem_cons, List.not_mem_nil, or_false] at htext
  obtain rfl | rfl | rfl | rfl | rfl | rfl | rfl | rfl | rfl := htext
  · exact ⟨[], delimits_space, fun _ => rfl, fun _ _ => rfl⟩
  · exact ⟨[.star], delimits_cardinalityText rfl spells_star, fun _ => rfl, fun _ _ => rfl⟩
  · exact readsCardinality_range (Nat.zero_le 1) spells_zero spells_star (by decide) rfl
      fun rest => hzeroStar ▸ hstar 0 rest
  · exact readsCardinality_range (Nat.zero_le 1) spells_zero spells_one (by decide) rfl
      fun rest => rfl
  · exact readsCardinality_range (Nat.zero_le 1) spells_zero spells_unbounded (by decide) rfl
      fun rest => hzeroUnbounded ▸ readUpperBound_unbounded 0 rest
  · exact ⟨[.number 1], delimits_cardinalityText rfl spells_one, fun _ => rfl, fun _ _ => rfl⟩
  · exact readsCardinality_range (Nat.le_refl 1) spells_one spells_star (by decide) rfl
      fun rest => honeStar ▸ hstar 1 rest
  · exact readsCardinality_range (Nat.le_refl 1) spells_one spells_unbounded (by decide) rfl
      fun rest => honeUnbounded ▸ readUpperBound_unbounded 1 rest
  · exact ⟨[.identifier "n"], delimits_cardinalityText rfl spells_unbounded,
      fun _ => readCardinality_unbounded _, fun _ _ => readTargetCardinality_unbounded _ _⟩

theorem isName_kind (kind : RelationshipKind) : IsName kind.name := by
  cases kind <;> decide

theorem readKind_name (kind : RelationshipKind) (rest : List Token) :
    readKind (.colon :: .identifier kind.name :: rest) = done kind rest := by
  have hkind : RelationshipKind.ofWord? kind.name = some kind := by
    cases kind <;> decide
  simp [readKind, readIdentifier, Reading.andThen, done, hkind]

theorem toList_cardinalityText (text : String) :
    ∃ more, (cardinalityText text).toList = ' ' :: more := by
  rw [cardinalityText]
  split
  · exact ⟨[], rfl⟩
  · rw [String.append_assoc, String.toList_append]
    exact ⟨_, rfl⟩

theorem readsLine_relationship {count : Nat} {relationship : Relationship}
    (hrelationship : relationship.HasNotation count) :
    ReadsLine (readRelationship count) relationship (relationshipText relationship) := by
  obtain ⟨source, hsource, hreadSource, -⟩ := readsCardinality hrelationship.sourceCardinality
  obtain ⟨target, htarget, -, hreadTarget⟩ := readsCardinality hrelationship.targetCardinality
  obtain ⟨more, hmore⟩ := toList_cardinalityText relationship.sourceCardinality
  have hfront := ((spells_identifier hrelationship.source).append_delimits hmore
    (by decide) hsource).append delimits_dash |>.append htarget
  have hkindText := (spells_identifier hrelationship.target).append_delimits rfl (by decide)
    (delimits_space.append delimits_colon)
  have hend := (spells_identifier (isName_kind relationship.kind)).append_delimits rfl
    (by decide) delimits_semicolon
  refine ⟨relationship.sourceId, source ++ Token.dash :: target ++
    [Token.identifier relationship.targetId, Token.colon, Token.identifier relationship.kind.name],
    [.semicolon], ?_, by decide, fun rest hrest => ?_⟩
  · have hline := (hfront.append (hkindText.append hend)).spells
    simpa [relationshipText, String.append_assoc] using hline
  · have hsourceRead := hreadSource (target ++ .identifier relationship.targetId :: .colon ::
      .identifier relationship.kind.name :: .semicolon :: rest)
    have htargetRead := hreadTarget relationship.targetId
      (.identifier relationship.kind.name :: .semicolon :: rest)
    have hkindRead := readKind_name relationship.kind (.semicolon :: rest)
    simp only [done] at hsourceRead htargetRead hkindRead
    simp [readRelationship, readIdentifier, Reading.andThen, done, expectToken, Reading.map,
      hsourceRead, htargetRead, hkindRead, ← hrelationship.id]

end Notation

end ClassDiagram
