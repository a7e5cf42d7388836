import ClassDiagram.Diagram
import ClassDiagram.Notation.Reading

/-!
# Relationships in the notation

Lines such as `Order 1 -- * Item : composition`. The cardinalities and the kind may be missing.
Relationships have the ids `rel-1`, `rel-2`, … over all blocks of one text.
-/

namespace ClassDiagram.Notation

/-- The words for an end without bound. -/
def isUnbounded (word : String) : Bool :=
  word == "n" || word == "N"

def readUpperBound (lower : Nat) : Reader String
  | .star :: rest => done (toString lower ++ "..*") rest
  | .number bound :: rest =>
    if bound = 1 ∧ lower = 0 then done "0..1" rest
    else failAfter "upper bound (1, *, n)" (.number bound :: rest)
  | .identifier word :: rest =>
    if isUnbounded word then done (toString lower ++ "..n") rest
    else failAfter "upper bound (1, *, n)" (.identifier word :: rest)
  | tokens => failAfter "upper bound (1, *, n)" tokens

def readCardinality : Reader String
  | .star :: rest => done "*" rest
  | .number 0 :: rest =>
    (expectToken .dotDot "'..'" rest).andThen fun _ => readUpperBound 0
  | .number 1 :: .dotDot :: rest => readUpperBound 1 rest
  | .number 1 :: rest => done "1" rest
  | .identifier word :: rest =>
    if isUnbounded word then done "n" rest
    else failBefore "cardinality (1, 0..1, *, 0..*, 1..*, n)" (.identifier word :: rest)
  | tokens => failBefore "cardinality (1, 0..1, *, 0..*, 1..*, n)" tokens

/-- What stands between the source and the dashes. -/
def readSourceCardinality : Reader String
  | .dash :: rest => done "" (.dash :: rest)
  | tokens => readCardinality tokens

/-- What stands between the dashes and the target. The words `n` and `N` are a cardinality there
only if the target still follows. -/
def readTargetCardinality : Reader String
  | .identifier word :: .identifier target :: rest =>
    if isUnbounded word then readCardinality (.identifier word :: .identifier target :: rest)
    else done "" (.identifier word :: .identifier target :: rest)
  | .star :: rest => readCardinality (.star :: rest)
  | .number value :: rest => readCardinality (.number value :: rest)
  | tokens => done "" tokens

def readKind : Reader RelationshipKind
  | .colon :: rest =>
    (readIdentifier rest).andThen fun word tokens =>
      match RelationshipKind.ofWord? word with
      | some kind => done kind tokens
      | none => { outcome := .error (.unknownKind word), rest := tokens }
  | tokens => done .association tokens

def relationshipId (count : Nat) : String :=
  "rel-" ++ toString (count + 1)

/-- Reads `Source [cardinality] -- [cardinality] Target [: kind]`. -/
def readRelationship (count : Nat) : Reader Relationship := fun tokens =>
  (readIdentifier tokens).andThen fun sourceId tokens =>
  (readSourceCardinality tokens).andThen fun sourceCardinality tokens =>
  (expectToken .dash "'--'" tokens).andThen fun _ tokens =>
  (readTargetCardinality tokens).andThen fun targetCardinality tokens =>
  (readIdentifier tokens).andThen fun targetId tokens =>
  (readKind tokens).map fun kind =>
    { id := relationshipId count
      sourceId, targetId, kind, sourceCardinality, targetCardinality }

theorem shortens_readUpperBound (lower : Nat) : Shortens (readUpperBound lower) := by
  intro tokens
  unfold readUpperBound
  split <;> (try split) <;> simp [done, failAfter]

theorem shortens_readCardinality : Shortens readCardinality := by
  intro tokens
  unfold readCardinality
  split
  · simp [done]
  · exact Reading.length_rest_andThen_le (Nat.le_succ_of_le (shortens_expectToken _ _ _))
      fun _ => shortens_readUpperBound 0
  · exact Nat.le_succ_of_le (Nat.le_succ_of_le (shortens_readUpperBound 1 _))
  · simp [done]
  · split <;> simp [done, failBefore]
  · simp [failBefore]

theorem shortens_readSourceCardinality : Shortens readSourceCardinality := by
  intro tokens
  unfold readSourceCardinality
  split
  · simp [done]
  · exact shortens_readCardinality _

theorem shortens_readTargetCardinality : Shortens readTargetCardinality := by
  intro tokens
  unfold readTargetCardinality
  split
  · split
    · exact shortens_readCardinality _
    · simp [done]
  · exact shortens_readCardinality _
  · exact shortens_readCardinality _
  · simp [done]

theorem shortens_readKind : Shortens readKind := by
  intro tokens
  unfold readKind
  split
  · refine Reading.length_rest_andThen_le (Nat.le_succ_of_le (shortens_readIdentifier _)) ?_
    intro word rest
    split <;> simp [done]
  · simp [done]

theorem advances_readRelationship (count : Nat) : Advances (readRelationship count) := by
  intro token rest
  refine Reading.length_rest_andThen_le (advances_readIdentifier token rest) fun _ tokens => ?_
  refine Reading.length_rest_andThen_le (shortens_readSourceCardinality tokens) fun _ tokens => ?_
  refine Reading.length_rest_andThen_le (shortens_expectToken _ _ tokens) fun _ tokens => ?_
  refine Reading.length_rest_andThen_le (shortens_readTargetCardinality tokens) fun _ tokens => ?_
  refine Reading.length_rest_andThen_le (shortens_readIdentifier tokens) fun _ tokens => ?_
  exact shortens_readKind tokens

end ClassDiagram.Notation
