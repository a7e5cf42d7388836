/-!
# Cutting texts at a mark

A text is cut at the first, the last or every occurrence of one character, which is left out.
-/

namespace ClassDiagram.Text

/-- The texts before and after the first occurrence of a mark. -/
def splitFirst (mark : Char) : List Char → Option (List Char × List Char)
  | [] => none
  | c :: rest =>
    if c = mark then some ([], rest)
    else (splitFirst mark rest).map fun parts => (c :: parts.1, parts.2)

/-- The texts before and after the last occurrence of a mark. -/
def splitLast (mark : Char) : List Char → Option (List Char × List Char)
  | [] => none
  | c :: rest =>
    match splitLast mark rest with
    | some parts => some (c :: parts.1, parts.2)
    | none => if c = mark then some ([], rest) else none

/-- The texts between the occurrences of a mark. There is always at least one. -/
def splitEvery (mark : Char) : List Char → List (List Char)
  | [] => [[]]
  | c :: rest =>
    if c = mark then [] :: splitEvery mark rest
    else
      match splitEvery mark rest with
      | [] => [[c]]
      | first :: others => (c :: first) :: others

theorem splitFirst_eq_some {mark : Char} {text before after : List Char}
    (hsplit : splitFirst mark text = some (before, after)) :
    text = before ++ mark :: after := by
  induction text generalizing before with
  | nil => cases hsplit
  | cons c rest ih =>
    unfold splitFirst at hsplit
    split at hsplit
    · cases hsplit
      simp_all
    · cases hrest : splitFirst mark rest with
      | none => simp [hrest] at hsplit
      | some parts =>
        obtain ⟨front, back⟩ := parts
        simp only [hrest, Option.map_some, Option.some.injEq, Prod.mk.injEq] at hsplit
        obtain ⟨rfl, rfl⟩ := hsplit
        simp [ih hrest]

end ClassDiagram.Text
