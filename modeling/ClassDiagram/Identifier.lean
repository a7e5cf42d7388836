import ClassDiagram.Text.Numeric

/-!
# Identifiers

An identifier starts with a letter, `_` or `$` and continues with letters, numerals, `_` or `$`.
-/

namespace ClassDiagram

open Text

def startsIdentifier (c : Char) : Bool :=
  isAlphabetic c || c == '_' || c == '$'

def continuesIdentifier (c : Char) : Bool :=
  isAlphanumeric c || c == '_' || c == '$'

def isIdentifier : List Char → Bool
  | [] => false
  | c :: rest => startsIdentifier c && rest.all continuesIdentifier

theorem continuesIdentifier_of_starts {c : Char} (hstart : startsIdentifier c = true) :
    continuesIdentifier c = true := by
  simp only [startsIdentifier, continuesIdentifier, isAlphanumeric, Bool.or_eq_true] at hstart ⊢
  rcases hstart with (hletter | hunderscore) | hdollar
  · exact Or.inl (Or.inl (Or.inl hletter))
  · exact Or.inl (Or.inr hunderscore)
  · exact Or.inr hdollar

end ClassDiagram
