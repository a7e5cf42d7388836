import Mathlib.Data.List.Basic

/-!
# Texts with names in them

A text is put together from fixed words and places for names. What is written at such a place is
told by the name alone, so a text can be searched for its names before any of them is written.
-/

namespace ClassDiagram.Text

/-- Fixed words, or a place for a name. -/
inductive TextPiece (ν : Type) where
  | fixed (words : String)
  | name (value : ν)

variable {ν : Type} {write : ν → String}

def TextPiece.text (write : ν → String) : TextPiece ν → String
  | fixed words => words
  | name value => write value

def TextPiece.name? : TextPiece ν → Option ν
  | fixed _ => none
  | name value => some value

/-- The text of the pieces, one behind the other. -/
def spelled (write : ν → String) (pieces : List (TextPiece ν)) : String :=
  String.join (pieces.map (TextPiece.text write))

/-- The names that the pieces have places for. -/
def namesIn (pieces : List (TextPiece ν)) : List ν :=
  pieces.filterMap TextPiece.name?

@[simp]
theorem spelled_nil : spelled write [] = "" := rfl

@[simp]
theorem spelled_fixed (words : String) (rest : List (TextPiece ν)) :
    spelled write (.fixed words :: rest) = words ++ spelled write rest := by
  rw [spelled, List.map_cons, String.join_cons]
  rfl

@[simp]
theorem spelled_name (value : ν) (rest : List (TextPiece ν)) :
    spelled write (.name value :: rest) = write value ++ spelled write rest := by
  rw [spelled, List.map_cons, String.join_cons]
  rfl

@[simp]
theorem spelled_append (left right : List (TextPiece ν)) :
    spelled write (left ++ right) = spelled write left ++ spelled write right := by
  rw [spelled, List.map_append, String.join_append]
  rfl

theorem spelled_intercalate (separator : List (TextPiece ν)) (parts : List (List (TextPiece ν))) :
    spelled write (separator.intercalate parts) =
      (spelled write separator).intercalate (parts.map (spelled write)) := by
  induction parts with
  | nil => rfl
  | cons part rest ih =>
    cases rest with
    | nil => simp
    | cons next others =>
      rw [List.intercalate_cons_cons, spelled_append, spelled_append, ih]
      simp only [List.map_cons, String.intercalate_cons_cons]

@[simp]
theorem namesIn_nil : namesIn ([] : List (TextPiece ν)) = [] := rfl

@[simp]
theorem namesIn_fixed (words : String) (rest : List (TextPiece ν)) :
    namesIn (.fixed words :: rest) = namesIn rest := rfl

@[simp]
theorem namesIn_name (value : ν) (rest : List (TextPiece ν)) :
    namesIn (.name value :: rest) = value :: namesIn rest := rfl

@[simp]
theorem namesIn_append (left right : List (TextPiece ν)) :
    namesIn (left ++ right) = namesIn left ++ namesIn right :=
  List.filterMap_append

/-- Separators without names add none. -/
theorem namesIn_intercalate {separator : List (TextPiece ν)} (hnone : namesIn separator = [])
    (parts : List (List (TextPiece ν))) :
    namesIn (separator.intercalate parts) = parts.flatMap namesIn := by
  induction parts with
  | nil => rfl
  | cons part rest ih =>
    cases rest with
    | nil => simp
    | cons next others =>
      rw [List.intercalate_cons_cons, namesIn_append, namesIn_append, hnone, List.append_nil, ih]
      exact List.flatMap_cons.symm

end ClassDiagram.Text
