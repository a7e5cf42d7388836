/-!
# Fresh names

A name that is wanted but taken is replaced by the first free one of a numbered sequence. The
search ends because every name found taken is crossed off a finite list.
-/

namespace ClassDiagram

/-- The first of `name start`, `name (start + 1)`, … that is not taken. -/
def firstFree (name : Nat → String) (start : Nat) (taken : List String) : String :=
  if name start ∈ taken then firstFree name (start + 1) (taken.erase (name start))
  else name start
termination_by taken.length
decreasing_by
  rename_i htaken
  have hpositive := List.length_pos_of_mem htaken
  rw [List.length_erase_of_mem htaken]
  omega

/-- `base`, or the first free one of `base_2`, `base_3`, …. -/
def freshName (base : String) (taken : List String) : String :=
  if base ∈ taken then firstFree (fun n => base ++ "_" ++ toString n) 2 taken else base

/-- The first candidate that is free, or else the first free one of `last2`, `last3`, …, where
`last` is the last candidate. -/
def freshAmong (candidates : List String) (taken : List String) : String :=
  match candidates.find? fun candidate => !taken.contains candidate with
  | some candidate => candidate
  | none => firstFree (fun n => candidates.getLastD "field" ++ toString n) 2 taken

end ClassDiagram
