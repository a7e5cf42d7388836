import ClassDiagram.CommandLine.FileTree
import ClassDiagram.CommandLine.Run
import ClassDiagram.Proofs.Outcomes
import ClassDiagram.Proofs.Text.Trimming

/-!
# Places below a directory

A path that stays inside has neither empty parts nor parts of dots, so each of its parts leads one
step down. A file that is written under such a path lies below the directory to which the path was
joined.
-/

namespace ClassDiagram

open Text

/-- No part of the path stays where it is or leads up. -/
def StaysInside (path : String) : Prop :=
  ∀ part ∈ pathParts path, part ∉ ["", ".", ".."]

instance (path : String) : Decidable (StaysInside path) :=
  inferInstanceAs (Decidable (∀ part ∈ pathParts path, part ∉ ["", ".", ".."]))

theorem pathParts_append_slash (front back : String) :
    pathParts (front ++ "/" ++ back) = pathParts front ++ pathParts back := by
  have hchars : (front ++ "/" ++ back).toList = front.toList ++ '/' :: back.toList := by simp
  rw [pathParts, hchars, splitEvery_append_cons, List.map_append]
  rfl

theorem pathParts_of_not_mem {name : String} (hname : '/' ∉ name.toList) :
    pathParts name = [name] := by
  rw [pathParts, splitEvery_of_not_mem hname, List.map_singleton, String.ofList_toList]

theorem pathParts_ne_nil (path : String) : pathParts path ≠ [] := by
  rw [pathParts, Ne, List.map_eq_nil_iff]
  cases path.toList with
  | nil => exact List.cons_ne_nil _ _
  | cons c rest =>
    by_cases hc : c = '/'
    · rw [hc, splitEvery_mark_cons]
      exact List.cons_ne_nil _ _
    · obtain ⟨first, others, -, hparts⟩ := exists_splitEvery_cons hc rest
      rw [hparts]
      exact List.cons_ne_nil _ _

theorem staysInside_append_slash_iff {front back : String} :
    StaysInside (front ++ "/" ++ back) ↔ StaysInside front ∧ StaysInside back := by
  rw [StaysInside, pathParts_append_slash, List.forall_mem_append]
  rfl

/-- A path that is joined to a directory has the parts of the directory in front of its own, without
the empty one behind a slash. -/
theorem exists_pathParts_pathBelow (directory : String) :
    ∃ front, (pathParts directory = front ∨ pathParts directory = front ++ [""]) ∧
      ∀ path, pathParts (Run.pathBelow directory path) = front ++ pathParts path := by
  by_cases hslash : directory.toList.getLast? = some '/'
  · obtain ⟨outer, houter⟩ := List.getLast?_eq_some_iff.1 hslash
    have hdirectory : directory = String.ofList outer ++ "/" ++ "" := by
      apply String.toList_inj.1
      simp [houter]
    refine ⟨pathParts (String.ofList outer), .inr ?_, fun path => ?_⟩
    · rw [hdirectory, pathParts_append_slash]
      rfl
    · have hjoined : directory ++ path = String.ofList outer ++ "/" ++ path := by
        apply String.toList_inj.1
        simp [houter]
      rw [Run.pathBelow, if_pos hslash, hjoined, pathParts_append_slash]
  · refine ⟨pathParts directory, .inl rfl, fun path => ?_⟩
    rw [Run.pathBelow, if_neg hslash, pathParts_append_slash]

/-- The part behind the last slash is the last one. -/
theorem pathParts_of_splitLast {path : String} {parent last : List Char}
    (hsplit : splitLast '/' path.toList = some (parent, last)) :
    pathParts path = pathParts (String.ofList parent) ++ [String.ofList last] := by
  obtain ⟨hpath, hlast⟩ := splitLast_eq_some hsplit
  have hjoined : path = String.ofList parent ++ "/" ++ String.ofList last := by
    apply String.toList_inj.1
    simp [hpath]
  have hname : pathParts (String.ofList last) = [String.ofList last] :=
    pathParts_of_not_mem (by rwa [String.toList_ofList])
  rw [hjoined, pathParts_append_slash, hname]

namespace FileTree

variable {tree result : FileTree} {place last : List String} {parts : List String}

theorem walk_append (tree : FileTree) (place front back : List String) :
    tree.walk place (front ++ back) =
      (tree.walk place front).bind fun next => tree.walk next back := by
  induction front generalizing place with
  | nil => rfl
  | cons part rest ih =>
    rw [List.cons_append, walk, walk]
    split
    · rfl
    · rfl
    · cases hstep : step place part with
      | error fault => rfl
      | ok next => exact ih next

theorem step_eq_ok {part : String} (hpart : part ∉ ["", ".", ".."])
    (hstep : step place part = .ok last) : last = place ++ [part] := by
  simp only [List.mem_cons, List.not_mem_nil, or_false, not_or] at hpart
  rw [step, if_neg (not_or.2 ⟨hpart.1, hpart.2.1⟩), if_neg hpart.2.2] at hstep
  split at hstep <;> cases hstep
  rfl

/-- Each part leads one step down. -/
theorem walk_eq_ok (hparts : ∀ part ∈ parts, part ∉ ["", ".", ".."])
    (hwalk : tree.walk place parts = .ok last) : last = place ++ parts := by
  induction parts generalizing place with
  | nil =>
    cases hwalk
    rw [List.append_nil]
  | cons part rest ih =>
    rw [List.forall_mem_cons] at hparts
    rw [walk] at hwalk
    split at hwalk
    · cases hwalk
    · cases hwalk
    · cases hstep : step place part with
      | error fault =>
        rw [hstep] at hwalk
        cases hwalk
      | ok next =>
        rw [hstep] at hwalk
        rw [ih hparts.2 hwalk, step_eq_ok hparts.1 hstep, List.append_assoc,
          List.singleton_append]

theorem partsFromHere_eq_ok {path : String} (hok : partsFromHere path = .ok parts) :
    parts = pathParts path := by
  rw [partsFromHere] at hok
  split_ifs at hok
  split at hok <;> cases hok
  rfl

theorem dropSlashes_append_singleton {part : String} (front : List String) (hpart : part ≠ "") :
    dropSlashes (front ++ [part]) = front ++ [part] := by
  have hempty : part.isEmpty = false := by simpa using hpart
  rw [dropSlashes, List.reverse_append, List.reverse_singleton, List.singleton_append,
    List.dropWhile_cons_of_neg (by simp [hempty])]
  simp

/-- A part of one dot leads nowhere else. -/
theorem walk_dot (hwalk : tree.walk place ["."] = .ok last) : last = place := by
  rw [walk] at hwalk
  split at hwalk <;> cases hwalk
  rfl

/-- What is written under a path that ends with downward parts lies below the place to which the
others lead. -/
theorem write_eq_ok {path text : String} {front inside : List String}
    (hpath : pathParts path = front ++ inside) (hnonempty : inside ≠ [])
    (hinside : ∀ part ∈ inside, part ∉ ["", ".", ".."])
    (hwrite : tree.write path text = .ok result) :
    ∃ place, tree.walk [] front = .ok place ∧ result = tree.put (place ++ inside) (.file text) := by
  obtain ⟨parts, hparts, hrest⟩ := bind_eq_ok hwrite
  obtain ⟨parent, hparent, hrest⟩ := bind_eq_ok hrest
  obtain ⟨downward, name, rfl⟩ : ∃ downward name, inside = downward ++ [name] :=
    ⟨_, _, (List.dropLast_append_getLast hnonempty).symm⟩
  rw [List.forall_mem_append, List.forall_mem_singleton] at hinside
  have hname : name ≠ "" := fun heq => hinside.2 (heq ▸ List.mem_cons_self)
  have hall : parts = front ++ downward ++ [name] := by
    rw [partsFromHere_eq_ok hparts, hpath, List.append_assoc]
  rw [hall, dropSlashes_append_singleton _ hname, List.dropLast_concat, walk_append,
    walk_append] at hparent
  obtain ⟨beside, hbeside, hdot⟩ := bind_eq_ok hparent
  obtain ⟨place, hplace, hdownward⟩ := bind_eq_ok hbeside
  refine ⟨place, hplace, ?_⟩
  rw [hall, List.getLastD_concat] at hrest
  split_ifs at hrest
  obtain ⟨found, hfound, hput⟩ := bind_eq_ok hrest
  split_ifs at hput
  cases hput
  rw [step_eq_ok hinside.2 hfound, walk_dot hdot, walk_eq_ok hinside.1 hdownward,
    List.append_assoc]

end FileTree

end ClassDiagram
