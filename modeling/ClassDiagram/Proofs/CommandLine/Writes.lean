import ClassDiagram.Proofs.Catalog
import ClassDiagram.Proofs.CommandLine.Places

/-!
# Writes below a directory

A file that is written below a directory leaves everything else alone, but for the directories on
the way to it. So does a run that writes one file after the other.
-/

namespace ClassDiagram

open Text

namespace FileTree

/-- The name of a node below the place to which the directory leads. -/
def IsBelow (directory name : String) : Prop :=
  ∃ place inside, (pathParts directory).foldlM step [] = .ok place ∧ inside ≠ [] ∧
    (∀ part ∈ inside, part ∉ ["", ".", ".."]) ∧ name = joinParts (place ++ inside)

/-- The name of a node on the way to the directory. -/
def IsOnTheWay (directory name : String) : Prop :=
  ∃ way place, way <+: pathParts directory ∧ way.foldlM step [] = .ok place ∧
    name = joinParts place

/-- All that is different in the later tree lies below the directory, or is a directory on the way
to it that was not there. -/
def ChangesOnlyBelow (directory : String) (tree later : FileTree) : Prop :=
  ∀ name, later.nodes.find? name ≠ tree.nodes.find? name → IsBelow directory name ∨
    tree.nodes.find? name = none ∧ later.nodes.find? name = some .directory ∧
      IsOnTheWay directory name

variable {directory : String} {tree middle later : FileTree}

theorem ChangesOnlyBelow.refl (directory : String) (tree : FileTree) :
    ChangesOnlyBelow directory tree tree :=
  fun _ hchanged => absurd rfl hchanged

theorem ChangesOnlyBelow.trans (hfirst : ChangesOnlyBelow directory tree middle)
    (hsecond : ChangesOnlyBelow directory middle later) :
    ChangesOnlyBelow directory tree later := by
  intro name hchanged
  by_cases hkept : later.nodes.find? name = middle.nodes.find? name
  · rw [hkept] at hchanged ⊢
    exact hfirst name hchanged
  · rcases hsecond name hkept with hbelow | ⟨hmissing, hmade, hway⟩
    · exact .inl hbelow
    · by_cases hsame : middle.nodes.find? name = tree.nodes.find? name
      · exact .inr ⟨hsame ▸ hmissing, hmade, hway⟩
      · refine (hfirst name hsame).imp_right fun ⟨_, hdirectory, _⟩ => ?_
        cases hmissing.symm.trans hdirectory

/-! ## Operations -/

theorem foldlM_step_of_walk {place last parts : List String}
    (hwalk : tree.walk place parts = .ok last) : parts.foldlM step place = .ok last := by
  induction parts generalizing place with
  | nil => exact hwalk
  | cons part rest ih =>
    rw [walk] at hwalk
    split at hwalk
    · cases hwalk
    · cases hwalk
    · obtain ⟨next, hnext, hrest⟩ := bind_eq_ok hwalk
      rw [List.foldlM_cons, hnext]
      exact ih hrest

/-- Downward parts lead to a place below. -/
theorem foldlM_step_eq_ok {place last parts : List String}
    (hparts : ∀ part ∈ parts, part ∉ ["", ".", ".."])
    (hlast : parts.foldlM step place = .ok last) : last = place ++ parts := by
  induction parts generalizing place with
  | nil =>
    cases hlast
    rw [List.append_nil]
  | cons part rest ih =>
    rw [List.forall_mem_cons] at hparts
    rw [List.foldlM_cons] at hlast
    obtain ⟨next, hnext, hrest⟩ := bind_eq_ok hlast
    rw [ih hparts.2 hrest, step_eq_ok hparts.1 hnext, List.append_assoc, List.singleton_append]

/-- Directories are made where parts lead, as far as nothing is there. -/
theorem find?_makeAlong {place parts : List String} (hmake : tree.makeAlong place parts = .ok later)
    {name : String} (hchanged : later.nodes.find? name ≠ tree.nodes.find? name) :
    tree.nodes.find? name = none ∧ later.nodes.find? name = some .directory ∧
      ∃ way last, way <+: parts ∧ way.foldlM step place = .ok last ∧ name = joinParts last := by
  induction parts generalizing tree place with
  | nil =>
    cases hmake
    exact absurd rfl hchanged
  | cons part rest ih =>
    rw [makeAlong] at hmake
    obtain ⟨next, hnext, hrest⟩ := bind_eq_ok hmake
    have hfurther : (∃ way last, way <+: rest ∧ way.foldlM step next = .ok last ∧
        name = joinParts last) → ∃ way last, way <+: part :: rest ∧
          way.foldlM step place = .ok last ∧ name = joinParts last := by
      rintro ⟨way, last, hway, hlast, hname⟩
      refine ⟨part :: way, last, (List.prefix_cons_inj part).2 hway, ?_, hname⟩
      rw [List.foldlM_cons, hnext]
      exact hlast
    split at hrest
    · obtain ⟨hmissing, hmade, hway⟩ := ih hrest hchanged
      exact ⟨hmissing, hmade, hfurther hway⟩
    · rename_i hnone
      obtain ⟨hmissing, hmade⟩ : tree.nodes.find? (joinParts next) = none ∧
          (tree.put next .directory).nodes.find? (joinParts next) = some .directory := by
        rw [node?] at hnone
        split at hnone
        · cases hnone
        · exact ⟨hnone, Catalog.find?_insert_self ..⟩
      by_cases hname : name = joinParts next
      · subst hname
        refine ⟨hmissing, ?_, [part], next, ⟨rest, rfl⟩, hnext ▸ bind_pure _, rfl⟩
        by_contra hother
        obtain ⟨hgone, -, -⟩ := ih hrest fun heq => hother (heq.trans hmade)
        cases hmade.symm.trans hgone
      · have hput : (tree.put next .directory).nodes.find? name = tree.nodes.find? name :=
          Catalog.find?_insert_of_ne _ hname
        obtain ⟨hgone, hdirectory, hway⟩ := ih hrest (hput ▸ hchanged)
        exact ⟨hput ▸ hgone, hdirectory, hfurther hway⟩
    · cases hrest

section Below

variable {path : String}

/-- The slash at the end of a directory leads nowhere else. -/
theorem foldlM_step_pathParts {front place : List String}
    (hdirectory : pathParts directory = front ∨ pathParts directory = front ++ [""])
    (hplace : front.foldlM step [] = .ok place) :
    (pathParts directory).foldlM step [] = .ok place := by
  rcases hdirectory with hfront | hslash
  · rwa [hfront]
  · rw [hslash, List.foldlM_append, hplace]
    rfl

theorem isBelow_of_foldlM {front inside place : List String}
    (hdirectory : pathParts directory = front ∨ pathParts directory = front ++ [""])
    (hnonempty : inside ≠ []) (hinside : ∀ part ∈ inside, part ∉ ["", ".", ".."])
    (hplace : (front ++ inside).foldlM step [] = .ok place) :
    IsBelow directory (joinParts place) := by
  rw [List.foldlM_append] at hplace
  obtain ⟨outer, houter, hlast⟩ := bind_eq_ok hplace
  refine ⟨outer, inside, foldlM_step_pathParts hdirectory houter, hnonempty, hinside, ?_⟩
  rw [foldlM_step_eq_ok hinside hlast]

/-- The directories of a path that stays inside are made below the directory, or on the way
there. -/
theorem changesOnlyBelow_makeDirectories (hinside : StaysInside path) {parent last : List Char}
    (hsplit : splitLast '/' (Run.pathBelow directory path).toList = some (parent, last))
    (hmake : tree.makeDirectories (String.ofList parent) = .ok later) :
    ChangesOnlyBelow directory tree later := by
  obtain ⟨front, hdirectory, hfront⟩ := exists_pathParts_pathBelow directory
  obtain ⟨parts, hparts, hmade⟩ := bind_eq_ok hmake
  have hparent : parts = front ++ (pathParts path).dropLast := by
    rw [← List.dropLast_append_of_ne_nil (pathParts_ne_nil path), ← hfront,
      pathParts_of_splitLast hsplit, List.dropLast_concat, partsFromHere_eq_ok hparts]
  rw [hparent] at hmade
  intro name hchanged
  obtain ⟨hmissing, hdirectories, way, place, hway, hplace, rfl⟩ := find?_makeAlong hmade hchanged
  have hon : way <+: front → IsOnTheWay directory (joinParts place) := by
    intro hprefix
    refine ⟨way, place, hprefix.trans ?_, hplace, rfl⟩
    rcases hdirectory with hsame | hslash
    · exact hsame ▸ List.prefix_rfl
    · exact hslash ▸ List.prefix_append _ _
  rcases List.prefix_or_prefix_of_prefix hway (List.prefix_append front _) with hprefix | hmore
  · exact .inr ⟨hmissing, hdirectories, hon hprefix⟩
  · obtain ⟨inside, rfl⟩ := hmore
    rw [List.prefix_append_right_inj] at hway
    by_cases hnone : inside = []
    · exact .inr ⟨hmissing, hdirectories, hon (by simp [hnone])⟩
    · refine .inl (isBelow_of_foldlM hdirectory hnone (fun part hpart => ?_) hplace)
      exact hinside part (List.dropLast_subset _ (hway.mem hpart))

theorem changesOnlyBelow_write {text : String} (hinside : StaysInside path)
    (hwrite : tree.write (Run.pathBelow directory path) text = .ok later) :
    ChangesOnlyBelow directory tree later ∧ ∃ place,
      (pathParts directory).foldlM step [] = .ok place ∧
      later.nodes.find? (joinParts (place ++ pathParts path)) = some (.file text) := by
  obtain ⟨front, hdirectory, hfront⟩ := exists_pathParts_pathBelow directory
  obtain ⟨place, hwalk, rfl⟩ :=
    write_eq_ok (hfront path) (pathParts_ne_nil path) hinside hwrite
  have hplace := foldlM_step_pathParts hdirectory (foldlM_step_of_walk hwalk)
  refine ⟨fun name hchanged => .inl ?_, place, hplace, Catalog.find?_insert_self _ _ _⟩
  have hname : name = joinParts (place ++ pathParts path) := by
    by_contra hother
    exact hchanged (Catalog.find?_insert_of_ne _ hother)
  exact ⟨place, pathParts path, hplace, pathParts_ne_nil path, hinside, hname⟩

/-- The parts of a path but the last lead to the directory in which the file is written. -/
theorem write_of_walk (text : String) {parts parent place : List String}
    (hparts : partsFromHere path = .ok parts)
    (hparent : tree.walk [] ((dropSlashes parts).dropLast ++ ["."]) = .ok parent)
    (hname : namesDirectory parts = false) (hplace : step parent (parts.getLastD "") = .ok place)
    (hfree : tree.node? place = none) :
    tree.write path text = .ok (tree.put place (.file text)) := by
  simp only [write, bind, Except.bind, hparts, hparent, hname, hplace, hfree, Bool.false_eq_true,
    reduceCtorEq, if_false]

end Below

end FileTree

/-! ## Runs -/

namespace Run

variable {α β : Type} {directory : String}

/-- What a run on a tree comes to, with the journal and the tree that it leaves. -/
def onTree (action : Run (StateM FileTree) α) (journal : List Event) (tree : FileTree) :
    (Except RunFault α × List Event) × FileTree :=
  ((action.run).run journal).run tree

/-- However it ends, the action changes nothing but what is below the directory. -/
def KeepsBelow (directory : String) (action : Run (StateM FileTree) α) : Prop :=
  ∀ journal tree, FileTree.ChangesOnlyBelow directory tree (onTree action journal tree).2

theorem onTree_bind (action : Run (StateM FileTree) α) (next : α → Run (StateM FileTree) β)
    (journal : List Event) (tree : FileTree) :
    onTree (action >>= next) journal tree =
      match onTree action journal tree with
      | ((.ok value, journal), tree) => onTree (next value) journal tree
      | ((.error fault, journal), tree) => ((.error fault, journal), tree) := by
  unfold onTree
  rw [ExceptT.run_bind, StateT.run_bind, StateT.run_bind]
  rcases (action.run.run journal).run tree with ⟨⟨fault | value, journal⟩, tree⟩ <;> rfl

theorem KeepsBelow.pure (value : α) : KeepsBelow directory (Pure.pure value) :=
  fun _ tree => FileTree.ChangesOnlyBelow.refl directory tree

theorem KeepsBelow.bind {action : Run (StateM FileTree) α}
    {next : α → Run (StateM FileTree) β} (haction : KeepsBelow directory action)
    (hnext : ∀ value, KeepsBelow directory (next value)) :
    KeepsBelow directory (action >>= next) := by
  intro journal tree
  have hfirst := haction journal tree
  rw [onTree_bind]
  split
  · rename_i value journal' tree' heq
    rw [heq] at hfirst
    exact hfirst.trans (hnext value _ _)
  · rename_i heq
    rw [heq] at hfirst
    exact hfirst

theorem onTree_ask (failure : DiskFault → RunFault)
    (operation : FileTree → Except DiskFault FileTree) (journal : List Event) (tree : FileTree) :
    onTree (ask failure (FileTree.update operation)) journal tree =
      match operation tree with
      | .ok later => ((.ok (), journal), later)
      | .error fault => ((.error (failure fault), journal), tree) := by
  have hupdate : onTree (liftM (FileTree.update operation)) journal tree =
      ((.ok ((FileTree.update operation).run tree).1, journal),
        ((FileTree.update operation).run tree).2) := rfl
  have hrun : (FileTree.update operation).run tree =
      match operation tree with
      | .ok later => (.ok (), later)
      | .error fault => (.error fault, tree) := by
    cases hoperation : operation tree <;>
      (simp only [FileTree.update, StateT.run_bind, StateT.run_get, pure_bind, hoperation]; rfl)
  rw [ask, onTree_bind, hupdate, hrun]
  cases operation tree <;> rfl

theorem KeepsBelow.ask {operation : FileTree → Except DiskFault FileTree}
    (hoperation : ∀ tree later, operation tree = .ok later →
      FileTree.ChangesOnlyBelow directory tree later) (failure : DiskFault → RunFault) :
    KeepsBelow directory (ask failure (FileTree.update operation)) := by
  intro journal tree
  rw [onTree_ask]
  cases hlater : operation tree with
  | ok later => exact hoperation tree later hlater
  | error => exact FileTree.ChangesOnlyBelow.refl directory tree

theorem KeepsBelow.forM {items : List β} {action : β → Run (StateM FileTree) PUnit}
    (haction : ∀ item ∈ items, KeepsBelow directory (action item)) :
    KeepsBelow directory (items.forM action) := by
  induction items with
  | nil => exact .pure _
  | cons item rest ih =>
    rw [List.forM_eq_forM, List.forM_cons]
    rw [List.forall_mem_cons] at haction
    exact haction.1.bind fun _ => ih haction.2

variable {file : String × String}

/-- A file whose path stays inside is written below the directory, and nothing else is changed. -/
theorem keepsBelow_writeFile (hinside : StaysInside file.1) (directory : String) :
    KeepsBelow directory (writeFile FileTree.disk directory file) := by
  have hwrite : KeepsBelow directory (ask (.unwritable (pathBelow directory file.1))
      (FileTree.disk.write (pathBelow directory file.1) file.2)) :=
    .ask (fun _ _ hwrite => (FileTree.changesOnlyBelow_write hinside hwrite).1) _
  rw [writeFile]
  split
  · rename_i hsplit
    exact KeepsBelow.bind (.ask (fun _ _ hmake =>
      FileTree.changesOnlyBelow_makeDirectories hinside hsplit hmake) _) fun _ => hwrite
  · exact hwrite

theorem onTree_writeFile (directory : String) (file : String × String) {parent last : List Char}
    (hsplit : splitLast '/' (pathBelow directory file.1).toList = some (parent, last))
    {tree middle later : FileTree}
    (hmake : tree.makeDirectories (String.ofList parent) = .ok middle)
    (hwrite : middle.write (pathBelow directory file.1) file.2 = .ok later)
    (journal : List Event) :
    onTree (writeFile FileTree.disk directory file) journal tree = ((.ok (), journal), later) := by
  have hmade : onTree (ask .noDirectory (FileTree.disk.makeDirectories (String.ofList parent)))
      journal tree = ((.ok (), journal), middle) :=
    (onTree_ask .noDirectory (fun tree => tree.makeDirectories (String.ofList parent)) journal
      tree).trans (by rw [hmake])
  have hwritten : onTree (ask (.unwritable (pathBelow directory file.1))
      (FileTree.disk.write (pathBelow directory file.1) file.2)) journal middle =
        ((.ok (), journal), later) :=
    (onTree_ask (.unwritable (pathBelow directory file.1))
      (fun tree => tree.write (pathBelow directory file.1) file.2) journal middle).trans
        (by rw [hwrite])
  rw [writeFile, hsplit]
  simp only
  rw [onTree_bind, hmade]
  exact hwritten

theorem find?_of_write (hinside : StaysInside file.1) {journal later : List Event}
    {tree result : FileTree}
    (hwrite : onTree (ask (.unwritable (pathBelow directory file.1))
      (FileTree.disk.write (pathBelow directory file.1) file.2)) journal tree =
        ((.ok (), later), result)) :
    ∃ place, (pathParts directory).foldlM FileTree.step [] = .ok place ∧
      result.nodes.find? (joinParts (place ++ pathParts file.1)) = some (.file file.2) := by
  change onTree (ask _ (FileTree.update fun tree =>
    tree.write (pathBelow directory file.1) file.2)) journal tree = _ at hwrite
  rw [onTree_ask] at hwrite
  split at hwrite
  · rename_i hlater
    cases hwrite
    exact (FileTree.changesOnlyBelow_write hinside hlater).2
  · cases hwrite

/-- A file that has been written is there. -/
theorem find?_of_writeFile (hinside : StaysInside file.1) {journal later : List Event}
    {tree result : FileTree}
    (hwrite : onTree (writeFile FileTree.disk directory file) journal tree =
      ((.ok (), later), result)) :
    ∃ place, (pathParts directory).foldlM FileTree.step [] = .ok place ∧
      result.nodes.find? (joinParts (place ++ pathParts file.1)) = some (.file file.2) := by
  rw [writeFile] at hwrite
  split at hwrite
  · rw [onTree_bind] at hwrite
    split at hwrite
    · exact find?_of_write hinside hwrite
    · cases hwrite
  · exact find?_of_write hinside hwrite

end Run

end ClassDiagram
