import ClassDiagram.Proofs.Text.Words

/-!
# Settled cases

A character in upper case stays as it is in upper case, and the same holds of lower case: no case
mapping leads to a character that it changes. The tables of the mappings say this run by run, and
all of their members are looked at at once.
-/

namespace ClassDiagram.Text

/-! ## Members of runs -/

/-- The code points of a run. -/
def CodeRun.members (run : CodeRun) : List Nat :=
  imageOf ⟨run, 0⟩

theorem CodeRun.mem_members {run : CodeRun} {code : Nat} (hcontains : run.contains code = true) :
    code ∈ run.members := by
  let unmoved : ShiftRun := ⟨run, 0⟩
  have hmem : ((code : Int) + 0).toNat ∈ imageOf unmoved := mem_imageOf hcontains
  rwa [Int.add_zero, Int.toNat_natCast] at hmem

theorem find?_contains_eq_none {runs : List ShiftRun} {code : Nat}
    (hcode : code ∉ runs.flatMap fun run => run.members) :
    (runs.find? fun run => run.contains code) = none := by
  rw [List.find?_eq_none]
  intro run hrun hcontains
  exact hcode (List.mem_flatMap.2 ⟨run, hrun, CodeRun.mem_members hcontains⟩)

/-- Where no code point is changed that is made, and zero is not, no character made is changed. -/
theorem toNat_ofNat_not_mem {changed made : List Nat}
    (hbits : bitsOf changed &&& bitsOf (0 :: made) = 0) {code : Nat} (hmade : code ∈ made) :
    (Char.ofNat code).toNat ∉ changed := by
  have hapart := disjoint_of_bitsOf hbits
  by_cases hvalid : code.isValidChar
  · rw [Char.ofNat, dif_pos hvalid]
    exact fun hchanged => hapart hchanged (List.mem_cons_of_mem _ hmade)
  · rw [Char.ofNat, dif_neg hvalid]
    exact fun hchanged => hapart hchanged List.mem_cons_self

theorem settled_of_ascii {c : Char} (hascii : c.toNat < 128) :
    (c.toUpper.toNat < 128 ∧ c.toUpper.toUpper = c.toUpper ∧
      (c.toNat ∉ List.range' 0x61 26 → c.toUpper = c)) ∧
    c.toLower.toNat < 128 ∧ c.toLower.toLower = c.toLower ∧
      (c.toNat ∉ List.range' 0x41 26 → c.toLower = c) := by
  have hcodes : ∀ code ∈ List.range 128,
      ((Char.ofNat code).toUpper.toNat < 128 ∧
        (Char.ofNat code).toUpper.toUpper = (Char.ofNat code).toUpper ∧
        (code ∉ List.range' 0x61 26 → (Char.ofNat code).toUpper = Char.ofNat code)) ∧
      (Char.ofNat code).toLower.toNat < 128 ∧
        (Char.ofNat code).toLower.toLower = (Char.ofNat code).toLower ∧
        (code ∉ List.range' 0x41 26 → (Char.ofNat code).toLower = Char.ofNat code) := by
    decide +kernel
  have hcode := hcodes c.toNat (List.mem_range.2 hascii)
  rwa [Char.ofNat_toNat] at hcode

/-! ## Upper case -/

/-- The code points of the characters that have another upper case. -/
def raisedCodes : List Nat :=
  List.range' 0x61 26 ++ raisingSequences.map Prod.fst ++
    raisingRuns.flatMap fun run => run.members

/-- The code points that the tables of upper case lead to. -/
def upperCodes : List Nat :=
  raisingSequences.flatMap Prod.snd ++ raisingRuns.flatMap imageOf

theorem uppercase_eq_self {c : Char} (hcode : c.toNat ∉ raisedCodes) : uppercase c = [c] := by
  rw [raisedCodes, List.mem_append, List.mem_append, not_or, not_or] at hcode
  obtain ⟨⟨hsmall, hsequences⟩, hruns⟩ := hcode
  have hnone : (raisingSequences.find? fun entry => entry.1 == c.toNat) = none := by
    rw [List.find?_eq_none]
    exact fun entry hentry heq => hsequences (List.mem_map.2 ⟨entry, hentry, eq_of_beq heq⟩)
  rw [uppercase, hnone, find?_contains_eq_none hruns]
  split
  · rename_i hascii
    rw [(settled_of_ascii hascii).1.2.2 hsmall]
  · rfl

/-- A character in upper case is the same in upper case. -/
theorem uppercase_of_mem_uppercase {c d : Char} (hd : d ∈ uppercase c) : uppercase d = [d] := by
  have hbits : bitsOf raisedCodes &&& bitsOf (0 :: upperCodes) = 0 := by decide +kernel
  have hmade {code : Nat} (hcode : code ∈ upperCodes) :
      uppercase (Char.ofNat code) = [Char.ofNat code] :=
    uppercase_eq_self (toNat_ofNat_not_mem hbits hcode)
  rw [uppercase] at hd
  split_ifs at hd with hascii
  · obtain ⟨hupper, hsame, -⟩ := (settled_of_ascii hascii).1
    rw [List.mem_singleton.1 hd, uppercase, if_pos hupper, hsame]
  · split at hd
    · rename_i entry hentry
      obtain ⟨code, hcode, rfl⟩ := List.mem_map.1 hd
      exact hmade (List.mem_append_left _
        (List.mem_flatMap.2 ⟨entry, List.mem_of_find?_eq_some hentry, hcode⟩))
    · rename_i hsequences
      split at hd
      · rename_i run hrun
        rw [List.mem_singleton.1 hd, ShiftRun.move]
        exact hmade (List.mem_append_right _ (List.mem_flatMap.2
          ⟨run, List.mem_of_find?_eq_some hrun, mem_imageOf (contains_of_find?_eq_some hrun)⟩))
      · rename_i hruns
        rw [List.mem_singleton.1 hd, uppercase, if_neg hascii, hsequences, hruns]

/-! ## Lower case -/

/-- The code points of the characters that have another lower case. -/
def loweredCodes : List Nat :=
  List.range' 0x41 26 ++ 0x130 :: loweringRuns.flatMap fun run => run.members

/-- The code points that the tables of lower case lead to. -/
def lowerCodes : List Nat :=
  0x69 :: 0x307 :: loweringRuns.flatMap imageOf

theorem lowercase_eq_self {c : Char} (hcode : c.toNat ∉ loweredCodes) : lowercase c = [c] := by
  rw [loweredCodes, List.mem_append, List.mem_cons, not_or, not_or] at hcode
  obtain ⟨hcapital, hdotted, hruns⟩ := hcode
  rw [lowercase, if_neg hdotted, find?_contains_eq_none hruns]
  split
  · rename_i hascii
    rw [(settled_of_ascii hascii).2.2.2 hcapital]
  · rfl

/-- A character in lower case is the same in lower case. -/
theorem lowercase_of_mem_lowercase {c d : Char} (hd : d ∈ lowercase c) : lowercase d = [d] := by
  have hbits : bitsOf loweredCodes &&& bitsOf (0 :: lowerCodes) = 0 := by decide +kernel
  have hmade {code : Nat} (hcode : code ∈ lowerCodes) :
      lowercase (Char.ofNat code) = [Char.ofNat code] :=
    lowercase_eq_self (toNat_ofNat_not_mem hbits hcode)
  rw [lowercase] at hd
  split_ifs at hd with hascii hdotted
  · obtain ⟨hlower, hsame, -⟩ := (settled_of_ascii hascii).2
    rw [List.mem_singleton.1 hd, lowercase, if_pos hlower, hsame]
  · rcases List.mem_cons.1 hd with rfl | hd
    · exact hmade List.mem_cons_self
    · rw [List.mem_singleton.1 hd]
      exact hmade (List.mem_cons_of_mem _ List.mem_cons_self)
  · split at hd
    · rename_i run hrun
      rw [List.mem_singleton.1 hd, ShiftRun.move]
      exact hmade (List.mem_cons_of_mem _ (List.mem_cons_of_mem _ (List.mem_flatMap.2
        ⟨run, List.mem_of_find?_eq_some hrun, mem_imageOf (contains_of_find?_eq_some hrun)⟩)))
    · rename_i hruns
      rw [List.mem_singleton.1 hd, lowercase, if_neg hascii, if_neg hdotted, hruns]

end ClassDiagram.Text
