import ClassDiagram.Text.CodeRun
import Mathlib.Data.List.Basic

/-!
# Sets of code points

To look at all members of a table of characters at once, a set of code points is written as a
number, bit by bit.
-/

namespace ClassDiagram.Text

/-- The number with the bits of these code points. -/
def bitsOf (codes : List Nat) : Nat :=
  codes.foldr (fun code bits => bits ||| 1 <<< code) 0

theorem testBit_bitsOf {codes : List Nat} {code : Nat} (hmem : code ∈ codes) :
    (bitsOf codes).testBit code = true := by
  induction codes with
  | nil => cases hmem
  | cons first rest ih =>
    rw [bitsOf, List.foldr_cons, Nat.testBit_or, Bool.or_eq_true]
    rcases List.mem_cons.1 hmem with rfl | hrest
    · right
      rw [Nat.testBit_shiftLeft, Nat.sub_self]
      simp
    · exact .inl (ih hrest)

theorem disjoint_of_bitsOf {left right : List Nat} (hbits : bitsOf left &&& bitsOf right = 0) :
    left.Disjoint right := by
  intro code hleft hright
  have hbit : (bitsOf left &&& bitsOf right).testBit code = true := by
    rw [Nat.testBit_and, testBit_bitsOf hleft, testBit_bitsOf hright, Bool.and_true]
  rw [hbits, Nat.zero_testBit] at hbit
  cases hbit

/-- The number with the bits of the code points in these intervals. -/
def bitsWithin (intervals : List (Nat × Nat)) : Nat :=
  intervals.foldr
    (fun interval bits => bits ||| (1 <<< (interval.2 + 1 - interval.1) - 1) <<< interval.1) 0

theorem testBit_bitsWithin (intervals : List (Nat × Nat)) (code : Nat) :
    (bitsWithin intervals).testBit code = inIntervals intervals code := by
  induction intervals with
  | nil => exact Nat.zero_testBit code
  | cons interval rest ih =>
    have hbit : ((1 <<< (interval.2 + 1 - interval.1) - 1) <<< interval.1).testBit code =
        (decide (interval.1 ≤ code) && decide (code ≤ interval.2)) := by
      rw [Nat.testBit_shiftLeft, Nat.one_shiftLeft, Nat.testBit_two_pow_sub_one,
        ← Bool.decide_and, ← Bool.decide_and, decide_eq_decide]
      omega
    rw [inIntervals, List.any_cons, ← inIntervals, ← ih, ← hbit, Bool.or_comm, ← Nat.testBit_or]
    rfl

theorem inIntervals_of_bitsOf {codes : List Nat} {intervals : List (Nat × Nat)}
    (hbits : bitsOf codes &&& bitsWithin intervals = bitsOf codes) {code : Nat}
    (hmem : code ∈ codes) : inIntervals intervals code = true := by
  have hbit : (bitsOf codes &&& bitsWithin intervals).testBit code = true := by
    rw [hbits]
    exact testBit_bitsOf hmem
  rw [Nat.testBit_and, testBit_bitsWithin, Bool.and_eq_true] at hbit
  exact hbit.2

theorem inIntervals_eq_false_of_disjoint {left right : List (Nat × Nat)}
    (hdisjoint : bitsWithin left &&& bitsWithin right = 0) {code : Nat}
    (hleft : inIntervals left code = true) : inIntervals right code = false := by
  have hbit : (bitsWithin left &&& bitsWithin right).testBit code = false := by
    rw [hdisjoint, Nat.zero_testBit]
  rw [Nat.testBit_and, testBit_bitsWithin, testBit_bitsWithin, hleft, Bool.true_and] at hbit
  exact hbit

end ClassDiagram.Text
