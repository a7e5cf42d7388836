/-!
# Runs of code points

The character classes of this library are given by tables. An entry of a table is an interval of
code points, or an arithmetic progression of them where two alphabets alternate.
-/

namespace ClassDiagram.Text

/-- Some interval of the table holds the code point. -/
def inIntervals (intervals : List (Nat × Nat)) (code : Nat) : Bool :=
  intervals.any fun interval => interval.1 ≤ code && code ≤ interval.2

/-- The code points `first`, `first + step`, … up to and including `last`. -/
structure CodeRun where
  first : Nat
  last : Nat
  step : Nat
  deriving DecidableEq, Repr

def CodeRun.contains (run : CodeRun) (code : Nat) : Bool :=
  run.first ≤ code && code ≤ run.last && (code - run.first) % run.step == 0

/-- A run whose members are all moved by one distance. -/
structure ShiftRun extends CodeRun where
  shift : Int
  deriving DecidableEq, Repr

def ShiftRun.move (run : ShiftRun) (c : Char) : Char :=
  Char.ofNat ((c.toNat : Int) + run.shift).toNat

end ClassDiagram.Text
