/-!
# Decimal digits
-/

namespace ClassDiagram.Text

def digitValue (c : Char) : Nat :=
  c.toNat - '0'.toNat

/-- The number that a row of digits writes. -/
def numberValue (digits : List Char) : Nat :=
  digits.foldl (fun value c => 10 * value + digitValue c) 0

end ClassDiagram.Text
