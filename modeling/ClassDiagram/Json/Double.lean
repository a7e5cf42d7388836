/-!
# Binary floating point

Numbers `significand * 2 ^ exponent` with significands of 53 bits: how quotients of natural numbers
are rounded to them, and their shortest decimal texts. Signs are kept elsewhere.
-/

namespace ClassDiagram.Json

structure Double where
  significand : Nat
  exponent : Int
  deriving DecidableEq, Repr

/-- The whole number nearest to a quotient, the even one if two are equally near. -/
def nearestWhole (numerator denominator : Nat) : Nat :=
  let whole := numerator / denominator
  let twice := 2 * (numerator % denominator)
  if twice < denominator ∨ (twice = denominator ∧ whole % 2 = 0) then whole else whole + 1

/-- The quotient `significand * 2 ^ exponent * 10 ^ scale`. -/
def quotient (significand : Nat) (exponent scale : Int) : Nat × Nat :=
  (significand * Nat.pow 2 exponent.toNat * Nat.pow 10 scale.toNat,
    Nat.pow 2 (-exponent).toNat * Nat.pow 10 (-scale).toNat)

namespace Double

/-- The least significand of 53 bits. -/
def leastSignificand : Nat := 0x10000000000000

/-- The least number of more than 53 bits. -/
def significandLimit : Nat := 0x20000000000000

def zero : Double := { significand := 0, exponent := 0 }

def leastExponent : Int := -1074

def greatestExponent : Int := 971

/-- A quotient divided by a power of two. -/
def scaled (numerator denominator : Nat) (exponent : Int) : Nat × Nat :=
  (numerator * Nat.pow 2 (-exponent).toNat, denominator * Nat.pow 2 exponent.toNat)

/-- A quotient that is not zero has 53 bits in front of the point after division by this power of
two. -/
def binaryExponent (numerator denominator : Nat) : Int :=
  let estimate : Int := numerator.log2 - denominator.log2 - 53
  let (above, below) := scaled numerator denominator estimate
  if above < significandLimit * below then estimate else estimate + 1

/-- The number nearest to a quotient, unless that is too great. -/
def ofQuotient? (numerator denominator : Nat) : Option Double :=
  if numerator = 0 then some zero
  else
    let exponent := max leastExponent (binaryExponent numerator denominator)
    let (above, below) := scaled numerator denominator exponent
    let significand := nearestWhole above below
    let rounded : Double :=
      if significand = significandLimit then
        { significand := leastSignificand, exponent := exponent + 1 }
      else { significand, exponent }
    if rounded.exponent ≤ greatestExponent then some rounded else none

/-- The greatest power of ten that is a number has this exponent. -/
def greatestPower : Nat := 308

def powerOfTen (power : Nat) : Double :=
  (ofQuotient? (Nat.pow 10 power) 1).getD zero

def times? (left right : Double) : Option Double :=
  let (numerator, denominator) :=
    quotient (left.significand * right.significand) (left.exponent + right.exponent) 0
  ofQuotient? numerator denominator

def over? (left right : Double) : Option Double :=
  let (numerator, denominator) := quotient left.significand (left.exponent - right.exponent) 0
  ofQuotient? numerator (denominator * right.significand)

/-- Divides by a power of ten, in steps that do not exceed the greatest one. -/
def scaleDown? (value : Double) (power : Nat) : Option Double :=
  if power ≤ greatestPower then value.over? (powerOfTen power)
  else if value.significand = 0 then some value
  else
    match value.over? (powerOfTen greatestPower) with
    | none => none
    | some smaller => smaller.scaleDown? (power - greatestPower)
termination_by power
decreasing_by
  simp only [greatestPower] at *
  omega

/-- The number `significand * 10 ^ exponent`, rounded at every step. -/
def ofScientific? (significand : Nat) (exponent : Int) : Option Double :=
  match ofQuotient? significand 1 with
  | none => none
  | some value =>
    if exponent < 0 then value.scaleDown? (-exponent).toNat
    else if exponent ≤ greatestPower then value.times? (powerOfTen exponent.toNat)
    else if significand = 0 then some zero
    else none

/-- A decimal number that is rounded to this one: it is no farther than half the way to the next
number on its side, and less far if the significand is odd. -/
def isReadFrom (value : Double) (digits : Nat) (scale : Int) : Bool :=
  let (left, right) := quotient digits (2 - value.exponent) scale
  let gapBelow :=
    if value.significand = leastSignificand ∧ leastExponent < value.exponent then 1 else 2
  let lower := (4 * value.significand - gapBelow) * right
  let upper := (4 * value.significand + 2) * right
  if value.significand % 2 = 0 then lower ≤ left && left ≤ upper
  else lower < left && left < upper

/-- The digits of a multiple of `10 ^ scale` that is rounded to this number, if there is one. -/
def digitsAt? (value : Double) (scale : Int) : Option Nat :=
  let (numerator, denominator) := quotient value.significand value.exponent (-scale)
  let below := numerator / denominator
  [nearestWhole numerator denominator, below, below + 1].find? fun digits =>
    digits != 0 && value.isReadFrom digits scale

/-- The fewest digits that are read back as this number, and their power of ten. -/
def shortest (value : Double) : Nat × Int :=
  let scales : List Int := (List.range 640).map fun (step : Nat) => 309 - (step : Int)
  let found := scales.findSome? fun scale =>
    (value.digitsAt? scale).map fun digits => (digits, scale)
  found.getD (0, 0)

end Double

def zeros (count : Nat) : String :=
  String.ofList (List.replicate count '0')

/-- Decimal text: positional from `0.00001` to below `10 ^ 16`, else with a power of ten. -/
def decimalText (digits : Nat) (scale : Int) : String :=
  let figures := (toString digits).toList
  let point : Int := figures.length + scale
  if 0 ≤ scale ∧ point ≤ 16 then String.ofList figures ++ zeros scale.toNat ++ ".0"
  else if 0 < point ∧ point ≤ 16 then
    String.ofList (figures.take point.toNat) ++ "." ++ String.ofList (figures.drop point.toNat)
  else if -5 < point ∧ point ≤ 0 then
    "0." ++ zeros (-point).toNat ++ String.ofList figures
  else
    let fraction := if figures.length = 1 then "" else "." ++ String.ofList figures.tail
    String.ofList (figures.take 1) ++ fraction ++ "e" ++ toString (point - 1)

def Double.text (value : Double) : String :=
  if value.significand = 0 then "0.0"
  else
    let (digits, scale) := value.shortest
    decimalText digits scale

end ClassDiagram.Json
