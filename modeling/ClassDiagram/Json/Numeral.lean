import ClassDiagram.Json.Defect
import ClassDiagram.Json.Double
import ClassDiagram.Text.Digits

/-!
# Numerals

Numbers as they are written (`-12.5e3`), and the numbers that they stand for: integers of 64 bits
where the numeral has neither a fraction nor an exponent and fits, floating-point numbers else. Of
the digits only those count that come before the significand would outgrow 64 bits.
-/

namespace ClassDiagram.Json

open Text

structure Exponent where
  sign : Option Char
  digits : List Char
  deriving DecidableEq, Repr

structure Numeral where
  negative : Bool
  whole : List Char
  fraction : Option (List Char)
  exponent : Option Exponent
  deriving DecidableEq, Repr

/-- The digits with which a text starts, of which there must be one. -/
def readDigits (text : List Char) : Except Defect (List Char) :=
  let digits := text.takeWhile Char.isDigit
  if !digits.isEmpty then .ok digits
  else if text.isEmpty then .error .endOfText
  else .error .malformed

/-- A zero stands alone in front of the point. -/
def readWhole (text : List Char) : Except Defect (List Char) := do
  let digits ← readDigits text
  if digits.head? = some '0' ∧ 1 < digits.length then .error .malformed else .ok digits

def readFraction : List Char → Except Defect (Option (List Char))
  | '.' :: rest => some <$> readDigits rest
  | _ => .ok none

/-- The sign of an exponent, if a text starts with one, and the rest of it. -/
def splitSign : List Char → Option Char × List Char
  | [] => (none, [])
  | c :: rest => if c = '+' ∨ c = '-' then (some c, rest) else (none, c :: rest)

def readExponent : List Char → Except Defect (Option Exponent)
  | [] => .ok none
  | c :: rest =>
    if c = 'e' ∨ c = 'E' then do
      let (sign, text) := splitSign rest
      let digits ← readDigits text
      return some { sign, digits }
    else .ok none

/-- How many characters the fraction takes, with its point. -/
def fractionLength (fraction : Option (List Char)) : Nat :=
  fraction.elim 0 fun digits => digits.length + 1

/-- How many characters the exponent takes, with its letter. -/
def exponentLength (exponent : Option Exponent) : Nat :=
  exponent.elim 0 fun parts => parts.sign.toList.length + parts.digits.length + 1

def Numeral.length (numeral : Numeral) : Nat :=
  numeral.negative.toNat + numeral.whole.length + fractionLength numeral.fraction
    + exponentLength numeral.exponent

/-- Reads the numeral with which a text starts. -/
def readNumeral (text : List Char) : Except Defect Numeral := do
  let negative := text.head? == some '-'
  let body := text.drop negative.toNat
  let whole ← readWhole body
  let behindWhole := body.drop whole.length
  let fraction ← readFraction behindWhole
  let exponent ← readExponent (behindWhole.drop (fractionLength fraction))
  return { negative, whole, fraction, exponent }

inductive Number where
  | integer (value : Int)
  | real (negative : Bool) (value : Double)
  deriving DecidableEq, Repr

def Number.text : Number → String
  | .integer value => toString value
  | .real negative value => (if negative then "-" else "") ++ value.text

/-- The least number that has more than 64 bits. -/
def wordLimit : Nat := 0x10000000000000000

/-- The magnitude of the least integer of 64 bits with a sign. -/
def signLimit : Nat := 0x8000000000000000

/-- The number with further digits, and how many of them have been taken: it stays within 64
bits. -/
def appendDigits (value : Nat) : List Char → Nat × Nat
  | [] => (value, 0)
  | c :: rest =>
    let next := 10 * value + digitValue c
    if next < wordLimit then
      let (last, taken) := appendDigits next rest
      (last, taken + 1)
    else (value, 0)

def Exponent.value (exponent : Exponent) : Int :=
  let magnitude : Int := numberValue exponent.digits
  if exponent.sign = some '-' then -magnitude else magnitude

def realNumber? (negative : Bool) (significand : Nat) (exponent : Int) : Option Number :=
  (Double.ofScientific? significand exponent).map (Number.real negative)

/-- A whole number. There is an integer for it up to 64 bits, with a sign bit if it is negative;
there is no negative integer zero. -/
def wholeNumber? (negative : Bool) (value : Nat) : Option Number :=
  if !negative then some (.integer value)
  else if 0 < value ∧ value ≤ signLimit then some (.integer (-value))
  else realNumber? true value 0

/-- The number for which a numeral stands, unless it is too great. -/
def Numeral.value? (numeral : Numeral) : Option Number :=
  let (whole, taken) := appendDigits 0 numeral.whole
  let surplus := numeral.whole.length - taken
  if surplus = 0 ∧ numeral.fraction = none ∧ numeral.exponent = none then
    wholeNumber? numeral.negative whole
  else
    let (significand, places) := appendDigits whole (numeral.fraction.getD [])
    let exponent := (numeral.exponent.map Exponent.value).getD 0
    realNumber? numeral.negative significand (exponent + surplus - places)

end ClassDiagram.Json
