import ClassDiagram.Json.Defect

/-!
# Quoted text with escapes

Text between double quotes, in which `\` introduces an escape. Characters outside the first plane
are written as two escaped code units. Text that is only passed over may hold code units that do
not belong together; text that is wanted may not.
-/

namespace ClassDiagram.Json

inductive Piece where
  | plain (c : Char)
  /-- A code unit of UTF-16, written as an escape. -/
  | unit (code : Nat)
  deriving DecidableEq, Repr

/-- What stands behind an opening quote. -/
structure QuotedText where
  pieces : List Piece
  /-- The number of its characters, with the closing quote. -/
  length : Nat
  /-- The defect that prevents a closing quote. -/
  ending : Option Defect
  deriving DecidableEq, Repr

def QuotedText.brokenBy (defect : Defect) : QuotedText :=
  { pieces := [], length := 0, ending := some defect }

/-- The text with a piece of some characters in front. -/
def QuotedText.cons (piece : Piece) (length : Nat) (text : QuotedText) : QuotedText :=
  { text with pieces := piece :: text.pieces, length := length + text.length }

def hexValue? (c : Char) : Option Nat :=
  if c.isDigit then some (c.toNat - '0'.toNat)
  else if 'a' ≤ c ∧ c ≤ 'f' then some (c.toNat - 'a'.toNat + 10)
  else if 'A' ≤ c ∧ c ≤ 'F' then some (c.toNat - 'A'.toNat + 10)
  else none

def hexNumber? (digits : List Char) : Option Nat :=
  (digits.mapM hexValue?).map fun values => values.foldl (fun value digit => 16 * value + digit) 0

/-- The character for which a letter stands behind a backslash. -/
def escaped? : Char → Option Char
  | '"' => some '"'
  | '\\' => some '\\'
  | '/' => some '/'
  | 'b' => some '\x08'
  | 'f' => some '\x0c'
  | 'n' => some '\n'
  | 'r' => some '\r'
  | 't' => some '\t'
  | _ => none

/-- An escaped code unit takes four bytes; the text ends before that or is no hexadecimal number. -/
def unitDefect (rest : List Char) : Defect :=
  if (String.ofList rest).utf8ByteSize < 4 then .endOfText else .malformed

def readQuoted : List Char → QuotedText
  | [] => .brokenBy .endOfText
  | '"' :: _ => { pieces := [], length := 1, ending := none }
  | ['\\'] => .brokenBy .endOfText
  | '\\' :: 'u' :: first :: second :: third :: fourth :: rest =>
    match hexNumber? [first, second, third, fourth] with
    | some code => (readQuoted rest).cons (.unit code) 6
    | none => .brokenBy .malformed
  | '\\' :: 'u' :: rest => .brokenBy (unitDefect rest)
  | '\\' :: letter :: rest =>
    match escaped? letter with
    | some c => (readQuoted rest).cons (.plain c) 2
    | none => .brokenBy .malformed
  | c :: rest => if c < ' ' then .brokenBy .malformed else (readQuoted rest).cons (.plain c) 1

def isLeading (code : Nat) : Bool :=
  0xD800 ≤ code && code < 0xDC00

def isTrailing (code : Nat) : Bool :=
  0xDC00 ≤ code && code < 0xE000

def pairedChar (leading trailing : Nat) : Char :=
  Char.ofNat (0x10000 + (leading - 0xD800) * 0x400 + (trailing - 0xDC00))

/-- The characters of some pieces, the last of which are followed by the ending. -/
def pieceChars (ending : Option Defect) : List Piece → Except Defect (List Char)
  | [] => ending.elim (.ok []) .error
  | .plain c :: rest => (fun chars => c :: chars) <$> pieceChars ending rest
  | .unit leading :: .unit trailing :: rest =>
    if isLeading leading then
      if isTrailing trailing then
        (fun chars => pairedChar leading trailing :: chars) <$> pieceChars ending rest
      else .error .malformed
    else if isTrailing leading then .error .malformed
    else (fun chars => Char.ofNat leading :: chars) <$> pieceChars ending (.unit trailing :: rest)
  | .unit code :: rest =>
    if isTrailing code then .error .malformed
    else if isLeading code then .error (if rest.isEmpty then ending.getD .malformed else .malformed)
    else (fun chars => Char.ofNat code :: chars) <$> pieceChars ending rest

/-- The text, or the first defect of it. -/
def QuotedText.content (text : QuotedText) : Except Defect String :=
  String.ofList <$> pieceChars text.ending text.pieces

end ClassDiagram.Json
