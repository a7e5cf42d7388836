import ClassDiagram.Identifier
import ClassDiagram.Notation.Token
import ClassDiagram.Text.Blank
import ClassDiagram.Text.Digits

/-!
# Lexemes

A text is cut into lexemes. Each consists of the blanks and comments that are skipped, the
characters of one token, and the token itself or the reason why there is none. A comment runs from
`#` to the end of its line. After a fault the cutting goes on behind the offending characters.
-/

namespace ClassDiagram.Notation

open Text

inductive LexicalFault where
  | unexpectedChar (c : Char) (line : Nat)
  | invalidNumber (digits : String)
  deriving DecidableEq, Repr

def LexicalFault.message : LexicalFault → String
  | .unexpectedChar c line =>
    "Unexpected character '" ++ String.singleton c ++ "' at line " ++ toString line
  | .invalidNumber digits => "Invalid number: " ++ digits

structure Lexeme where
  skipped : List Char
  text : List Char
  outcome : Except LexicalFault Token

/-- The blanks and comments at the beginning of a text, and the rest of it. -/
def splitBlank (inComment : Bool) : List Char → List Char × List Char
  | [] => ([], [])
  | c :: rest =>
    if inComment then
      let (skipped, remaining) := splitBlank (c != '\n') rest
      (c :: skipped, remaining)
    else if isBlank c || c == '#' then
      let (skipped, remaining) := splitBlank (c == '#') rest
      (c :: skipped, remaining)
    else ([], c :: rest)

def numberToken (digits : List Char) : Except LexicalFault Token :=
  if numberValue digits ≤ maxNumber then .ok (.number (numberValue digits))
  else .error (.invalidNumber (String.ofList digits))

/-- The token that starts with `c`: its further characters, out of those that follow `c`, and what
it means. -/
def readToken (line : Nat) (c : Char) (rest : List Char) :
    List Char × Except LexicalFault Token :=
  match Token.ofMark? c with
  | some token => ([], .ok token)
  | none =>
    if c = '.' then
      if rest.head? = some '.' then (['.'], .ok .dotDot) else ([], .ok .dot)
    else if c = '-' then
      if rest.head? = some '-' then (['-'], .ok .dash) else ([], .error (.unexpectedChar c line))
    else if c.isDigit then
      let digits := rest.takeWhile Char.isDigit
      (digits, numberToken (c :: digits))
    else if startsIdentifier c then
      let name := rest.takeWhile continuesIdentifier
      (name, .ok (.identifier (String.ofList (c :: name))))
    else ([], .error (.unexpectedChar c line))

def newlines (text : List Char) : Nat :=
  text.count '\n'

theorem splitBlank_append (inComment : Bool) (text : List Char) :
    (splitBlank inComment text).1 ++ (splitBlank inComment text).2 = text := by
  induction text generalizing inComment with
  | nil => rfl
  | cons c rest ih =>
    simp only [splitBlank]
    split
    · simp [ih]
    · split
      · simp [ih]
      · rfl

theorem length_splitBlank_le (inComment : Bool) (text : List Char) :
    (splitBlank inComment text).2.length ≤ text.length := by
  have hlength := congrArg List.length (splitBlank_append inComment text)
  rw [List.length_append] at hlength
  omega

/-- Cuts a text whose first line has the given number. -/
def lexemesFrom (line : Nat) (text : List Char) : List Lexeme :=
  match hrest : (splitBlank false text).2 with
  | [] => []
  | c :: rest =>
    let skipped := (splitBlank false text).1
    let start := line + newlines skipped
    let (more, outcome) := readToken start c rest
    have hshorter : (rest.drop more.length).length < text.length := by
      have hlength := length_splitBlank_le false text
      rw [hrest, List.length_cons] at hlength
      rw [List.length_drop]
      omega
    { skipped, text := c :: more, outcome } :: lexemesFrom start (rest.drop more.length)
termination_by text.length
decreasing_by exact hshorter

def lexemes (text : String) : List Lexeme :=
  lexemesFrom 1 text.toList

/-- The tokens of a text, or the first fault in it. -/
def tokens (text : String) : Except LexicalFault (List Token) :=
  (lexemes text).mapM Lexeme.outcome

end ClassDiagram.Notation
