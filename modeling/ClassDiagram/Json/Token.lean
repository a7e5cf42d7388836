import ClassDiagram.Json.Escape
import ClassDiagram.Json.Numeral

/-!
# Tokens of JSON texts

A text is cut into tokens up to its end or to the first token that is broken off.
-/

namespace ClassDiagram.Json

inductive Token where
  | openList
  | closeList
  | openObject
  | closeObject
  | comma
  | colon
  | null
  | boolean (value : Bool)
  | number (numeral : Numeral)
  /-- Quoted text, with the defect that keeps it from being closed. -/
  | text (content : Except Defect String) (ending : Option Defect)
  /-- A numeral or a word that is broken off, with the defects that it has when it is wanted and
  when it is passed over. -/
  | fragment (wanted skipped : Defect)
  /-- A character with which no token starts. -/
  | stray

/-- No token follows a broken one. -/
def Token.isBroken : Token → Bool
  | .text _ ending => ending.isSome
  | .fragment .. | .stray => true
  | _ => false

def isBlankChar (c : Char) : Bool :=
  c == ' ' || c == '\n' || c == '\r' || c == '\t'

def matchWord : List Char → List Char → Except Defect Unit
  | [], _ => .ok ()
  | _ :: _, [] => .error .endOfText
  | expected :: word, c :: rest => if c = expected then matchWord word rest else .error .malformed

/-- A word of which the first letter has been read, as a token, and the number of its other
letters. -/
def wordToken (letters : List Char) (rest : List Char) (token : Token) : Token × Nat :=
  match matchWord letters rest with
  | .ok () => (token, letters.length)
  | .error defect => (.fragment defect defect, 0)

def numberToken (text : List Char) : Token × Nat :=
  match readNumeral text with
  | .ok numeral => (.number numeral, numeral.length - 1)
  | .error defect => (.fragment defect .malformed, 0)

def textToken (rest : List Char) : Token × Nat :=
  let quoted := readQuoted rest
  (.text quoted.content quoted.ending, quoted.length)

/-- The token that starts with `c`, and how many of the characters behind `c` belong to it. -/
def readToken (c : Char) (rest : List Char) : Token × Nat :=
  match c with
  | '[' => (.openList, 0)
  | ']' => (.closeList, 0)
  | '\x7b' => (.openObject, 0)
  | '\x7d' => (.closeObject, 0)
  | ',' => (.comma, 0)
  | ':' => (.colon, 0)
  | '"' => textToken rest
  | 'n' => wordToken ['u', 'l', 'l'] rest .null
  | 't' => wordToken ['r', 'u', 'e'] rest (.boolean true)
  | 'f' => wordToken ['a', 'l', 's', 'e'] rest (.boolean false)
  | _ => if c = '-' ∨ c.isDigit then numberToken (c :: rest) else (.stray, 0)

def tokens : List Char → List Token
  | [] => []
  | c :: rest =>
    if isBlankChar c then tokens rest
    else
      let (token, more) := readToken c rest
      if token.isBroken then [token] else token :: tokens (rest.drop more)
termination_by text => text.length
decreasing_by
  all_goals simp only [List.length_cons, List.length_drop]
  all_goals omega

end ClassDiagram.Json
