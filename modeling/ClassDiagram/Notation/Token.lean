import ClassDiagram.Text.Quoted

/-!
# Tokens of the textual notation

A diagram can be written as text, such as `class Order { id: Long }`. This module holds the words
and marks of that notation, their spelling and the names under which messages mention them.
-/

namespace ClassDiagram.Notation

inductive Token where
  | identifier (name : String)
  | number (value : Nat)
  | leftBrace
  | rightBrace
  | leftParen
  | rightParen
  | less
  | greater
  | comma
  | semicolon
  | colon
  | question
  | star
  | dot
  | dash
  | dotDot
  deriving DecidableEq, Repr

/-- The greatest number of 64 bits with a sign. -/
def maxNumber : Nat := 0x7FFFFFFFFFFFFFFF

def Token.spelling : Token → List Char
  | .identifier name => name.toList
  | .number value => (toString value).toList
  | .leftBrace => ['\x7b']
  | .rightBrace => ['\x7d']
  | .leftParen => ['(']
  | .rightParen => [')']
  | .less => ['<']
  | .greater => ['>']
  | .comma => [',']
  | .semicolon => [';']
  | .colon => [':']
  | .question => ['?']
  | .star => ['*']
  | .dot => ['.']
  | .dash => ['-', '-']
  | .dotDot => ['.', '.']

/-- The tokens that one character spells, whatever follows it. -/
def Token.ofMark? : Char → Option Token
  | '\x7b' => some .leftBrace
  | '\x7d' => some .rightBrace
  | '(' => some .leftParen
  | ')' => some .rightParen
  | '<' => some .less
  | '>' => some .greater
  | ',' => some .comma
  | ';' => some .semicolon
  | ':' => some .colon
  | '?' => some .question
  | '*' => some .star
  | _ => none

/-- The name of the class of a token. -/
def Token.className : Token → String
  | .identifier _ => "Ident"
  | .number _ => "Num"
  | .leftBrace => "LBrace"
  | .rightBrace => "RBrace"
  | .leftParen => "LParen"
  | .rightParen => "RParen"
  | .less => "Lt"
  | .greater => "Gt"
  | .comma => "Comma"
  | .semicolon => "Semicolon"
  | .colon => "Colon"
  | .question => "Question"
  | .star => "Star"
  | .dot => "Dot"
  | .dash => "Dash"
  | .dotDot => "DotDot"

/-- The name under which the end of the text is mentioned. -/
def endName : String := "Eof"

/-- A token as messages show it; `none` is the end of the text. -/
def shown : Option Token → String
  | none => endName
  | some (.identifier name) => "Ident(" ++ Text.quoted name ++ ")"
  | some (.number value) => "Num(" ++ toString value ++ ")"
  | some token => token.className

end ClassDiagram.Notation
