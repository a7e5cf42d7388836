import ClassDiagram.Sql.Dialect
import ClassDiagram.Text.Blank

/-!
# Column types

Column types are kept in the spelling of the SQL standard and respelled for the dialects that have
names of their own. For MySQL the name is the text before the first parenthesis, without blanks
around it, and the arguments are what stands behind as many bytes as the name has. With blanks in
front of the name that place may lie inside a character; then the type cannot be written.
-/

namespace ClassDiagram

open Text

/-- The characters behind the first `count` bytes of a text, if a character starts there. -/
def dropBytes? (count : Nat) : List Char → Option (List Char)
  | [] => if count = 0 then some [] else none
  | c :: rest =>
    if count = 0 then some (c :: rest)
    else if c.utf8Size ≤ count then dropBytes? (count - c.utf8Size) rest
    else none

/-- The number of bytes of a text. -/
def utf8Length : List Char → Nat
  | [] => 0
  | c :: rest => c.utf8Size + utf8Length rest

/-- The name of a type, in front of its arguments. -/
def typeBase (sqlType : List Char) : List Char :=
  trim (sqlType.takeWhile fun c => c != '(')

def mysqlType? (sqlType : String) : Option String := do
  let base := typeBase sqlType.toList
  let arguments ← dropBytes? (utf8Length base) sqlType.toList
  return match String.ofList base with
    | "REAL" => "FLOAT"
    | "DOUBLE PRECISION" => "DOUBLE"
    | "NUMERIC" => "DECIMAL" ++ String.ofList arguments
    | "TIMESTAMP" | "TIMESTAMP WITH TIME ZONE" => "DATETIME"
    | "UUID" => "CHAR(36)"
    | _ => sqlType

/-- A column type as a dialect spells it. -/
def Dialect.typeText? (dialect : Dialect) (sqlType : String) : Option String :=
  match dialect with
  | .mysql => mysqlType? sqlType
  | .postgresql =>
    some (if sqlType = "TIMESTAMP WITH TIME ZONE" then "TIMESTAMPTZ" else sqlType)
  | .generic => some sqlType

end ClassDiagram
