import ClassDiagram.Text.LetterCase

/-!
# SQL dialects

The dialects in which a schema can be written, and how each of them quotes an identifier that is a
reserved word.
-/

namespace ClassDiagram

open Text

inductive Dialect where
  | generic
  | postgresql
  | mysql
  deriving DecidableEq, Repr

namespace Dialect

/-- The dialect that is taken when none is asked for. -/
def standard : Dialect := .postgresql

/-- The dialect that a word stands for, in any casing. -/
def ofWord? (word : String) : Option Dialect :=
  match lowercased word with
  | "generic" | "sql" => some .generic
  | "postgres" | "postgresql" | "pg" => some .postgresql
  | "mysql" | "mariadb" => some .mysql
  | _ => none

def name : Dialect → String
  | .generic => "generic"
  | .postgresql => "postgresql"
  | .mysql => "mysql"

/-- What follows the type of a key that the database numbers. -/
def generatedKeyClause? : Dialect → Option String
  | .postgresql => some "GENERATED BY DEFAULT AS IDENTITY"
  | .mysql => some "AUTO_INCREMENT"
  | .generic => none

end Dialect

/-- Words that cannot stand bare as the name of a table or a column. -/
def reservedWords : List String :=
  ["all", "alter", "and", "as", "asc", "between", "by", "case", "check", "column", "constraint",
    "create", "cross", "current", "default", "delete", "desc", "distinct", "drop", "else", "end",
    "exists", "foreign", "from", "full", "grant", "group", "having", "in", "index", "inner",
    "insert", "into", "is", "join", "key", "left", "like", "limit", "not", "null", "on", "or",
    "order", "outer", "primary", "references", "right", "select", "set", "table", "then", "to",
    "union", "unique", "update", "user", "using", "values", "when", "where", "with"]

def isReserved (identifier : String) : Bool :=
  reservedWords.contains (lowercased identifier)

/-- The identifier, quoted if it is a reserved word. -/
def Dialect.quote (dialect : Dialect) (identifier : String) : String :=
  if isReserved identifier then
    match dialect with
    | .mysql => "`" ++ identifier ++ "`"
    | .generic | .postgresql => "\"" ++ identifier ++ "\""
  else identifier

end ClassDiagram
