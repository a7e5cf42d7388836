import ClassDiagram.Text.Blank
import ClassDiagram.Text.LetterCase

/-!
# The type vocabulary

The type words that an attribute may use, with the SQL type and the Java type each stands for. The
words for Java's primitive types count in this exact spelling and make a column mandatory; the
other words count in any casing.
-/

namespace ClassDiagram

open Text

structure Typing where
  sqlType : String
  javaType : String
  nullableByDefault : Bool
  deriving DecidableEq, Repr

/-- Columns typed by an enumeration hold the names of its constants. -/
def Typing.ofEnum (enumName : String) : Typing :=
  { sqlType := "VARCHAR(50)", javaType := enumName, nullableByDefault := true }

/-- Keys of these types are numbered by the database. -/
def isIntegral (sqlType : String) : Bool :=
  sqlType == "INTEGER" || sqlType == "BIGINT" || sqlType == "SMALLINT"

def Typing.isIntegral (typing : Typing) : Bool :=
  ClassDiagram.isIntegral typing.sqlType

def primitiveTypings : List (String × Typing) :=
  [("int", ⟨"INTEGER", "Integer", false⟩),
    ("long", ⟨"BIGINT", "Long", false⟩),
    ("short", ⟨"SMALLINT", "Short", false⟩),
    ("byte", ⟨"SMALLINT", "Byte", false⟩),
    ("float", ⟨"REAL", "Float", false⟩),
    ("double", ⟨"DOUBLE PRECISION", "Double", false⟩),
    ("char", ⟨"CHAR(1)", "Character", false⟩),
    ("boolean", ⟨"BOOLEAN", "Boolean", false⟩),
    ("bool", ⟨"BOOLEAN", "Boolean", false⟩)]

/-- The words that count in any casing, here in lower case. -/
def referenceTypings : List (String × Typing) :=
  [("integer", ⟨"INTEGER", "Integer", true⟩),
    ("long", ⟨"BIGINT", "Long", true⟩),
    ("short", ⟨"SMALLINT", "Short", true⟩),
    ("byte", ⟨"SMALLINT", "Byte", true⟩),
    ("float", ⟨"REAL", "Float", true⟩),
    ("double", ⟨"DOUBLE PRECISION", "Double", true⟩),
    ("bigdecimal", ⟨"NUMERIC(19,2)", "BigDecimal", true⟩),
    ("decimal", ⟨"NUMERIC(19,2)", "BigDecimal", true⟩),
    ("string", ⟨"VARCHAR(255)", "String", true⟩),
    ("varchar", ⟨"VARCHAR(255)", "String", true⟩),
    ("text", ⟨"TEXT", "String", true⟩),
    ("character", ⟨"CHAR(1)", "Character", true⟩),
    ("boolean", ⟨"BOOLEAN", "Boolean", true⟩),
    ("date", ⟨"DATE", "LocalDate", true⟩),
    ("localdate", ⟨"DATE", "LocalDate", true⟩),
    ("localdatetime", ⟨"TIMESTAMP", "LocalDateTime", true⟩),
    ("datetime", ⟨"TIMESTAMP", "LocalDateTime", true⟩),
    ("timestamp", ⟨"TIMESTAMP", "LocalDateTime", true⟩),
    ("localtime", ⟨"TIME", "LocalTime", true⟩),
    ("time", ⟨"TIME", "LocalTime", true⟩),
    ("instant", ⟨"TIMESTAMP WITH TIME ZONE", "Instant", true⟩),
    ("uuid", ⟨"UUID", "UUID", true⟩),
    ("id", ⟨"BIGINT", "Long", false⟩),
    ("identifier", ⟨"BIGINT", "Long", false⟩),
    ("ref", ⟨"BIGINT", "Long", false⟩)]

/-- What a type word stands for, blanks around it left aside. -/
def typing? (word : String) : Option Typing :=
  let token := trimmed word
  match primitiveTypings.lookup token with
  | some typing => some typing
  | none => referenceTypings.lookup (lowercased token)

/-- The words of the vocabulary in their customary spellings. -/
def vocabulary : List String :=
  ["int", "integer", "Integer", "long", "Long", "short", "Short", "byte", "Byte", "float", "Float",
    "double", "Double", "BigDecimal", "decimal", "String", "varchar", "Text", "char", "Character",
    "boolean", "bool", "Boolean", "Date", "LocalDate", "LocalDateTime", "DateTime", "Timestamp",
    "LocalTime", "Time", "Instant", "UUID", "ID", "Id", "Identifier", "Ref"]

/-- What must be imported to use a Java type of the vocabulary. -/
def importOf? (javaType : String) : Option String :=
  match javaType with
  | "LocalDate" => some "java.time.LocalDate"
  | "LocalDateTime" => some "java.time.LocalDateTime"
  | "LocalTime" => some "java.time.LocalTime"
  | "Instant" => some "java.time.Instant"
  | "BigDecimal" => some "java.math.BigDecimal"
  | "UUID" => some "java.util.UUID"
  | _ => none

end ClassDiagram
