import ClassDiagram.Text.Blank
import ClassDiagram.Text.Words

/-!
# Naming conventions

A table has the name of its class in snake case (`OrderLine` becomes `order_line`). Java types are
named by the upper camel case of the table, fields by the lower camel case of the column.
-/

namespace ClassDiagram

open Text

def tableName (className : String) : String :=
  snakeCase (trimmed className)

def columnName (attributeName : String) : String :=
  snakeCase (trimmed attributeName)

def typeName (table : String) : String :=
  upperCamelCase table

def fieldName (column : String) : String :=
  lowerCamelCase column

/-- Where the web service offers the rows of a table. -/
def resourcePath (table : String) : String :=
  "/api/" ++ kebabCase table

end ClassDiagram
