import ClassDiagram.Json.Value
import ClassDiagram.Text.Quoted

/-!
# Shapes of JSON values

Readers of values that should have a certain shape. Parts are read in the order of the text, so of
several faults the one that stands first is told. Records may be written as objects or as lists of
their fields; fields that may be left out keep the values of a blank record.
-/

namespace ClassDiagram.Json

/-- Why a value has not the shape that it should have. -/
inductive ShapeFault where
  | missingField (field : String)
  | duplicateField (field : String)
  | unexpected (found expected : String)
  | unknownChoice (word : String) (choices : List String)
  | wrongLength (length : Nat) (name : String) (fields : Nat)
  deriving DecidableEq, Repr

def inBackquotes (word : String) : String :=
  "`" ++ word ++ "`"

def ShapeFault.message : ShapeFault → String
  | .missingField field => "missing field " ++ inBackquotes field
  | .duplicateField field => "duplicate field " ++ inBackquotes field
  | .unexpected found expected => "invalid type: " ++ found ++ ", expected " ++ expected
  | .unknownChoice word choices =>
    "unknown variant " ++ inBackquotes word ++ ", expected one of "
      ++ String.intercalate ", " (choices.map inBackquotes)
  | .wrongLength length name fields =>
    s!"invalid length {length}, expected struct {name} with {fields} elements"

inductive JsonFault where
  | text (defect : Defect)
  | shape (fault : ShapeFault)
  deriving DecidableEq, Repr

def wanted {α : Type} : Except Defect α → Except JsonFault α
  | .ok value => .ok value
  | .error defect => .error (.text defect)

def numberOf (numeral : Numeral) : Except JsonFault Number :=
  match numeral.value? with
  | some number => .ok number
  | none => .error (.text .malformed)

/-- A value as messages show it. -/
def Value.shown : Value → Except JsonFault String
  | .null => .ok "null"
  | .boolean value => .ok ("boolean " ++ inBackquotes (if value then "true" else "false"))
  | .number numeral => do
    let number ← numberOf numeral
    let sort := match number with
      | .integer _ => "integer "
      | .real .. => "floating point "
    return sort ++ inBackquotes number.text
  | .text content _ => (fun text => "string " ++ Text.quoted text) <$> wanted content
  | .list .. => .ok "sequence"
  | .object .. => .ok "map"
  | .fragment defect _ => .error (.text defect)
  | .missing defect => .error (.text defect)

abbrev ValueReader (α : Type) := Value → Except JsonFault α

/-- The fault of a value in whose place another sort of value is expected. -/
def refuse {α : Type} (expected : String) : ValueReader α := fun value => do
  let found ← value.shown
  .error (.shape (.unexpected found expected))

def readString : ValueReader String
  | .text content _ => wanted content
  | value => refuse "a string" value

/-- A number, of which the value does not count. -/
def checkNumber : ValueReader Unit
  | .number numeral => (fun _ => ()) <$> numberOf numeral
  | value => refuse "f64" value

/-- A container whose contents have been read must have an end. -/
def checkEnding (ending : Option Defect) : Except JsonFault Unit :=
  ending.elim (.ok ()) fun defect => .error (.text defect)

def readList {α : Type} (item : ValueReader α) : ValueReader (List α)
  | .list items ending => do
    let values ← items.mapM item
    checkEnding ending
    return values
  | value => refuse "a sequence" value

def choiceOf {α : Type} (all : List α) (name : α → String) (word : String) :
    Except JsonFault α :=
  match all.find? fun choice => name choice == word with
  | some choice => .ok choice
  | none => .error (.shape (.unknownChoice word (all.map name)))

/-- The key of an object that writes a choice. -/
def readChoiceKey : ValueReader String
  | .text content _ => wanted content
  | value => refuse "variant identifier" value

def checkNull : ValueReader Unit
  | .null => .ok ()
  | value => refuse "unit" value

/-- One of several words, written as a text or as the key of an object whose only member is
null. -/
def readChoice {α : Type} (all : List α) (name : α → String) : ValueReader α
  | .text content _ => do choiceOf all name (← wanted content)
  | .object ((key, value) :: others) ending => do
    let choice ← choiceOf all name (← readChoiceKey key)
    checkNull value
    if others.isEmpty then checkEnding ending else .error (.text .malformed)
    return choice
  | .missing defect => .error (.text defect)
  | _ => .error (.text .malformed)

/-- A field of a record of type `α`. -/
structure FieldRule (α : Type) where
  name : String
  required : Bool
  read : α → ValueReader α

structure Shape (α : Type) where
  name : String
  fields : List (FieldRule α)
  blank : α

namespace Shape

variable {α : Type} (shape : Shape α)

def field? (name : String) : Option (FieldRule α) :=
  shape.fields.find? fun field => field.name == name

/-- The key of a member of a record. -/
def keyText : ValueReader String
  | .text content _ => wanted content
  | .missing defect => .error (.text defect)
  | _ => .error (.text .malformed)

/-- A record with what the members of an object say, and the names of the fields given so far.
Members with other keys are passed over. -/
def readMembers (record : α) (given : List String) :
    List (Value × Value) → Except JsonFault (α × List String)
  | [] => .ok (record, given)
  | (key, value) :: rest => do
    let name ← keyText key
    match shape.field? name with
    | none =>
      checkEnding value.ending?
      readMembers record given rest
    | some field =>
      if given.contains name then .error (.shape (.duplicateField name))
      else
        let record ← field.read record value
        readMembers record (name :: given) rest

def missingField? (given : List String) : Option String :=
  (shape.fields.find? fun field => field.required && !given.contains field.name).map
    FieldRule.name

/-- A record with what the items of a list say about some of its fields. `count` fields come
before these. -/
def readItems (ending : Option Defect) (record : α) (count : Nat) :
    List (FieldRule α) → List Value → Except JsonFault α
  | fields, [] => do
    checkEnding ending
    match fields.findIdx? FieldRule.required with
    | none => .ok record
    | some place =>
      .error (.shape (.wrongLength (count + place) shape.name shape.fields.length))
  | [], _ :: _ => .error (.text .malformed)
  | field :: fields, item :: items => do
    let record ← field.read record item
    readItems ending record (count + 1) fields items

def read : ValueReader α
  | .object members ending => do
    let (record, given) ← shape.readMembers shape.blank [] members
    checkEnding ending
    match shape.missingField? given with
    | none => .ok record
    | some name => .error (.shape (.missingField name))
  | .list items ending => shape.readItems ending shape.blank 0 shape.fields items
  | value => refuse ("struct " ++ shape.name) value

/-- The record that a whole text writes. -/
def ofText (text : String) : Except JsonFault α := do
  let (value, rest) := readValue (tokens text.toList)
  let record ← shape.read value
  if rest.isEmpty then .ok record else .error (.text .malformed)

end Shape

end ClassDiagram.Json
